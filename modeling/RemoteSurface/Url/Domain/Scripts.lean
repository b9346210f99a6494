import RemoteSurface.Text.Runs
/-!
The direction in which characters are written, and how they join their neighbours.
-/
namespace RemoteSurface

namespace Domain

/-- The runs of directions: L is left to right, R and A are right to left, E and N are digits of the
one and the other, S, C and T stand between and beside digits, O is neutral, B is nothing at all, M
is a mark, and X separates. -/
def directionRuns : List Run := Run.parse <| String.join
  ["9B5XeB5X2O3T5O1S1C1S2CaE1C6OqL6OqL4O6B1XqB1C1O4T4O1L2O1B2O2T2E1O1L3O1E1L5OnL1OvL1OchL2O7LeO2Le",
   "O5L9O1LhO34M4L2O8L1O5L2O1L1O32L1O3wL7M74L1O2L2O1T1L19M1R1M1R2M1R2M1R1M8LrR4L6RbL6N2O1A2T1A1C1A",
   "2ObM1cAlMaN1T2N3A1M2tA7M1N1O6M2A2M1O4M2AaEkA1L2A1MuArM2L2hAbM1AeL17R9M2R4O1R2L1MoR4M1R9M1R3M1R",
   "5M2LfR1LpR3M2L1R1LbA5LvA1L2N6L8M16AoM1NwM1jL1M1L1M4L8M4L1M3L7MaL2MtL1M1mL1M4L4M8L1MkL2MeL2T7L1",
   "T2L1M2L2M1lL1M4L2M4L2M2L3M3L1MuL2M3L1MbL2M1lL1M4L5M1L2M4L1MkL2MdL1T8L6M1L1M1mL1M2L1M1L4M8L1M7L",
   "2MbL2MuL1M1pL1McL1M11L6O1T1O5L1M3L1M1jL1M1L3M5L3M1L4M7L2MbL2MkL7O2L1M1mL1MfL2MkL2MsL2M1lL2M4L4",
   "M8L1MkL2MtL1M20L1M7L3M1L1M2iL1M2L7M4L1T7L8M2qL1M2L9MbL6M22L2MrL1M1L1M1L1M4O1fLeM1L5M1L2M5LbM1L",
   "10M9L1M2uL4M1L6M1L2M2L2MpL2M4L3MgL4MdL1M2L2M6L1MfL1MjjL3M1cLaO2uL1OhrL1XqL2O39L3MtL2MuL2MuL2M1",
   "sL2M1L7M8L1M2LbM7L1T1L1MiLaO6LbO3M1B1M39L2MyL1M3aL3M4L2M9L1M6L3M4L1O3L2O48LyOnL2M2L1M1mL1M1L7M",
   "1L1M1L1M2L8M6LaM2L1M1cLvM1dL4M1cL1M1L5M1L1M5L1M14L9McL2MwL4M2L2M1L3M1kL1M1L2M3L1M1L3M1mL8M2L2M",
   "48L3M1LdM1L7M4L1M6L1M3L2M5iL1sMcdL1O1L3ObL3OdL3OdL3OdL2O1LbX3B1L1RoO7X1C5TfO1CqO1X5B1L4X6B1E3L",
   "6E2S3O1LaE2S3OhLxTfLxMfL2O1L4O1L2OaL1O1L3O5L6O1L1O1L1O1L1O4L1TbL2O4L5O5L4O2LgO15L3O4L3mO1S1T82",
   "O1xLqO1L41OpLbOlL14OkE26LciO1L9fO74LhgO2LwO1L2xO6dL6O4L3M7L7O3jL1M2oLwM2mOyLqO1L2hOcL5yOqLcO4L",
   "1X4O3LpO9L4M2L1O5L2O5L3O2hL2M2O3L1O2iL1O5gL10O1lL2O1dLgOsL3O1eLfOcL4O4nL4O2rL2OvL1O534L1sOh3kL",
   "1jO92L3O2nL4M1OaM2OuL2M28L2MeLyO2uL1O3dL1M3L1M4L1MpL2M1L4O1MbL2T1mL4O24L2MqLiMdL1M12L8MpLbM1aL",
   "3M1cL1M2L4M2L2M13L1M1vL6M2L2M2L2McL1M8L1M1bL1M1fL1M1L3M2L2M5L2M1L1M16L2M8L1M37L2O3dL1M2L1M4L1M",
   "fn3L1R1MaR1SdR1L5R1L1R1L2R1L2R1LaR37AgLa3AiO1sA2L1iA7L1OwLdA3OgMaO6LgMwO1C1O1C1L1O1C9O1T2O2S3O",
   "1L1O2T1O4L5A1L3rA2L1B1L2O3T5O1S1C1S2CaE1C6OqL6OqLbO3eL2T3O2T1L7OaL5O77L1O1qL25O3LdO3L1O2kL1M6a",
   "L1MrE3eL5Mw5L6R2L1R1L18R1L2R3L1R2LnR1L20R8L9R1cLjR1L2R5LxR3L1OqR5L1R1sL1kR4LkR2L1bR3M1L2M5L4M4",
   "R1L3R1LtR2L3M4L1M9R7L9R7L1sRwL11R2M4LcR9L1iR3L7OmR2LrR5LqR7L4RcL7R28L21R1jL1fRdL1fR7L6R10A4M8L",
   "aN86LvN1L16R1L2M1R2L2R26L14R8LmAbM9AmLiR4M4R12LsRkLnRaL1M1iLfMbLkOaL1M2L2MaL3M1dL4M2L2M7L1M1pL",
   "3M10L5M1L8M1qL1McL2M1gL9MaL4M2L1M2nL3M2L1M1L2M6L1M4gL1M3L8MlL2M1lL2M3L1M11L7M3L5M5fL8M2L3M1L1M",
   "nL1M2cL6M1L1M4L2M1L2M6mL4M6L2M1L2MrL2M2dL8M2L1M1L2MvLdO1qL1M1L1M2L6M1L1M2tL3M2L4M1L5M77L9M1L2M",
   "74L2M1L1M4L1M40L4M2L2M4L1MwL6M2L2M14L6M2L4M8L1M9L6M2L3M1aLdM1L2MbaL7M1L6M2cLmM2L7M1L2M1L2M3eL6",
   "M3L1M1L2M1L7M1L1M20L2M3L1M1L1M9nL2M68L8O4ThOetaL5M1nL7Mt4L1M1rL4M27L1O1L1Mf5kL2M1L4B3mkL1aM2Ln",
   "Mf4L3M9L8B8M2L7MuL4M1nL2OlL1uO3M1O56L2fOp0L1O1lL1O1lL1O1lL1O1lL1OaL1eEe8L1jM4L1eM8L1MeL1MmL5M1",
   "LfM11sL7M1LhM2L7M1L2M1L5M79L7MafL1M1pL4MfL1TzkL5hR2L9R7M15L1wR7M1R4LaR4L2RltL1wA24L1pA5eL4A1Lr",
   "A1L2A1L1A2L1A1LaA1L4A1L1A1L1A6L1A4L1A1L1A1L1A1L3A1L2A1L1A2L1A1L1A1L1A1L1A1L1A1L2A1L1A2L4A1L7A1",
   "L4A1L4A1L1A1LaA1LhA5L3A1L5A1LhA1gL2O7iL18O4L2sOcLfO2LfO1LfO1L11OaLbE5OvL1O1mL6O1pL1O4yL6O4aLrc",
   "O5LgO3LdO3L38OcL2hO7LcO4L1OfLcO4L1kO8LaO6L14O8LuO2L2O26L9gOcLeO2L5O3L5O3L7O9LtO3LbO5L6OaLaO6L8",
   "O8L7O9L43O1L1jO11LaEgvlzL1BuL2oB3kL6oM"]

/-- The runs of joining: R joins what is before it, L what is after it, D both, C causes joining, T
lets it pass, and U does not join. -/
def joiningRuns : List Run := Run.parse <| String.join
  ["4tU1TgiU34T7nU7T7bU19T1U1T1U2T1U2T1U1T20UbT1U1T3U1D1U4R1D1R1D1R5D4RdD1C7D1R2DlTeU2D1T3R1U3RgDi",
   "R12D1R2D9R1D1R1D1R2D2R1U1R7T2U6T2U2T1U4T2RaU3D2U1DfU1T1R1T3D5R4D1R9D1R1D1R1D1R2D1RrT2U1RbD3RfD",
   "2R4D1R1D2R3D2R6D12UbTpUxD9T6U1C2U1ToU4T1U9T1U3T1U5TiU1R5D2R1D1RaD1R1D3R3T4U1D1U4D1U1R1D2R5UjR3",
   "C1D2U5D1R1D7U9TaD3R1U1R2D2R6D1RfD1UoT1UwT1jU1T1U1T4U8T4U1T3U7TaU2TtU1T1mU1T4U4T8U1TkU2TqU1T2U2",
   "T1lU1T4U2T4U2T2U3T3U1TuU2T3U1TbU2T1lU1T4U5T1U2T4U1TkU2TmU6T1U1T1mU1T2U1T1U4T8U1T7U2TbU2TuU1T1p",
   "U1TcU1T1eU1T3U1T1jU1T1U3T5U3T1U4T7U2TbU2TtU1T1mU1T2U1T6U1T5U2TkU2TsU2T1lU2T4U4T8U1TkU2TtU1T20U",
   "1T7U3T1U1T2iU1T2U7TcU8T2qU1T2U9TbU7T21U2TrU1T1U1T1U1T1jUeT1U5T1U2T5UbT1U10T9U1T2uU4T1U6T1U2T2U",
   "2TpU2T4U3TgU4TdU1T2U2T6U1TfU1TjjU3TqaU3TtU2TuU2TuU2T1sU2T1U7T8U1T2UbT9U1T15U1D2U1C3T1U1TgU2hDc",
   "U2TyD1T1D39U3T4U2T9U1T6U3T63U2T2U1T1mU1T1U7T1U1T1U1T2U8T6UaT2U1T1cU1aT2UcTkU4T1cU1T1U5T1U1T5U1",
   "T14U9TcU2TwU4T2U2T1U3T1kU1T1U2T3U1T1U3T1mU8T2U2T48U3T1UdT1U7T4U1T6U1T3U2T5iU1sTejU1T1U1C2TqU5T",
   "1dU5T5U6T2oUxT2daU3T3xU1T2oUwTfeU4T2zU2Tn9wU4T1UaTwU2T28U2T7kU1T3U1T4U1TpU2T5U1TjU1eD1L29U2TqU",
   "iTdU1T12U8TpUbT1aU3T1cU1T2U4T2U2T13U1T1vU6T2U2T2U2TcU1T8U1T1bU1T1fU1T1U3T2U2T5U2T1U1T16U2T8U1T",
   "6mU1T2U1T4U1Tfn4U1TkhUgTgUgT5rU1T6xU3Te9U1T6aU1T45U5T1aeU3T1U2T5U4T14U3T4U1T3kU5D1R1U1R1U2R2U1",
   "L5R4D1L5D1R3D1R2U1R2T4U4D1R40U1D1R1D3R3D1R2D1R1D2R1D1RnU4R2D9dU1LxD1R1D4T1tU5T8tU2TlU1R2D1U2D1",
   "eU6T1cU3D1RhD1UbT3D1RrU4D2RcD4T16U1D1U2D3R1U1D2R2D1R2D1U1D2R1D4U1R1D1L1hU1T1iUfT15U1T2U2TaU3T1",
   "dU4T2U2T7U1T1pU3T10U5T1U8T1qU1TcU2T1gU9TaU4T2U1T2nU3T2U1T1U2T6U1T2U1T4dU1T3U8TlU2T1lU2T3U1T11U",
   "7T3U5T1yU6TdU1T1U1T1U1TeU2T2dU8T2U3T1U1TnU1T2cU6T1U1T4U2T1U2T6mU4T6U2T1U2TrU2T2dU8T2U1T1U2T2yU",
   "1T1U1T2U6T1U1T2tU1T1U1T2U4T1U5T77U9T1U2T74U2T1U1T4U1T40U4T2U2T4U1TwUaT14U6T2U4T8U1T9U6T2U3T1aU",
   "dT1U2T5iU1T1U3T1U1T5lU7T1U6T1U1T2aUmT2U7T1U2T1U2T3eU6T3U1T1U2T1U7T1U1T20U2T3U1T1U1T9nU2TbU2T1g",
   "U5T5U1T1U1TnU1T445UhT6UfT8ugUcT3U3T1xcU5T1nU7Tt4U1T1rU4T29U1Tf5kU2T1U4T3mkU1aT2UnTf4U3T9UgT2U7",
   "TuU4T44U3T1izU1jT4U1eT8U1TeU1TmU5T1UfT11sU7T1UhT2U7T1U2T1U5T2sU1T4gU7TafU1T1pU4Te4U4T72U2T6rU1",
   "T2U1T7U2T5U1Td6U7T15U1wD8TgzatU1TuU2oT3kU6oT"]

def direction (c : Char) : Char := ((Run.find? c.toNat directionRuns).map Run.label).getD 'L'

def joining (c : Char) : Char := ((Run.find? c.toNat joiningRuns).map Run.label).getD 'U'

end Domain

end RemoteSurface
