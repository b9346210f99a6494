import RemoteSurface.Value
import RemoteSurface.Text.Blank
/-!
Styles. A style has nine known properties, each with values of one kind; a field whose name is
unknown, or whose value is not of its property's kind, is carried along as it is. A property is
held either as a typed setting or as a carried field, never as both.
-/
namespace RemoteSurface

abbrev StyleFields := Table Value

/-- The weight of a typeface. -/
inductive FontWeight where
  | normal
  | medium
  | semibold
  | bold
deriving DecidableEq

/-- How strongly something stands out. -/
inductive Emphasis where
  | none
  | low
  | medium
  | high
deriving DecidableEq

/-- A word without blanks around it and without upper case. -/
def Style.keyword (s : String) : String :=
  String.ofList ((Text.trimChars s.toList).map Char.toLower)

namespace FontWeight

/-- Reads a weight; `regular` is another word for `normal`. -/
def parse? (s : String) : Option FontWeight :=
  match Style.keyword s with
  | "normal" => some .normal
  | "regular" => some .normal
  | "medium" => some .medium
  | "semibold" => some .semibold
  | "bold" => some .bold
  | _ => none

def name : FontWeight → String
  | .normal => "normal"
  | .medium => "medium"
  | .semibold => "semibold"
  | .bold => "bold"

end FontWeight

namespace Emphasis

def parse? (s : String) : Option Emphasis :=
  match Style.keyword s with
  | "none" => some .none
  | "low" => some .low
  | "medium" => some .medium
  | "high" => some .high
  | _ => Option.none

def name : Emphasis → String
  | .none => "none"
  | .low => "low"
  | .medium => "medium"
  | .high => "high"

end Emphasis

namespace Style

/-- The kinds of settings. -/
inductive Kind where
  | number
  | weight
  | emphasis
  | text
deriving DecidableEq

abbrev Kind.Setting : Kind → Type
  | .number => Double
  | .weight => FontWeight
  | .emphasis => Emphasis
  | .text => String

/-- Reads a setting of a kind out of a value. -/
def Kind.read? : (k : Kind) → Value → Option k.Setting
  | .number, v => v.asNumber?
  | .weight, v => v.asText?.bind FontWeight.parse?
  | .emphasis, v => v.asText?.bind Emphasis.parse?
  | .text, v => v.asText?

/-- The value that a setting stands for. -/
def Kind.write : (k : Kind) → k.Setting → Value
  | .number, x => .number x
  | .weight, w => .text w.name
  | .emphasis, e => .text e.name
  | .text, s => .text s

/-- The known properties. -/
inductive Property where
  | fontSize
  | spacing
  | padding
  | cornerRadius
  | opacity
  | fontWeight
  | emphasis
  | color
  | backgroundColor
deriving DecidableEq

namespace Property

def all : List Property :=
  [fontSize, spacing, padding, cornerRadius, opacity, fontWeight, emphasis, color, backgroundColor]

def name : Property → String
  | fontSize => "fontSize"
  | spacing => "spacing"
  | padding => "padding"
  | cornerRadius => "cornerRadius"
  | opacity => "opacity"
  | fontWeight => "fontWeight"
  | emphasis => "emphasis"
  | color => "color"
  | backgroundColor => "backgroundColor"

def ofName? (s : String) : Option Property := all.find? fun p => p.name == s

def kind : Property → Kind
  | fontSize | spacing | padding | cornerRadius | opacity => .number
  | fontWeight => .weight
  | emphasis => .emphasis
  | color | backgroundColor => .text

end Property

end Style

/-- A style: the settings of the known properties, and the fields carried along. -/
structure Style where
  setting : (p : Style.Property) → Option p.kind.Setting
  extra : StyleFields

namespace Style

def none : Style := ⟨fun _ => Option.none, .empty⟩

def withSetting (s : Style) (p : Property) (x : Option p.kind.Setting) : Style :=
  { s with setting := fun q => if h : p = q then h ▸ x else s.setting q }

/-- Lays one field over a style. A value of the property's kind becomes its setting; any other
value clears the setting and is carried along instead. -/
def applyField (s : Style) (name : String) (v : Value) : Style :=
  match Property.ofName? name with
  | Option.none => { s with extra := s.extra.put name v }
  | some p =>
    match p.kind.read? v with
    | some x => { s.withSetting p (some x) with extra := s.extra.erase name }
    | Option.none => { s.withSetting p Option.none with extra := s.extra.put name v }

/-- Lays fields over a style, one after another. -/
def applyAll (s : Style) (fields : Members Value) : Style :=
  fields.foldl (fun s f => s.applyField f.1 f.2) s

/-- Lays a table of fields over a style. -/
def apply (s : Style) (fields : StyleFields) : Style := s.applyAll fields.members

/-- Stores the setting of a property under its name. -/
def writeSetting (s : Style) (fields : StyleFields) (p : Property) : StyleFields :=
  match s.setting p with
  | some x => fields.put p.name (p.kind.write x)
  | Option.none => fields

def toFields (s : Style) : StyleFields := Property.all.foldl s.writeSetting s.extra

def isEmpty (s : Style) : Bool := s.toFields.isEmpty

end Style

end RemoteSurface
