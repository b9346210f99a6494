import RemoteSurface.Value
/-!
Entries of a data model update: a key and the value to store under it, given by one of five
variants. The map variant nests: it is a list of entries again, or a plain object.
-/
namespace RemoteSurface

mutual

/-- One keyed value. A well-formed entry sets exactly one of its five variants. -/
inductive Entry where
  | mk (key : String) (text : Option String) (number : Option Double) (boolean : Option Bool)
      (map : EntryMap) (list : Option (List Value))

/-- The map variant of an entry: absent, nested entries, or a plain object. -/
inductive EntryMap where
  | absent
  | entries (nested : List Entry)
  | object (fields : DataModel)

end

namespace Entry

/-- The variants that an entry may set, in the order in which the first one set wins. -/
def variantNames : List String :=
  ["valueString", "valueNumber", "valueBoolean", "valueMap", "valueArray"]

/-- The keys of an entry, in the order of its fields. -/
def fieldNames : List String := "key" :: variantNames

def blank : Entry := .mk "" none none none .absent none

instance : Inhabited Entry := ⟨blank⟩

/-- The key to store under. -/
def key : Entry → String
  | .mk k _ _ _ _ _ => k

/-- Whether the map variant is set. -/
def hasMap : EntryMap → Bool
  | .absent => false
  | _ => true

/-- The names of the variants that an entry sets. -/
def variants : Entry → List String
  | .mk _ t n b m l =>
    let isSet := [t.isSome, n.isSome, b.isSome, hasMap m, l.isSome]
    ((variantNames.zip isSet).filter Prod.snd).map Prod.fst

/-- The first of the variants other than the map that come before it. -/
def scalar? (text : Option String) (number : Option Double) (boolean : Option Bool) :
    Option Value :=
  (text.map .text).or <| (number.map .number).or (boolean.map .bool)

mutual

/-- The value that an entry gives: that of its first variant, if it sets one. -/
def value? : Entry → Option Value
  | .mk _ t n b m l => ((scalar? t n b).or (mapValue? m)).or (l.map .list)

def mapValue? : EntryMap → Option Value
  | .absent => none
  | .entries nested => some (.map (storeAll .empty nested).members)
  | .object fields => some (.map fields.members)

/-- Stores entries one after another; an entry without a value stores nothing. -/
def storeAll (m : DataModel) : List Entry → DataModel
  | [] => m
  | e :: rest =>
    match value? e with
    | some v => storeAll (m.put e.key v) rest
    | none => storeAll m rest

end

/-- The data model that entries make: of two with one key, the later stays. -/
def toModel (entries : List Entry) : DataModel := storeAll .empty entries

/-- Sets the field of a key other than the map variant. -/
def setPlain (k : String) (v : Json) : Entry → Json.Reading Entry
  | .mk key t n b m l =>
    match k with
    | "key" => (Json.readText v).map fun x => .mk x t n b m l
    | "valueString" => (Json.readOptional Json.readText v).map fun x => .mk key x n b m l
    | "valueNumber" => (Json.readOptional Json.readDouble v).map fun x => .mk key t x b m l
    | "valueBoolean" => (Json.readOptional Json.readBool v).map fun x => .mk key t n x m l
    | "valueArray" =>
      (Json.readOptional (Json.readList Value.read) v).map fun x => .mk key t n b m x
    | _ => .ok (.mk key t n b m l)

def setMap (m : EntryMap) : Entry → Entry
  | .mk key t n b _ l => .mk key t n b m l

mutual

def read : Json → Json.Reading Entry
  | .object members => readMembers members blank
  | .array items =>
    (readItems items fieldNames blank).bind fun e =>
      if fieldNames.length < items.length then .error (.tooManyItems items.length) else .ok e
  | v => v.misfit "struct DataModelUpdateEntry"

/-- Fills an entry from members, in their order. -/
def readMembers : List (String × Json) → Entry → Json.Reading Entry
  | [], e => .ok e
  | ("valueMap", v) :: rest, e => (readMap v).bind fun m => readMembers rest (setMap m e)
  | (k, v) :: rest, e => (setPlain k v e).bind (readMembers rest)

/-- Fills an entry from items, in the order of the fields; items beyond the fields are left. -/
def readItems : List Json → List String → Entry → Json.Reading Entry
  | [], _, e => .ok e
  | _ :: _, [], e => .ok e
  | v :: vs, "valueMap" :: ks, e => (readMap v).bind fun m => readItems vs ks (setMap m e)
  | v :: vs, k :: ks, e => (setPlain k v e).bind (readItems vs ks)

/-- Reads a map variant: a list of entries if it can be read as one, else an object. -/
def readMap : Json → Json.Reading EntryMap
  | .null => .ok .absent
  | .array items =>
    match readList items with
    | .ok nested => .ok (.entries nested)
    | .error _ => .error (.noVariant "ValueMap")
  | .object members => .ok (.object (Table.ofList (Value.ofMembers members)))
  | _ => .error (.noVariant "ValueMap")

def readList : List Json → Json.Reading (List Entry)
  | [] => .ok []
  | v :: rest => (read v).bind fun e => (readList rest).map fun es => e :: es

end

def readEntries : Json → Json.Reading (List Entry)
  | .array items => readList items
  | v => v.misfit "a sequence"

mutual

/-- The JSON object of an entry: its key and the variants it sets. -/
def toJson : Entry → Json
  | .mk key t n b m l =>
    .object <| ("key", .text key) ::
      ((match l with
          | some xs => [("valueArray", .array (Value.toItems xs))]
          | none => []) ++
        (match b with
          | some x => [("valueBoolean", .bool x)]
          | none => []) ++
        mapToMember m ++
        (match n with
          | some x => [("valueNumber", .ofDouble x)]
          | none => []) ++
        (match t with
          | some s => [("valueString", .text s)]
          | none => []))

def mapToMember : EntryMap → List (String × Json)
  | .absent => []
  | .entries nested => [("valueMap", .array (listToJson nested))]
  | .object fields => [("valueMap", fields.toJson)]

def listToJson : List Entry → List Json
  | [] => []
  | e :: rest => toJson e :: listToJson rest

end

end Entry

end RemoteSurface
