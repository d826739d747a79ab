import Camcorder.Json.Reader

/-!
# From JSON values to records

A record is written as an object with its fields by name, in any order and among others, or as an array of all its
fields in order. A repeated field is an error.
-/

namespace Camcorder.Json

/-- Reads a value of type `α`. -/
abbrev Decoder (α : Type) := Value → Option α

namespace Decoder

def bool : Decoder Bool
  | .bool b => some b
  | _ => none

def text : Decoder String
  | .text s => s
  | _ => none

/-- A whole number below `limit`. -/
def natBelow (limit : Nat) : Decoder Nat
  | .number numeral => do
    let n ← (← Numeral.ofChars? numeral.toList).toNat?
    if n < limit then some n else none
  | _ => none

/-- A number of 32 bits. -/
def halfWord : Decoder Nat := natBelow halfWordLimit

/-- A number of 64 bits. -/
def word : Decoder Nat := natBelow wordLimit

def float : Decoder Float
  | .number numeral => do (← Numeral.ofChars? numeral.toList).toFloat?
  | _ => none

/-- `null`, or what `d` reads. -/
def nullable {α : Type} (d : Decoder α) : Decoder (Option α)
  | .null => some none
  | v => (d v).map some

/-- One of several names, as a string or as the only key of an object with the value `null`. -/
def oneOf {α : Type} (ofName? : String → Option α) : Decoder α
  | .text (some s) => ofName? s
  | .object [(some s, .null)] => ofName? s
  | _ => none

end Decoder

/-- What a record says about one of its fields. -/
inductive Slot where
  | given (v : Value)
  /-- The object does not name the field. -/
  | omitted
  /-- The array ends before the field. -/
  | cut

/-- The fields of a record. -/
abbrev Record := List (String × Slot)

namespace Record

/-- The value of `name`, `none` for a repeated field. -/
def slotOf? (name : String) (fields : List (Option String × Value)) : Option Slot :=
  match fields.filter (fun (k, _) => k == some name) with
  | [] => some .omitted
  | [(_, v)] => some (.given v)
  | _ => none

/-- The fields `names` of a record. -/
def of? (names : List String) : Value → Option Record
  | .object fields => do
    guard (fields.all fun (k, _) => k.isSome)
    names.mapM fun name => return (name, ← slotOf? name fields)
  | .array items =>
    if items.length ≤ names.length then
      some (names.zipIdx.map fun (name, i) =>
        (name, match items[i]? with | some v => .given v | none => .cut))
    else none
  | _ => none

/-- A field that has to be there. -/
def required {α : Type} (r : Record) (name : String) (d : Decoder α) : Option α :=
  match r.lookup name with
  | some (.given v) => d v
  | _ => none

/-- A field that an object may leave out or set to `null`. -/
def optional {α : Type} (r : Record) (name : String) (d : Decoder α) : Option (Option α) :=
  match r.lookup name with
  | some (.given v) => d.nullable v
  | some .omitted => some none
  | _ => none

/-- A field that has the value `a` unless it is there. -/
def defaulted {α : Type} (r : Record) (name : String) (a : α) (d : Decoder α) : Option α :=
  match r.lookup name with
  | some (.given v) => d v
  | _ => some a

end Record

end Camcorder.Json
