import Camcorder.Decimal.Text
import Camcorder.Toml.Quoted
import Camcorder.Word

/-!
# TOML values

A document is a table of values. Tables come about in several ways, and that decides how they may be extended:
`TableKind` keeps track of it, and `update` enforces it.
-/

namespace Camcorder.Toml

/-- How a table came about. -/
inductive TableKind where
  /-- Written between braces: complete. -/
  | closed
  /-- Named by a header of its own. -/
  | headed
  /-- Named on the way to another table by a header. -/
  | implied
  /-- Named on the way to a value by a dotted key. -/
  | dotted
deriving DecidableEq, Repr

/-- A TOML value. -/
inductive Value where
  | text (s : String)
  | integer (n : Int)
  | float (x : Float)
  | bool (b : Bool)
  /-- A date, a time or both. -/
  | date
  | array (items : List Value)
  | table (kind : TableKind) (entries : List (String × Value))
  /-- Tables named by one header, each by a repetition of it. -/
  | tables (items : List (List (String × Value)))
deriving Inhabited

/-- The entries of a table, in order, each key once. -/
abbrev Entries := List (String × Value)

namespace Entries

/-- Gives a new value to a key that is there. -/
def replace (entries : Entries) (key : String) (v : Value) : Entries :=
  entries.map fun (k, old) => if k == key then (k, v) else (k, old)

/-- Adds a key that is not there yet. -/
def add? (entries : Entries) (key : String) (v : Value) : Option Entries :=
  if (entries.lookup key).isSome then none else some (entries ++ [(key, v)])

/-- Changes the table that is found by going down `path` from a table of the given kind; missing tables are made
on the way. A dotted key must not lead through a table with a header, and nothing leads into a closed one. From
tables with one header the last is taken. -/
def update? (viaDots : Bool) (change : TableKind → Entries → Option Entries) :
    (path : List String) → TableKind → Entries → Option Entries
  | [], kind, entries => change kind entries
  | key :: path, _, entries =>
    match entries.lookup key with
    | none => do
      let kind := if viaDots then TableKind.dotted else TableKind.implied
      return entries ++ [(key, .table kind (← update? viaDots change path kind []))]
    | some (.table kind inner) =>
      if kind = .closed ∨ (viaDots ∧ kind = .headed) then none
      else do return replace entries key (.table kind (← update? viaDots change path kind inner))
    | some (.tables items) => do
      let last ← update? viaDots change path .headed (items.getLast?.getD [])
      return replace entries key (.tables (items.dropLast ++ [last]))
    | some _ => none

/-- Adds the value of a dotted key. All but its last part name tables that dotted keys have made. -/
def assign? (path : List String) (v : Value) (kind : TableKind) (entries : Entries) : Option Entries :=
  let change (last : String) (dotted : Bool) (kind : TableKind) (entries : Entries) : Option Entries :=
    if (kind == .dotted) != dotted then none else add? entries last v
  match path.getLast? with
  | none => none
  | some last => update? true (change last (path.length != 1)) path.dropLast kind entries

/-- Begins the table of a header. It may exist already if other headers have implied it. -/
def open? (key : String) (_ : TableKind) (entries : Entries) : Option Entries :=
  match entries.lookup key with
  | none => some (entries ++ [(key, .table .headed [])])
  | some (.table .implied inner) => some (replace entries key (.table .headed inner))
  | some _ => none

/-- Begins a further table of a repeated header. -/
def append? (key : String) (_ : TableKind) (entries : Entries) : Option Entries :=
  match entries.lookup key with
  | none => some (entries ++ [(key, .tables [[]])])
  | some (.tables items) => some (replace entries key (.tables (items ++ [[]])))
  | some _ => none

end Entries

/-! ## Taking values apart -/

namespace Value

def toText? : Value → Option String
  | .text s => some s
  | _ => none

def toBool? : Value → Option Bool
  | .bool b => some b
  | _ => none

/-- A whole number from 0 to below `limit`. -/
def toNatBelow? (limit : Nat) : Value → Option Nat
  | .integer n => if 0 ≤ n ∧ n < limit then some n.toNat else none
  | _ => none

/-- A number, whole or not. -/
def toFloat? : Value → Option Float
  | .float x => some x
  | .integer n => some (Float.ofInt n)
  | _ => none

/-- Whether the value is an array or a table of nothing. -/
def isEmpty : Value → Bool
  | .array [] => true
  | .table _ [] => true
  | _ => false

/-- One of several names: as a text, or as the only key of a table with an empty value. -/
def toName? {α : Type} (ofName? : String → Option α) : Value → Option α
  | .text s => ofName? s
  | .table _ [(s, v)] => if v.isEmpty then ofName? s else none
  | _ => none

/-- The fields of a record: those of a table by name, or the items of an array in the order of `names`. A date is
a record without known fields. -/
def toFields? (names : List String) : Value → Option Entries
  | .table _ entries => some entries
  | .array items => some (names.zip items)
  | .tables items => some (names.zip (items.map fun entries => .table .headed entries))
  | .date => some []
  | _ => none

end Value

namespace Entries

/-- The value of a field, `absent` if it is missing. -/
def field {α : Type} (fields : Entries) (name : String) (absent : α) (read? : Value → Option α) : Option α :=
  match fields.lookup name with
  | none => some absent
  | some v => read? v

end Entries

/-! ## Writing -/

/-- The largest whole number that a document can hold. -/
def greatestInteger : Nat := signedWordLimit - 1

/-- A number, with the fewest digits that read back and never with an exponent. -/
def floatText (x : Float) : String :=
  if x.isNaN then "nan"
  else
    (if Decimal.isNegative x then "-" else "") ++
      (if x.isInf then "inf" else ((Decimal.Binary.ofFloat x).shortest .up).positional)

def boolText (b : Bool) : String := if b then "true" else "false"

/-- A line with a key and the text of its value. -/
def line (key value : String) : String := key ++ " = " ++ value ++ "\n"

/-- A table: its header, then its lines. -/
def tableText (name : String) (lines : List String) : String :=
  "[" ++ name ++ "]\n" ++ String.join lines

end Camcorder.Toml
