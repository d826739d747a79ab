import Camcorder.Decimal.Text
import Camcorder.Word

/-!
# JSON values

A value keeps what its text says: a number as its numeral, the fields of an object in their order and with their
repetitions. A string may name UTF-16 units that are no text, so its content is optional.

`Value.render` writes a value without blanks.
-/

namespace Camcorder.Json

/-- A JSON value. -/
inductive Value where
  | null
  | bool (b : Bool)
  /-- A number, by its numeral. -/
  | number (numeral : String)
  /-- A string; `none` if its escapes name half of a surrogate pair. -/
  | text (s : Option String)
  | array (items : List Value)
  | object (fields : List (Option String × Value))
deriving Inhabited

/-! ## Numerals -/

/-- A numeral, taken apart. -/
structure Numeral where
  negative : Bool
  /-- The digits before the point. -/
  whole : List Nat
  /-- The digits after the point, if there is one. -/
  fraction : Option (List Nat)
  /-- Whether the exponent is negative, and its digits, if there is one. -/
  exponent : Option (Bool × List Nat)
deriving DecidableEq, Repr

namespace Numeral

/-- The digits at the front, and the rest. -/
def digits : List Char → List Nat × List Char
  | [] => ([], [])
  | c :: cs =>
    match Decimal.digit? c with
    | some d => let (ds, rest) := digits cs; (d :: ds, rest)
    | none => ([], c :: cs)

/-- The part from the point on, if it is there and has digits. -/
def fractionPart : List Char → Option (Option (List Nat) × List Char)
  | '.' :: cs =>
    match digits cs with
    | ([], _) => none
    | (ds, rest) => some (some ds, rest)
  | cs => some (none, cs)

/-- The exponent, if it is there and has digits. -/
def exponentPart : List Char → Option (Option (Bool × List Nat))
  | [] => some none
  | e :: cs =>
    if e == 'e' || e == 'E' then
      let (negative, cs) := match cs with
        | '-' :: cs => (true, cs)
        | '+' :: cs => (false, cs)
        | cs => (false, cs)
      match digits cs with
      | ([], _) => none
      | (ds, []) => some (some (negative, ds))
      | (_, _ :: _) => none
    else none

/-- Takes a numeral apart. A whole part of several digits does not begin with zero. -/
def ofChars? (cs : List Char) : Option Numeral := do
  let (negative, cs) := match cs with
    | '-' :: cs => (true, cs)
    | cs => (false, cs)
  let (whole, cs) := digits cs
  guard (whole != [] && (whole.length == 1 || whole.head? != some 0))
  let (fraction, cs) ← fractionPart cs
  let exponent ← exponentPart cs
  return { negative, whole, fraction, exponent }

/-- The whole number, if the numeral has neither sign, point nor exponent. -/
def toNat? (n : Numeral) : Option Nat :=
  if n.negative || n.fraction.isSome || n.exponent.isSome then none
  else some (Decimal.ofDigits 10 n.whole)

/-! A double is read from the digits that fit a 64-bit word, scaled by one power of ten. -/

/-- As many digits as fit a 64-bit word, after those of `acc`; the number they make, and the digits left. -/
def takeWord (acc : Nat) : List Nat → Nat × List Nat
  | [] => (acc, [])
  | d :: ds => if acc * 10 + d < wordLimit then takeWord (acc * 10 + d) ds else (acc, d :: ds)

/-- `significand * 10 ^ exponent` by one multiplication or division in double precision; a magnitude beyond the
range of doubles is refused. Below the least power of ten that a double can hold, it divides twice. -/
def scale? (significand : Nat) (exponent : Int) : Option Float :=
  let f := Float.ofNat significand
  let power (k : Nat) : Float := Float.ofScientific 1 false k
  if significand == 0 then some f
  else if 308 < exponent then none
  else if 0 ≤ exponent then
    let scaled := f * power exponent.toNat
    if scaled.isInf then none else some scaled
  else if -308 ≤ exponent then some (f / power (-exponent).toNat)
  else if -616 ≤ exponent then some (f / power 308 / power (-exponent - 308).toNat)
  else some 0.0

/-- The double that the numeral names, if its magnitude is in range. -/
def toFloat? (n : Numeral) : Option Float := do
  let (significand, cut) := takeWord 0 n.whole
  let (significand, used) := match n.fraction with
    | none => (significand, 0)
    | some ds =>
      let (s, left) := takeWord significand ds
      (s, ds.length - left.length)
  let written : Int := match n.exponent with
    | none => 0
    | some (negative, ds) =>
      let e : Int := (Decimal.ofDigits 10 ds : Nat)
      if negative then -e else e
  let magnitude ← scale? significand (cut.length - used + written)
  return if n.negative then -magnitude else magnitude

end Numeral

/-! ## Building values -/

namespace Value

def ofNat (n : Nat) : Value := .number (Decimal.natText n)

def ofText (s : String) : Value := .text (some s)

def ofOption {α : Type} (f : α → Value) : Option α → Value
  | none => .null
  | some a => f a

/-- The object with these fields. -/
def ofFields (fields : List (String × Value)) : Value := .object (fields.map fun (k, v) => (some k, v))

/-- A double with the fewest digits that read back: positionally from `1e-5` to below `1e16`, else with a signed
exponent. What is no finite number has no numeral and is `null`. -/
def ofFloat (x : Float) : Value :=
  if x.isNaN || x.isInf then .null
  else
    let d := (Decimal.Binary.ofFloat x).shortest .toEven
    let text := if -5 ≤ d.leading ∧ d.leading < 16 then d.positional else d.scientific
    .number ((if Decimal.isNegative x then "-" else "") ++ text)

/-! ## Writing -/

/-- A character as it stands between quotes: quote, backslash and control characters are escaped. -/
def escape (c : Char) : List Char :=
  if c == '"' then ['\\', '"']
  else if c == '\\' then ['\\', '\\']
  else if c == '\x08' then ['\\', 'b']
  else if c == '\x0c' then ['\\', 'f']
  else if c == '\n' then ['\\', 'n']
  else if c == '\r' then ['\\', 'r']
  else if c == '\t' then ['\\', 't']
  else if c.toNat < 32 then ['\\', 'u', '0', '0', Decimal.hexDigit false (c.toNat / 16), Decimal.hexDigit false (c.toNat % 16)]
  else [c]

/-- A text between quotes. -/
def quote (s : String) : String :=
  "\"" ++ String.ofList (s.toList.flatMap escape) ++ "\""

mutual

/-- The text of a value, without blanks. -/
def render : Value → String
  | .null => "null"
  | .bool b => if b then "true" else "false"
  | .number numeral => numeral
  | .text s => quote (s.getD "")
  | .array items => "[" ++ ",".intercalate (renderItems items) ++ "]"
  | .object fields => "\x7b" ++ ",".intercalate (renderFields fields) ++ "\x7d"

def renderItems : List Value → List String
  | [] => []
  | v :: vs => render v :: renderItems vs

def renderFields : List (Option String × Value) → List String
  | [] => []
  | (k, v) :: fs => (quote (k.getD "") ++ ":" ++ render v) :: renderFields fs

end

end Value

end Camcorder.Json
