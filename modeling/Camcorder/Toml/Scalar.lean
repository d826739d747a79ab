import Camcorder.Timestamp
import Camcorder.Toml.Value

/-!
# Unquoted TOML values

Truth values, numbers, dates and times. Each is a word of letters, digits and a few signs, and the word as a whole
decides what it is.
-/

namespace Camcorder.Toml

/-- Whether a character can be part of a word. -/
def isWordChar (c : Char) : Bool := c.isAlphanum || c == '_' || c == '+' || c == '-' || c == '.' || c == ':'

/-! ## Numbers -/

/-- The value of a digit in a base of at most sixteen. -/
def digitOf? (base : Nat) (c : Char) : Option Nat :=
  (Decimal.hexDigit? c).bind fun d => if d < base then some d else none

/-- The digits of a number, at least one; underscores may stand between two of them. -/
def digits? (base : Nat) : List Char → Option (List Nat)
  | [] => none
  | [c] => (digitOf? base c).map fun d => [d]
  | c :: '_' :: cs => do return (← digitOf? base c) :: (← digits? base cs)
  | c :: d :: cs => do return (← digitOf? base c) :: (← digits? base (d :: cs))

/-- Takes the sign at the front of a word: whether it is a minus, and the rest. -/
def sign : List Char → Bool × List Char
  | '-' :: cs => (true, cs)
  | '+' :: cs => (false, cs)
  | cs => (false, cs)

/-- The digits of a number in base ten without superfluous zeros at the front. -/
def decimalDigits? (cs : List Char) : Option (List Nat) := do
  let ds ← digits? 10 cs
  if ds.length = 1 ∨ ds.head? ≠ some 0 then some ds else none

/-- A whole number of 64 bits with a sign. -/
def bounded? (n : Int) : Option Value :=
  if -signedWordLimit ≤ n ∧ n < signedWordLimit then some (.integer n) else none

/-- A whole number. -/
def integer? (word : List Char) : Option Value :=
  match word with
  | '0' :: 'x' :: cs => do bounded? (Decimal.ofDigits 16 (← digits? 16 cs) : Nat)
  | '0' :: 'o' :: cs => do bounded? (Decimal.ofDigits 8 (← digits? 8 cs) : Nat)
  | '0' :: 'b' :: cs => do bounded? (Decimal.ofDigits 2 (← digits? 2 cs) : Nat)
  | _ => do
    let (negative, cs) := sign word
    let n : Int := (Decimal.ofDigits 10 (← decimalDigits? cs) : Nat)
    bounded? (if negative then -n else n)

/-- Splits a word at the first character with property `p`, which is left out. -/
def splitAtFirst (p : Char → Bool) (cs : List Char) : List Char × Option (List Char) :=
  match cs.dropWhile (!p ·) with
  | [] => (cs, none)
  | _ :: rest => (cs.takeWhile (!p ·), some rest)

/-- A number with a point or an exponent, of a magnitude within the range of doubles. -/
def fractional? (word : List Char) : Option Value := do
  let (negative, cs) := sign word
  let signed (x : Float) : Value := .float (if negative then -x else x)
  if cs == "inf".toList then return signed (1.0 / 0.0)
  if cs == "nan".toList then return signed (0.0 / 0.0)
  let (mantissa, exponent) := splitAtFirst (fun c => c == 'e' || c == 'E') cs
  let (whole, fraction) := splitAtFirst (· == '.') mantissa
  guard (exponent.isSome || fraction.isSome)
  let ds ← decimalDigits? whole
  let fs ← match fraction with
    | none => some []
    | some fs => digits? 10 fs
  let e ← match exponent with
    | none => some (0 : Int)
    | some es =>
      let (below, es) := sign es
      (digits? 10 es).map fun ds => if below then -(Decimal.ofDigits 10 ds : Int) else (Decimal.ofDigits 10 ds : Int)
  let d : Decimal.Scaled := { digits := Decimal.ofDigits 10 (ds ++ fs), exponent := e - (fs.length : Int) }
  let x := d.toFloat
  if x.isInf then none else return signed x

/-! ## Dates and times -/

/-- Takes `count` digits that make a number from `low` to `high`. -/
def fixedDigits? (count low high : Nat) (cs : List Char) : Option (Nat × List Char) := do
  let ds ← (cs.take count).mapM Decimal.digit?
  let n := Decimal.ofDigits 10 ds
  if ds.length = count ∧ low ≤ n ∧ n ≤ high then some (n, cs.drop count) else none

/-- Takes a given character. -/
def expect? (c : Char) : List Char → Option (List Char)
  | d :: cs => if d == c then some cs else none
  | [] => none

/-- Takes a date. -/
def date? (cs : List Char) : Option (List Char) := do
  let (year, cs) ← fixedDigits? 4 0 9999 cs
  let (month, cs) ← fixedDigits? 2 1 12 (← expect? '-' cs)
  let (day, cs) ← fixedDigits? 2 1 31 (← expect? '-' cs)
  if day ≤ Timestamp.daysInMonth year month then some cs else none

/-- Takes a time of day. -/
def time? (cs : List Char) : Option (List Char) := do
  let (_, cs) ← fixedDigits? 2 0 23 cs
  let (_, cs) ← fixedDigits? 2 0 59 (← expect? ':' cs)
  let (_, cs) ← fixedDigits? 2 0 60 (← expect? ':' cs)
  match cs with
  | '.' :: cs =>
    let (fraction, rest) := cs.span fun c => (Decimal.digit? c).isSome
    if fraction.isEmpty then none else some rest
  | cs => some cs

/-- Takes an offset from UTC, if there is one. -/
def offset? : List Char → Option (List Char)
  | [] => some []
  | c :: cs =>
    if c == 'Z' || c == 'z' then some cs
    else if c == '+' || c == '-' then do
      let (_, cs) ← fixedDigits? 2 0 23 cs
      let (_, cs) ← fixedDigits? 2 0 59 (← expect? ':' cs)
      return cs
    else none

/-- A date, a time of day, or both with or without an offset. -/
def dateTime? (word : List Char) : Option Value := do
  let rest ← match date? word with
    | none => time? word
    | some [] => some []
    | some (c :: cs) =>
      if c == 'T' || c == 't' || c == ' ' then do offset? (← time? cs) else none
  if rest.isEmpty then some .date else none

/-- The value of a word. -/
def ofWord? (word : List Char) : Option Value :=
  if word == "true".toList then some (.bool true)
  else if word == "false".toList then some (.bool false)
  else integer? word <|> fractional? word <|> dateTime? word

/-- Takes a word. After a date, a blank and a time of day belong to it. -/
def takeWord (cs : List Char) : List Char × List Char :=
  let (word, rest) := cs.span isWordChar
  match rest with
  | ' ' :: more =>
    let (next, after) := more.span isWordChar
    if (date? word).any List.isEmpty && (next.getD 2 ' ' == ':') then (word ++ ' ' :: next, after) else (word, rest)
  | _ => (word, rest)

end Camcorder.Toml
