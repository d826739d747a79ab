import Camcorder.Decimal.Text

/-!
# Numerals

Reads whole numbers below a limit: digits, and a plus in front of them if one likes. The first character that
spoils the numeral decides how it is refused.
-/

namespace Camcorder.Decimal

/-- Why a text is no numeral of a number below the limit. -/
inductive NumeralFlaw where
  | empty
  | invalidDigit
  | tooLarge
deriving DecidableEq, Repr

namespace NumeralFlaw

def message : NumeralFlaw → String
  | .empty => "cannot parse integer from empty string"
  | .invalidDigit => "invalid digit found in string"
  | .tooLarge => "number too large to fit in target type"

end NumeralFlaw

/-- The number `n` with one more digit. -/
def appendDigit (limit n : Nat) (c : Char) : Except NumeralFlaw Nat :=
  match digit? c with
  | none => .error .invalidDigit
  | some d => if n * 10 + d < limit then .ok (n * 10 + d) else .error .tooLarge

/-- The number below `limit` that a text writes. -/
def readNumeral (limit : Nat) (text : String) : Except NumeralFlaw Nat :=
  match text.toList with
  | [] => .error .empty
  | '+' :: c :: cs => (c :: cs).foldlM (appendDigit limit) 0
  | cs => cs.foldlM (appendDigit limit) 0

end Camcorder.Decimal
