import Camcorder.Decimal.Shortest

/-!
# Decimal text

How the digits of a number are laid out: positionally, with an exponent, or with a fixed number of places; and
how a numeral is read.
-/

namespace Camcorder.Decimal

/-- The decimal digits of `n` as text. -/
def natText (n : Nat) : String := String.ofList (Nat.toDigits 10 n)

/-- The hexadecimal digit with a value below 16, in capitals or not. -/
def hexDigit (capital : Bool) (n : Nat) : Char :=
  if n < 10 then Char.ofNat (48 + n) else Char.ofNat ((if capital then 55 else 87) + n)

/-- `n` zeros. -/
def zeros (n : Nat) : String := "".pushn '0' n

/-- The exponent of the first digit. -/
def Scaled.leading (d : Scaled) : Int := d.exponent + ((natText d.digits).length : Int) - 1

/-- The decimal without an exponent. A whole number gets the places `.0`. -/
def Scaled.positional (d : Scaled) : String :=
  let text := natText d.digits
  if 0 ≤ d.exponent then text ++ zeros d.exponent.toNat ++ ".0"
  else
    let places := (-d.exponent).toNat
    if places < text.length then
      (text.take (text.length - places)).copy ++ "." ++ (text.drop (text.length - places)).copy
    else "0." ++ zeros (places - text.length) ++ text

/-- The decimal with one digit before the point and a signed exponent. -/
def Scaled.scientific (d : Scaled) : String :=
  let text := natText d.digits
  let rest := (text.drop 1).copy
  let mantissa := (text.take 1).copy ++ (if rest == "" then "" else "." ++ rest)
  let e := d.leading
  mantissa ++ "e" ++ (if e < 0 then "-" else "+") ++ natText e.natAbs

/-- `n / 10 ^ places` with that many places. -/
def fixedText (n places : Nat) : String :=
  let fraction := natText (n % Nat.pow 10 places)
  natText (n / Nat.pow 10 places) ++
    (if places == 0 then "" else "." ++ zeros (places - fraction.length) ++ fraction)

/-- A double with a fixed number of places, for a finite one. -/
def fixed (places : Nat) (x : Float) : String :=
  (if isNegative x then "-" else "") ++ fixedText ((Binary.ofFloat x).rounded places) places

/-! ## Reading -/

/-- The value of a decimal digit. -/
def digit? (c : Char) : Option Nat :=
  if '0' ≤ c ∧ c ≤ '9' then some (c.toNat - '0'.toNat) else none

/-- The value of a hexadecimal digit. -/
def hexDigit? (c : Char) : Option Nat :=
  if '0' ≤ c ∧ c ≤ '9' then some (c.toNat - 48)
  else if 'a' ≤ c ∧ c ≤ 'f' then some (c.toNat - 87)
  else if 'A' ≤ c ∧ c ≤ 'F' then some (c.toNat - 55)
  else none

/-- The number with these digits, the first one the most significant. -/
def ofDigits (base : Nat) (digits : List Nat) : Nat := digits.foldl (fun n d => n * base + d) 0

/-- The double nearest to `digits * 10 ^ exponent`. A number beyond the range of doubles is infinite, and one too
small for it is zero. -/
def Scaled.toFloat (d : Scaled) : Float :=
  if d.digits == 0 then 0.0
  else if d.leading > 400 then 1.0 / 0.0
  else if d.leading < -400 then 0.0
  else Float.ofScientific d.digits (d.exponent < 0) d.exponent.natAbs

end Camcorder.Decimal
