/-!
# Numbers in decimal

A finite double is `m * 2 ^ q` with whole numbers `m` and `q`, so every question about its decimal text is one
about whole numbers. `Binary.shortest` finds the decimal with the fewest digits that reads back as the same
double, and of those the nearest; `Binary.rounded` rounds to a number of places.
-/

namespace Camcorder.Decimal

/-- A finite double without its sign: `m * 2 ^ q`. -/
structure Binary where
  m : Nat
  q : Int
  /-- Whether the next double below is only half as far away as the next one above. -/
  narrowBelow : Bool
deriving DecidableEq, Repr

/-- The magnitude of a finite double. -/
def Binary.ofFloat (x : Float) : Binary :=
  let bits := x.toBits.toNat
  let exponent : Nat := bits / 0x10000000000000 % 0x800
  let fraction := bits % 0x10000000000000
  if exponent == 0 then { m := fraction, q := -1074, narrowBelow := false }
  else { m := 0x10000000000000 + fraction, q := (exponent : Int) - 1075, narrowBelow := fraction == 0 && exponent > 1 }

/-- Whether the sign bit of `x` is set. -/
def isNegative (x : Float) : Bool := x.toBits.toNat / 0x8000000000000000 == 1

/-- The decimal `digits * 10 ^ exponent`. -/
structure Scaled where
  digits : Nat
  exponent : Int
deriving DecidableEq, Repr

/-- Which of two equally near decimals is taken. -/
inductive Tie where
  | toEven
  | up
deriving DecidableEq, Repr

/-- Compares `a * 10 ^ i` with `n * 2 ^ j`. -/
def compareScaled (a : Nat) (i : Int) (n : Nat) (j : Int) : Ordering :=
  compare (a * Nat.pow 10 i.toNat * Nat.pow 2 (-j).toNat) (n * Nat.pow 2 j.toNat * Nat.pow 10 (-i).toNat)

namespace Binary

/-- Whether reading the decimal gives `x`: it lies no farther than halfway to the neighbours of `x`, and where it
lies exactly halfway the even one of the two is read. -/
def readsBack (x : Binary) (d : Scaled) : Bool :=
  let low := if x.narrowBelow then 4 * x.m - 1 else 4 * x.m - 2
  let high := 4 * x.m + 2
  let ends := x.m % 2 == 0
  let below := compareScaled d.digits d.exponent low (x.q - 2)
  let above := compareScaled d.digits d.exponent high (x.q - 2)
  (below == .gt || (ends && below == .eq)) && (above == .lt || (ends && above == .eq))

/-- The whole part of `x / 10 ^ i`. -/
def floorDiv (x : Binary) (i : Int) : Nat :=
  (x.m * Nat.pow 2 x.q.toNat * Nat.pow 10 (-i).toNat) / (Nat.pow 2 (-x.q).toNat * Nat.pow 10 i.toNat)

/-- The exponent of the first digit of `x`, for `x` not zero. The search begins near the value that the number of
binary digits suggests. -/
def leadingExponent (x : Binary) : Int :=
  let guess : Int := ((x.m.log2 : Int) + x.q) * 30103 / 100000
  ([guess + 2, guess + 1, guess, guess - 1].find? fun e => compareScaled 1 e x.m x.q != .gt).getD (guess - 2)

/-- The decimal on the grid of multiples of `10 ^ i` that is nearest to `x` among those that read back. -/
def onGrid? (x : Binary) (tie : Tie) (i : Int) : Option Scaled :=
  let low : Scaled := { digits := x.floorDiv i, exponent := i }
  let high : Scaled := { digits := low.digits + 1, exponent := i }
  match x.readsBack low, x.readsBack high with
  | true, true =>
    match compareScaled (2 * low.digits + 1) i (2 * x.m) x.q with
    | .gt => some low
    | .lt => some high
    | .eq => some (if tie == .toEven && low.digits % 2 == 0 then low else high)
  | true, false => some low
  | false, true => some high
  | false, false => none

/-- Moves the zeros at the end of the digits into the exponent, as many as `fuel` allows. -/
def stripZeros (fuel : Nat) (d : Scaled) : Scaled :=
  match fuel with
  | 0 => d
  | fuel + 1 =>
    if d.digits != 0 && d.digits % 10 == 0 then
      stripZeros fuel { digits := d.digits / 10, exponent := d.exponent + 1 }
    else d

/-- The decimal with the fewest digits that reads back as `x`, and of those the nearest. -/
def shortest (x : Binary) (tie : Tie) : Scaled :=
  if x.m == 0 then { digits := 0, exponent := 0 }
  else
    let lead := x.leadingExponent
    let found := (List.range 17).findSome? fun n : Nat => x.onGrid? tie (lead - n)
    stripZeros 400 (found.getD { digits := x.floorDiv (lead - 17), exponent := lead - 17 })

/-- `x * 10 ^ places` rounded to a whole number; a half goes to the even one. -/
def rounded (x : Binary) (places : Nat) : Nat :=
  let num := x.m * Nat.pow 2 x.q.toNat * Nat.pow 10 places
  let den := Nat.pow 2 (-x.q).toNat
  let low := num / den
  match compare (2 * (num % den)) den with
  | .lt => low
  | .gt => low + 1
  | .eq => if low % 2 == 0 then low else low + 1

end Binary

end Camcorder.Decimal
