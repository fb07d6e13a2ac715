/-
# The fewest digits that read back

Of the decimals that round to a given floating point number, `shortest` finds
the one with the fewest digits, and of these the nearest. It tries one digit,
then two and so on; on each such grid only the two neighbours of the number can
be it. Seventeen digits are always enough.

How the digits are then set out is decided elsewhere (`Json.Number`).

Key definitions: `Decimal.readsBack`, `Decimal.onGrid`, `Decimal.shortest`.
-/
import IdentityTypes.Decimal.Binary64

namespace IdentityTypes.Decimal

/-- A positive decimal, `digits · 10 ^ exponent`. -/
structure Scaled where
  digits : Nat
  exponent : Int
  deriving DecidableEq, Repr

/-- The value as a fraction. -/
def Scaled.toFraction (d : Scaled) : Nat × Nat :=
  if 0 ≤ d.exponent then (d.digits * Nat.pow 10 d.exponent.toNat, 1)
  else (d.digits, Nat.pow 10 (-d.exponent).toNat)

/-- The digits of a natural number, as characters. -/
def digitsOf (n : Nat) : List Char := Nat.toDigits 10 n

namespace Shortest

/-- How far below `m · 2 ^ q` a decimal may lie and still round to it, in
quarters of a unit of the last place: two of them, but one where the numbers
below are twice as close. -/
def reachBelow (m : Nat) (q : Int) : Nat :=
  if m = Nat.pow 2 52 && minExponent < q then 1 else 2

/-- Whether `d` rounds to `m · 2 ^ q`. The ends of the interval belong to the
even `m`. -/
def readsBack (m : Nat) (q : Int) (d : Scaled) : Bool :=
  let (a, b) := d.toFraction
  let (lowNum, lowDen) := scaled (4 * m - reachBelow m q) 4 q
  let (highNum, highDen) := scaled (4 * m + 2) 4 q
  if m % 2 = 0 then lowNum * b ≤ a * lowDen && a * highDen ≤ highNum * b
  else lowNum * b < a * lowDen && a * highDen < highNum * b

/-- The decimal exponent of the first digit of `m · 2 ^ q`, for `m > 0`. -/
def magnitude (m : Nat) (q : Int) : Int :=
  let (a, b) := scaled m 1 q
  ((digitsOf (a * Nat.pow 10 330 / b)).length : Int) - 331

/-- The distance between `d` and `m · 2 ^ q`, times a factor that is the same
for all decimals of one exponent. -/
def distance (m : Nat) (q : Int) (d : Scaled) : Nat :=
  let (a, b) := d.toFraction
  let (v, w) := scaled m 1 q
  (a * w - v * b) + (v * b - a * w)

/-- The decimal with `n` digits that is the best to stand for `m · 2 ^ q`, if
one rounds to it. Of two equally near ones the even one is taken. -/
def onGrid (m : Nat) (q : Int) (n : Nat) : Option Scaled :=
  let exponent := magnitude m q - n + 1
  let (v, w) := scaled m 1 q
  let below : Scaled :=
    ⟨if 0 ≤ exponent then v / (w * Nat.pow 10 exponent.toNat)
      else v * Nat.pow 10 (-exponent).toNat / w,
      exponent⟩
  let above : Scaled := { below with digits := below.digits + 1 }
  match readsBack m q below, readsBack m q above with
  | false, false => none
  | true, false => some below
  | false, true => some above
  | true, true =>
    let x := distance m q below
    let y := distance m q above
    if x < y || (x = y && below.digits % 2 = 0) then some below else some above

/-- The same decimal without zeros at the end, for at most `fuel` of them. -/
def dropZeros : Nat → Scaled → Scaled
  | 0, d => d
  | fuel + 1, d =>
    if d.digits % 10 = 0 && d.digits != 0 then dropZeros fuel ⟨d.digits / 10, d.exponent + 1⟩
    else d

end Shortest

/-- The shortest decimal that rounds to the positive number `m · 2 ^ q`. -/
def shortest (m : Nat) (q : Int) : Scaled :=
  match (List.range 17).findSome? fun n => Shortest.onGrid m q (n + 1) with
  | some d => Shortest.dropZeros 17 d
  | none => ⟨m, q⟩

example : shortest 1 (-1074) = ⟨5, -324⟩ := by decide +kernel
example : shortest 0x1999999999999A (-56) = ⟨1, -1⟩ := by decide +kernel
example : shortest (2 ^ 52) 0 = ⟨4503599627370496, 0⟩ := by decide +kernel
example : shortest (2 ^ 53 - 1) 971 = ⟨17976931348623157, 292⟩ := by decide +kernel

end IdentityTypes.Decimal
