/-
# Binary floating point numbers of 53 bits

A finite number is `± m · 2 ^ q` with `m < 2 ^ 53` and `q ≥ -1074`, and it is
kept in the one form where `m ≥ 2 ^ 52` or `q = -1074`. All arithmetic is that
of exact fractions of natural numbers, rounded once to the nearest number of
this kind; of two equally near ones the one with an even `m` is taken. There
is no infinity: what rounds beyond the largest number has no result.

Key definitions: `Binary64`, `nearest`, `Binary64.mul`, `Binary64.div`,
`Binary64.ofDecimal`.
-/

namespace IdentityTypes.Decimal

/-- A finite floating point number, `± significand · 2 ^ exponent`. -/
structure Binary64 where
  negative : Bool
  significand : Nat
  exponent : Int
  deriving DecidableEq, Repr

/-- The smallest exponent, that of zero too. -/
def minExponent : Int := -1074

/-- The largest exponent. -/
def maxExponent : Int := 971

/-- The quotient rounded to the nearest natural number, a half to the even one. -/
def roundDiv (num den : Nat) : Nat :=
  let q := num / den
  let r := num % den
  if 2 * r < den then q else if den < 2 * r then q + 1 else q + q % 2

/-- A fraction `num / den` times `2 ^ q`, as a fraction. -/
def scaled (num den : Nat) (q : Int) : Nat × Nat :=
  if 0 ≤ q then (num * Nat.pow 2 q.toNat, den) else (num, den * Nat.pow 2 (-q).toNat)

/-- The `k` with `2 ^ k ≤ num / den < 2 ^ (k + 1)`, for positive `num` and
`den`. -/
def binade (num den : Nat) : Int :=
  let k := (num.log2 : Int) - (den.log2 : Int)
  let (n, d) := scaled num den (-k)
  if n < d then k - 1 else k

/-- The number nearest to `num / den`, as significand and exponent, if it is not
beyond the largest one. -/
def nearest (num den : Nat) : Option (Nat × Int) :=
  if num = 0 then some (0, minExponent)
  else
    let q := max (binade num den - 52) minExponent
    let (n, d) := scaled num den (-q)
    let m := roundDiv n d
    let (m, q) := if m = Nat.pow 2 53 then (Nat.pow 2 52, q + 1) else (m, q)
    if q ≤ maxExponent then some (m, q) else none

namespace Binary64

/-- Whether the number is zero, of either sign. -/
def isZero (x : Binary64) : Bool := x.significand = 0

/-- Equality of values: the two zeros are equal. -/
def same (x y : Binary64) : Bool := (x.isZero && y.isZero) || x = y

/-- The same number with the other sign. -/
def neg (x : Binary64) : Binary64 := { x with negative := !x.negative }

/-- The absolute value as a fraction. -/
def toFraction (x : Binary64) : Nat × Nat := scaled x.significand 1 x.exponent

/-- The number nearest to a fraction. -/
def ofFraction (negative : Bool) (num den : Nat) : Option Binary64 :=
  (nearest num den).map fun p => ⟨negative, p.1, p.2⟩

/-- The number nearest to a natural number. -/
def ofNat (n : Nat) : Option Binary64 := ofFraction false n 1

/-- The product, rounded. -/
def mul (x y : Binary64) : Option Binary64 :=
  let (a, b) := x.toFraction
  let (c, d) := y.toFraction
  ofFraction (x.negative != y.negative) (a * c) (b * d)

/-- The quotient, rounded, for a divisor that is not zero. -/
def div (x y : Binary64) : Option Binary64 :=
  let (a, b) := x.toFraction
  let (c, d) := y.toFraction
  ofFraction (x.negative != y.negative) (a * d) (b * c)

/-- The number nearest to `± digits · 10 ^ exponent`. -/
def ofDecimal (negative : Bool) (digits : Nat) (exponent : Int) : Option Binary64 :=
  if 0 ≤ exponent then ofFraction negative (digits * Nat.pow 10 exponent.toNat) 1
  else ofFraction negative digits (Nat.pow 10 (-exponent).toNat)

end Binary64

example : Binary64.ofNat 1 = some ⟨false, 2 ^ 52, -52⟩ := by decide +kernel
example : Binary64.ofDecimal false 5 (-324) = some ⟨false, 1, -1074⟩ := by decide +kernel
example : Binary64.ofDecimal false 1 309 = none := by decide +kernel
example : (Binary64.ofDecimal false 1 (-1)).map (·.significand) = some 0x1999999999999A := by
  decide +kernel

end IdentityTypes.Decimal
