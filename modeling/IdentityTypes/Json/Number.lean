/-
# Numbers in JSON

A number is an integer or a floating point number, and the two are never
equal. What is written decides: `1` is an integer, `1.0` is not, and neither is
`-0` nor an integer of more than 64 bits.

A floating point number is read with two roundings. The digits count as long as
they fit 64 bits, the others only move the point; the number they form is
rounded, and the result is multiplied or divided by a power of ten, itself
rounded, once.

Key definitions: `Number`, `Numeral`, `Numeral.value`, `Number.text`.
-/
import IdentityTypes.Decimal.Shortest

namespace IdentityTypes.Json

open Decimal

/-- A number of a document. -/
inductive Number where
  | integer (n : Int)
  | float (x : Binary64)
  deriving DecidableEq, Repr

/-- Equality of numbers: integers by value, floating point numbers by value too,
where the two zeros are equal. -/
def Number.same : Number → Number → Bool
  | .integer m, .integer n => m = n
  | .float x, .float y => x.same y
  | _, _ => false

/-- A number as it is written: the digits before the point, those after it and
the power of ten, if there are any. -/
structure Numeral where
  negative : Bool
  whole : List Nat
  fraction : Option (List Nat)
  exponent : Option Int
  deriving DecidableEq, Repr

/-- The largest unsigned integer of 64 bits. -/
def maxWord : Nat := 18446744073709551615

/-- The value of some digits, as far as they fit 64 bits when they follow
`start`, and the number of digits that are left out. -/
def takeDigits (start : Nat) : List Nat → Nat × Nat
  | [] => (start, 0)
  | d :: ds => if start * 10 + d ≤ maxWord then takeDigits (start * 10 + d) ds
    else (start, ds.length + 1)

/-- Divides by `10 ^ n`, in several steps where that is beyond the largest power
of ten. -/
def scaleDown (x : Binary64) (n : Nat) : Option Binary64 :=
  if n ≤ 308 then do x.div (← Binary64.ofDecimal false 1 n)
  else if x.isZero then some x
  else do scaleDown (← x.div (← Binary64.ofDecimal false 1 308)) (n - 308)
  termination_by n
  decreasing_by omega

/-- The floating point number `digits · 10 ^ exponent`. -/
def floatOf (digits : Nat) (exponent : Int) : Option Binary64 := do
  let x ← Binary64.ofNat digits
  if exponent < 0 then scaleDown x (-exponent).toNat
  else if exponent ≤ 308 then x.mul (← Binary64.ofDecimal false 1 exponent)
  else if x.isZero then some x
  else none

namespace Numeral

/-- The numeral as a floating point number, if it is not too large. -/
def float (l : Numeral) : Option Binary64 := do
  let (digits, skipped) := takeDigits 0 l.whole
  let (digits, moved) :=
    match l.fraction with
    | none => (digits, 0)
    | some ds =>
      let (digits, left) := takeDigits digits ds
      (digits, ds.length - left)
  let x ← floatOf digits (skipped - moved + l.exponent.getD 0)
  pure (if l.negative then x.neg else x)

/-- The number a numeral stands for, if there is one. -/
def value (l : Numeral) : Option Number :=
  if l.fraction.isNone && l.exponent.isNone then
    let (n, skipped) := takeDigits 0 l.whole
    if skipped = 0 && !l.negative then some (.integer n)
    else if skipped = 0 && 0 < n && n ≤ 9223372036854775808 then some (.integer (-n))
    else l.float.map .float
  else l.float.map .float

end Numeral

/-- How floating point numbers are set out: in plain digits when the exponent of
the first digit lies between `plainFrom` and `plainTo`, else as one digit, the
others after a point, and the power of ten with its sign. -/
structure FloatFormat where
  plainFrom : Int
  plainTo : Int

/-- Floating point numbers are plain from `0.00001` up to sixteen digits before
the point. -/
def floatFormat : FloatFormat := ⟨-5, 15⟩

/-- The text of `0.d₁d₂… · 10 ^ (e + 1)` for the digits given. -/
def FloatFormat.set (f : FloatFormat) (digits : List Char) (e : Int) : List Char :=
  if f.plainFrom ≤ e && e ≤ f.plainTo then
    if e < 0 then '0' :: '.' :: List.replicate (-e - 1).toNat '0' ++ digits
    else
      let whole := (e + 1).toNat
      if digits.length ≤ whole then
        digits ++ List.replicate (whole - digits.length) '0' ++ ['.', '0']
      else digits.take whole ++ '.' :: digits.drop whole
  else
    let (first, others) := (digits.take 1, digits.drop 1)
    first ++ (if others.isEmpty then [] else '.' :: others) ++ 'e' ::
      (if e < 0 then '-' else '+') :: digitsOf e.natAbs

/-- The text of a floating point number. -/
def floatText (x : Binary64) : List Char :=
  let sign := if x.negative then ['-'] else []
  if x.isZero then sign ++ ['0', '.', '0']
  else
    let d := shortest x.significand x.exponent
    let digits := digitsOf d.digits
    sign ++ floatFormat.set digits (d.exponent + digits.length - 1)

/-- The text of a number. -/
def Number.text : Number → String
  | .integer n => if n < 0 then "-" ++ String.ofList (digitsOf n.natAbs)
    else String.ofList (digitsOf n.natAbs)
  | .float x => String.ofList (floatText x)

example : ((Numeral.mk false [1] none (some 16)).value.map Number.text) = some "1e+16" := by
  decide +kernel
example : ((Numeral.mk false [1] none (some 3)).value.map Number.text) = some "1000.0" := by
  decide +kernel
example : ((Numeral.mk true [0] none none).value.map Number.text) = some "-0.0" := by
  decide +kernel
example : ((Numeral.mk false [1] (some [5]) (some (-5))).value.map Number.text)
    = some "0.000015" := by decide +kernel
example : ((Numeral.mk false [1] none (some 309)).value.map Number.text) = none := by
  decide +kernel

end IdentityTypes.Json
