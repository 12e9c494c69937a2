/-!
# Binary64 — double-precision numbers in exact arithmetic

A non-negative finite double is a mantissa below 2^53 times a power of two from 2^-1074
to 2^971. Every operation computes the exact quotient of natural numbers and rounds it
to the nearest double, of two equally near ones to the even one.
-/

namespace Companion

/-- A non-negative finite double-precision number, `mantissa * 2 ^ exponent`. -/
structure Binary64 where
  /-- The mantissa; below 2^52 only at the least exponent. -/
  mantissa : Nat
  /-- The power of two. -/
  exponent : Int
  deriving DecidableEq, Repr

namespace Binary64

/-- The least exponent, that of the smallest numbers. -/
def leastExponent : Int := -1074

/-- The greatest exponent of a finite number. -/
def greatestExponent : Int := 971

/-- Zero. -/
def zero : Binary64 := ⟨0, leastExponent⟩

/-- The quotient of two natural numbers rounded to the nearest one, a half to the even one. -/
def roundDiv (num den : Nat) : Nat :=
  let q := num / den
  let twice := 2 * (num % den)
  if den < twice || (twice == den && q % 2 == 1) then q + 1 else q

/-- The quotient `num / den` in units of `2 ^ e`, as a quotient of natural numbers. -/
def inUnits (num den : Nat) (e : Int) : Nat × Nat :=
  (num * Nat.pow 2 (-e).toNat, den * Nat.pow 2 e.toNat)

/-- The double nearest to `num / den`, unless the quotient is too large. -/
def nearest? (num den : Nat) : Option Binary64 :=
  if num = 0 then some zero
  else
    -- the quotient holds between 2^52 and 2^54 of the first unit
    let e := max ((num.log2 : Int) - den.log2 - 53) leastExponent
    let (n, d) := inUnits num den e
    let e := if n / d < Nat.pow 2 53 then e else e + 1
    let (n, d) := inUnits num den e
    let m := roundDiv n d
    let x : Binary64 := if m = Nat.pow 2 53 then ⟨Nat.pow 2 52, e + 1⟩ else ⟨m, e⟩
    if x.exponent ≤ greatestExponent then some x else none

/-- The value as a quotient of natural numbers. -/
def quotient (x : Binary64) : Nat × Nat :=
  (x.mantissa * Nat.pow 2 x.exponent.toNat, Nat.pow 2 (-x.exponent).toNat)

/-- The rounded product. -/
def mul? (x y : Binary64) : Option Binary64 :=
  nearest? (x.quotient.1 * y.quotient.1) (x.quotient.2 * y.quotient.2)

/-- The rounded quotient. -/
def div? (x y : Binary64) : Option Binary64 :=
  nearest? (x.quotient.1 * y.quotient.2) (x.quotient.2 * y.quotient.1)

/-- The greatest power of ten that is a finite double. -/
def greatestPower : Nat := 308

/-- The double nearest to a power of ten. -/
def powerOfTen? (n : Nat) : Option Binary64 := nearest? (Nat.pow 10 n) 1

/-- Divide by a power of ten, if need be in two steps. The quotient of a number below 10^290 by a
power that two steps do not reach is below every positive double. -/
def dropTens? (x : Binary64) (n : Nat) : Option Binary64 :=
  if n ≤ greatestPower then (powerOfTen? n).bind x.div?
  else if n ≤ 2 * greatestPower then do
    let y ← (powerOfTen? greatestPower).bind x.div?
    (powerOfTen? (n - greatestPower)).bind y.div?
  else some zero

/-- A decimal read in two roundings: the significand is rounded first, and then its product with or
quotient by the power of ten. Nothing is found for a decimal that is too large. -/
def ofDecimal? (significand : Nat) (exponent : Int) : Option Binary64 :=
  (nearest? significand 1).bind fun x =>
    if exponent < 0 then x.dropTens? (-exponent).toNat
    else if exponent.toNat ≤ greatestPower then (powerOfTen? exponent.toNat).bind x.mul?
    else if x.mantissa = 0 then some x
    else none

end Binary64

end Companion
