import Companion.Decimal.Binary64

/-!
# Shortest decimals — the text of a double

A double is written with the fewest decimal digits that are read back as the same
double, and among those with the digits nearest to its value, of two equally near ones
the even one. The digits are found on decimal grids of growing fineness: on each the two
neighbours of the value are tested, and the first grid with a neighbour that rounds to
the double wins.

Numbers from 10^-5 up to, but not including, 10^16 are written positionally and keep a
digit after the point; all others have one digit before the point and a signed power of
ten.
-/

namespace Companion

namespace Binary64

/-- A decimal, `digits * 10 ^ power`. -/
structure Decimal where
  /-- The digits as a number. -/
  digits : Nat
  /-- The power of ten. -/
  power : Int
  deriving DecidableEq, Repr

/-- The greatest `k` with `10 ^ k` at most `num / den`, which is positive. -/
def magnitude (num den : Nat) : Int :=
  if den ≤ num then ((Nat.toDigits 10 (num / den)).length : Int) - 1
  else Int.negOfNat (((List.range 330).find? fun j => den ≤ num * Nat.pow 10 j).getD 330)

/-- The decimal on the grid of `10 ^ power` that is nearest to a double among those that are read
back as the double. -/
def onGrid? (x : Binary64) (power : Int) : Option Decimal :=
  -- everything is measured in quarters of the double's last bit
  let up := Nat.pow 2 (x.exponent - 2).toNat * Nat.pow 10 (-power).toNat
  let down := Nat.pow 2 (2 - x.exponent).toNat * Nat.pow 10 power.toNat
  let value := 4 * x.mantissa * up
  let half := if x.mantissa = Nat.pow 2 52 ∧ leastExponent < x.exponent then 1 else 2
  let low := (4 * x.mantissa - half) * up
  let high := (4 * x.mantissa + 2) * up
  let hit (t : Nat) : Bool :=
    if x.mantissa % 2 = 0 then low ≤ t * down && t * down ≤ high
    else low < t * down && t * down < high
  let t := value / down
  match hit t, hit (t + 1) with
  | true, true => some ⟨roundDiv value down, power⟩
  | true, false => some ⟨t, power⟩
  | false, true => some ⟨t + 1, power⟩
  | false, false => none

/-- The shortest decimal of a positive double. -/
def shortest (x : Binary64) : Decimal :=
  let top := magnitude x.quotient.1 x.quotient.2
  ((List.range 17).findSome? fun (n : Nat) => onGrid? x (top - n)).getD ⟨0, 0⟩

/-- The digits without trailing zeros, and the power of ten of the first digit. -/
def Decimal.significant (d : Decimal) : List Char × Int :=
  let digits := Nat.toDigits 10 d.digits
  ((digits.reverse.dropWhile (· == '0')).reverse, d.power + digits.length - 1)

/-- The text of a decimal with the digits and the power of ten of the first one. -/
def layOut (digits : List Char) (first : Int) : List Char :=
  let zeros (n : Int) := List.replicate n.toNat '0'
  if 0 ≤ first ∧ first < 16 then
    let whole := first.toNat + 1
    if digits.length ≤ whole then digits ++ zeros (whole - digits.length) ++ ['.', '0']
    else digits.take whole ++ '.' :: digits.drop whole
  else if -5 ≤ first ∧ first < 0 then '0' :: '.' :: zeros (-first - 1) ++ digits
  else
    let fraction := digits.drop 1
    digits.take 1 ++ (if fraction.isEmpty then [] else '.' :: fraction)
      ++ 'e' :: (if first < 0 then '-' else '+') :: Nat.toDigits 10 first.natAbs

/-- The text of a double with a sign. -/
def text (negative : Bool) (x : Binary64) : String :=
  let (digits, first) := if x.mantissa = 0 then (['0'], 0) else x.shortest.significant
  String.ofList ((if negative then ['-'] else []) ++ layOut digits first)

end Binary64

end Companion
