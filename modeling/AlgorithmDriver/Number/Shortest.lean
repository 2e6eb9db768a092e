import AlgorithmDriver.Number.Binary64
import AlgorithmDriver.Number.Decimal

/-!
# Shortest decimal text of a floating point number

A number is shown with the fewest significant digits that read back as it, and of those texts with
the one nearest to it.  Numbers from `1e-5` up to, but not including, `1e16` are written with a
decimal point and no exponent; all others with one digit before the point and a signed exponent.
-/

namespace AlgorithmDriver.Binary64

/-- Whether `num / den` is at least `10 ^ k`. -/
def atLeastPow10 (num den : Nat) (k : Int) : Bool :=
  if 0 ≤ k then decide (den * tenTo k.toNat ≤ num) else decide (den ≤ num * tenTo (-k).toNat)

/-- The exponent of the first decimal digit of a positive `num / den`: the greatest `k` with
`10 ^ k` at most the quotient. -/
def decimalExponent (num den : Nat) : Int :=
  let bits : Int := (Nat.log2 num : Int) - (Nat.log2 den : Int)
  let guess := Int.fdiv (bits * 30103) 100000 + 1
  let rec descend (fuel : Nat) (k : Int) : Int :=
    match fuel with
    | 0 => k
    | fuel + 1 => if atLeastPow10 num den k then k else descend fuel (k - 1)
  descend 4 guess

/-- Whether the decimal `c * 10 ^ unit` reads back as `x`: it lies between the points halfway to the
two neighbours of `x`, which themselves count when the mantissa is even. -/
def readsBack (x : Binary64) (c : Nat) (unit : Int) : Bool :=
  let lowGap := if x.mantissa = twoTo 52 ∧ -1074 < x.exponent then 1 else 2
  let even := x.mantissa % 2 = 0
  -- all three points times four, over a common denominator
  let twos := twoTo x.exponent.natAbs
  let tens := tenTo unit.natAbs
  let scaleBinary := fun n =>
    (if 0 ≤ x.exponent then n * twos else n) * (if 0 ≤ unit then 1 else tens)
  let scaleDecimal := fun n =>
    (if 0 ≤ unit then n * tens else n) * (if 0 ≤ x.exponent then 1 else twos)
  let low := scaleBinary (4 * x.mantissa - lowGap)
  let high := scaleBinary (4 * x.mantissa + 2)
  let point := scaleDecimal (4 * c)
  if even then decide (low ≤ point) && decide (point ≤ high)
  else decide (low < point) && decide (point < high)

/-- The decimal with `count` significant digits that reads back as `x` and is nearest to it, of two
equally near ones the even one. -/
def withDigits? (x : Binary64) (k : Int) (count : Nat) : Option (Nat × Int) :=
  let (num, den) := x.quotient
  let unit : Int := k - (count : Int) + 1
  let (num, den) :=
    if 0 ≤ unit then (num, den * tenTo unit.toNat) else (num * tenTo (-unit).toNat, den)
  let below := num / den
  let rest := num % den
  match readsBack x below unit, readsBack x (below + 1) unit with
  | false, false => none
  | true, false => some (below, unit)
  | false, true => some (below + 1, unit)
  | true, true =>
    if 2 * rest < den then some (below, unit)
    else if den < 2 * rest then some (below + 1, unit)
    else if below % 2 = 0 then some (below, unit) else some (below + 1, unit)

/-- The shortest decimal that reads back as a positive number: its digits as a number, and the
weight of the last one as a power of ten. -/
def shortest (x : Binary64) : Nat × Int :=
  let (num, den) := x.quotient
  let k := decimalExponent num den
  ((List.range 18).findSome? fun count => if count = 0 then none else x.withDigits? k count).getD
    (0, 0)

/-- Drops the zeros at the end. -/
def dropTrailingZeros (ds : List Char) : List Char :=
  (ds.reverse.dropWhile (· == '0')).reverse

/-- The text of a non-negative number. -/
def magnitude (x : Binary64) : List Char :=
  if x.isZero then ['0', '.', '0']
  else
    let (c, unit) := x.shortest
    let all := Decimal.digits c
    let first : Int := unit + (all.length : Int) - 1
    let ds := dropTrailingZeros all
    if -5 ≤ first ∧ first ≤ 15 then
      if 0 ≤ first then
        let whole := first.toNat + 1
        if ds.length ≤ whole then ds ++ List.replicate (whole - ds.length) '0' ++ ['.', '0']
        else ds.take whole ++ ['.'] ++ ds.drop whole
      else ['0', '.'] ++ List.replicate ((-first).toNat - 1) '0' ++ ds
    else
      let fraction := if ds.length ≤ 1 then [] else '.' :: ds.drop 1
      let sign := if 0 ≤ first then '+' else '-'
      ds.take 1 ++ fraction ++ ['e', sign] ++ Decimal.digits first.natAbs

/-- The text of a number with a sign. -/
def text (negative : Bool) (x : Binary64) : String :=
  String.ofList (if negative then '-' :: x.magnitude else x.magnitude)

end AlgorithmDriver.Binary64
