import AlgorithmDriver.Number.Power

/-!
# Binary floating point numbers

The finite non-negative numbers of the 64 bit binary format, with the operations that reading a
decimal numeral needs: rounding a quotient to the nearest number, and multiplying and dividing by
powers of ten.
-/

namespace AlgorithmDriver

/-- The number `mantissa * 2 ^ exponent`.  Numbers made by `Binary64.round` have a mantissa below
`2 ^ 53` and an exponent of at least -1074, and the mantissa is at least `2 ^ 52` unless the
exponent is that least one. -/
structure Binary64 where
  /-- The significant bits. -/
  mantissa : Nat
  /-- The weight of the last significant bit. -/
  exponent : Int
  deriving DecidableEq, Repr, Inhabited

namespace Binary64

/-- The number zero. -/
def zero : Binary64 := ⟨0, -1074⟩

/-- Whether the number is zero. -/
def isZero (x : Binary64) : Bool := x.mantissa == 0

/-- The number as a quotient of natural numbers. -/
def quotient (x : Binary64) : Nat × Nat :=
  if 0 ≤ x.exponent then (x.mantissa * twoTo x.exponent.toNat, 1)
  else (x.mantissa, twoTo (-x.exponent).toNat)

/-- The nearest natural number to `num / den`, of two equally near ones the even one. -/
def roundDiv (num den : Nat) : Nat :=
  let q := num / den
  let r := num % den
  if 2 * r < den then q
  else if den < 2 * r then q + 1
  else if q % 2 = 0 then q else q + 1

/-- The weight of the last bit of numbers near `num / den`. -/
def lastBit (num den : Nat) : Int :=
  let e : Int := (Nat.log2 num : Int) - (Nat.log2 den : Int) - 53
  let fits : Bool :=
    if 0 ≤ e then decide (num < den * twoTo (e.toNat + 53))
    else decide (num * twoTo (-e).toNat < den * twoTo 53)
  max (if fits then e else e + 1) (-1074)

/-- The number nearest to `num / den`, of two equally near ones that with an even mantissa, or
`none` when it is too large for the format. -/
def round (num den : Nat) : Option Binary64 :=
  if num = 0 then some zero
  else
    let e := lastBit num den
    let m :=
      if 0 ≤ e then roundDiv num (den * twoTo e.toNat) else roundDiv (num * twoTo (-e).toNat) den
    let x : Binary64 := if m = twoTo 53 then ⟨twoTo 52, e + 1⟩ else ⟨m, e⟩
    if 971 < x.exponent then none else some x

/-- The number nearest to a natural number below `2 ^ 64`. -/
def ofNat (n : Nat) : Binary64 := (round n 1).getD zero

/-- The number nearest to the product with `10 ^ k`, where the power is itself rounded first. -/
def mulPow10 (x : Binary64) (k : Nat) : Option Binary64 :=
  (round (tenTo k) 1).bind fun p =>
    let (a, b) := x.quotient
    let (c, d) := p.quotient
    round (a * c) (b * d)

/-- The number nearest to the quotient by `10 ^ k`, where the power is itself rounded first. -/
def divPow10 (x : Binary64) (k : Nat) : Option Binary64 :=
  (round (tenTo k) 1).bind fun p =>
    let (a, b) := x.quotient
    let (c, d) := p.quotient
    round (a * d) (b * c)

/-- Divides by `10 ^ 308` the given number of times. -/
def divPow10Steps : Nat → Binary64 → Option Binary64
  | 0, x => some x
  | steps + 1, x => if x.isZero then some x else (x.divPow10 308).bind (divPow10Steps steps)

/-- The number that a numeral of `significand * 10 ^ exponent` is read as: one multiplication or
division by a power of ten of the rounded significand, with exponents below -308 taken in steps of
308.  `none` when the result is too large for the format. -/
def scale (x : Binary64) (exponent : Int) : Option Binary64 :=
  if x.isZero then some x
  else if 308 < exponent then none
  else if 0 ≤ exponent then x.mulPow10 exponent.toNat
  else
    let steps := ((-exponent).toNat - 1) / 308
    (divPow10Steps steps x).bind fun x => x.divPow10 ((-exponent).toNat - 308 * steps)

end Binary64

end AlgorithmDriver
