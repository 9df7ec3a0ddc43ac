/-!
Numbers with a mantissa of 53 bits.

A ratio of two integers is rounded to the nearest such number, and of two that are equally near to
the even one. Sign and range are left to the user: only what is rounded off matters here.
-/

namespace Screensaver.Number

/-- The number `mantissa · 2 ^ exponent`. -/
structure Double where
  mantissa : Nat
  exponent : Int
deriving DecidableEq

namespace Double

/-- A quotient rounded to the nearest integer, a half to the even one. -/
def roundDiv (num den : Nat) : Nat :=
  let q := num / den
  let r := num % den
  if den < 2 * r ∨ (2 * r = den ∧ q % 2 = 1) then q + 1 else q

/-- The ratio `num / (den · 2 ^ e)` as two integers. -/
def scaled (num den : Nat) (e : Int) : Nat × Nat :=
  if e < 0 then (num <<< e.natAbs, den) else (num, den <<< e.natAbs)

/-- The nearest number to a ratio. -/
def ofRatio (num den : Nat) : Double :=
  if num = 0 then ⟨0, 0⟩
  else
    let guess : Int := num.log2 - den.log2 - 52
    let (n, d) := scaled num den guess
    let e := if n / d < 1 <<< 52 then guess - 1 else guess
    let (n, d) := scaled num den e
    ⟨roundDiv n d, e⟩

/-- A product. -/
def mul (a b : Double) : Double :=
  let (n, d) := scaled (a.mantissa * b.mantissa) 1 (-(a.exponent + b.exponent))
  ofRatio n d

/-- The integer part. -/
def truncate (a : Double) : Nat :=
  let (n, d) := scaled a.mantissa 1 (-a.exponent)
  n / d

/-- The nearest number to `digits · 10 ^ exponent`. -/
def ofDecimal (digits : Nat) (exponent : Int) : Double :=
  if exponent < 0 then ofRatio digits (Nat.pow 10 exponent.natAbs)
  else ofRatio (digits * Nat.pow 10 exponent.natAbs) 1

end Double

end Screensaver.Number
