/-! # Numbers of double precision

A decimal is rounded to the nearest number m · 2 ^ e with m below 2 ^ 53, halves to the even one.
A rounded number is written with the fewest digits that round to it again. -/

namespace MqAssembler.Decimal

/-- A decimal c · 10 ^ e. -/
structure Scientific where
  coefficient : Nat
  exponent : Int
deriving DecidableEq, Repr

/-- A finite number m · 2 ^ e without sign. -/
structure Binary64 where
  mantissa : Nat
  exponent : Int
deriving DecidableEq, Repr

namespace Binary64

/-- A power of two. -/
def pow2 (k : Nat) : Nat := Nat.pow 2 k

/-- A power of ten. -/
def pow10 (k : Nat) : Nat := Nat.pow 10 k

/-- The least exponent. -/
def minExponent : Int := -1074

/-- A quotient rounded to an integer, halves to the even one. -/
def roundDiv (n d : Nat) : Nat :=
  let q := n / d
  let r := n % d
  if 2 * r < d then q else if d < 2 * r then q + 1 else if q % 2 = 0 then q else q + 1

/-- A quotient over 2 ^ e, as numerator and denominator. -/
def scaleDown (n d : Nat) (e : Int) : Nat × Nat :=
  (n * pow2 (-e).toNat, d * pow2 e.toNat)

/-- The nearest number to n / d, unless it is too large. -/
def ofRatio? (n d : Nat) : Option Binary64 :=
  if n = 0 then some ⟨0, minExponent⟩
  else
    let low : Int := (Nat.log2 n : Int) - (Nat.log2 d : Int) - 53
    let (a, b) := scaleDown n d low
    let fit := if a / b < pow2 53 then low else low + 1
    let e := max fit minExponent
    let (a, b) := scaleDown n d e
    let m := roundDiv a b
    let x : Binary64 := if m = pow2 53 then ⟨pow2 52, e + 1⟩ else ⟨m, e⟩
    if x.exponent + (Nat.log2 x.mantissa : Int) < 1024 then some x else none

/-- The nearest number to a decimal, unless it is too large. Exponents far beyond the range are
settled without raising ten to them. -/
def ofScientific? (s : Scientific) : Option Binary64 :=
  let magnitude := s.exponent + (Nat.toDigits 10 s.coefficient).length
  if s.coefficient = 0 ∨ magnitude < -400 then some ⟨0, minExponent⟩
  else if 400 < magnitude then none
  else ofRatio? (s.coefficient * pow10 s.exponent.toNat) (pow10 (-s.exponent).toNat)

/-- The decimals c · 10 ^ k that round to `x`, nearest first: at most the two neighbours of `x` on
that grid. Everything is compared in quarters of the last place. -/
def onGrid (x : Binary64) (k : Int) : List Nat :=
  let up := pow2 x.exponent.toNat * pow10 (-k).toNat
  let down := 4 * pow2 (-x.exponent).toNat * pow10 k.toNat
  let value := 4 * x.mantissa * up
  let gap := if x.mantissa = pow2 52 ∧ minExponent < x.exponent then 1 else 2
  let lowest := value - gap * up
  let highest := value + 2 * up
  let even := x.mantissa % 2 = 0
  let inside (c : Nat) : Bool :=
    if even then lowest ≤ c * down ∧ c * down ≤ highest
    else lowest < c * down ∧ c * down < highest
  let c := value / down
  let nearest := if 2 * (value - c * down) ≤ down then [c, c + 1] else [c + 1, c]
  nearest.filter fun c => c != 0 && inside c

/-- The shortest decimal on a grid of at most 10 ^ k, tried downwards. -/
def shortestFrom (x : Binary64) : Nat → Int → Scientific
  | 0, k => ⟨0, k⟩
  | fuel + 1, k =>
      match x.onGrid k with
      | c :: _ => ⟨c, k⟩
      | [] => shortestFrom x fuel (k - 1)

/-- The shortest decimal that rounds to `x`, and the nearest of those. -/
def shortest (x : Binary64) : Scientific :=
  if x.mantissa = 0 then ⟨0, 0⟩ else shortestFrom x 700 309

end Binary64

/-- A decimal without exponent, always with a digit on both sides of the point. -/
def Scientific.positional (s : Scientific) : String :=
  let digits := Nat.toDigits 10 s.coefficient
  let place := s.exponent + digits.length
  let text :=
    if place ≤ 0 then ['0', '.'] ++ List.replicate (-place).toNat '0' ++ digits
    else if digits.length ≤ place.toNat then
      digits ++ List.replicate (place.toNat - digits.length) '0' ++ ['.', '0']
    else digits.take place.toNat ++ ['.'] ++ digits.drop place.toNat
  String.ofList text

end MqAssembler.Decimal
