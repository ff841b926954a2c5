set_option autoImplicit false

/-! # Doubles as exact numbers

A finite double is a sign, a significand and a power of two. Products and quotients are computed
exactly and rounded once, to the nearest double, a half going to the even significand.

A decimal is read in one or more such steps: its significand is rounded, then multiplied or divided
by powers of ten that are doubles themselves (`Binary64.ofDecimal?`). -/

namespace RankLedger

/-- The magnitude of a finite double: `significand * 2 ^ exponent`, with `significand < 2 ^ 53` and
the exponent as small as the format allows. -/
structure Magnitude where
  significand : Nat
  exponent : Int
  deriving DecidableEq, Repr, Inhabited

/-- A finite double; zero comes with either sign. -/
structure Binary64 where
  negative : Bool
  magnitude : Magnitude
  deriving DecidableEq, Repr, Inhabited

namespace Magnitude

/-- The smallest exponent of the format. -/
def leastExponent : Int := -1074

/-- The greatest exponent of the format. -/
def greatestExponent : Int := 971

/-- Zero. -/
def zero : Magnitude := ⟨0, leastExponent⟩

/-- The numerator and the denominator. -/
def fraction (a : Magnitude) : Nat × Nat :=
  if 0 ≤ a.exponent then (a.significand * Nat.pow 2 a.exponent.toNat, 1)
  else (a.significand, Nat.pow 2 (-a.exponent).toNat)

/-- The integer nearest to `num / den`, a half going to the even one. -/
def nearest (num den : Nat) : Nat :=
  let q := num / den
  let r := num % den
  if 2 * r > den || (2 * r == den && q % 2 == 1) then q + 1 else q

/-- `num / den` over `2 ^ e`, as a numerator and a denominator. -/
def scaled (num den : Nat) (e : Int) : Nat × Nat :=
  if 0 ≤ e then (num, den * Nat.pow 2 e.toNat) else (num * Nat.pow 2 (-e).toNat, den)

/-- The magnitude nearest to `num / den`; none if that is out of the finite range. -/
def round? (num den : Nat) : Option Magnitude :=
  if num = 0 then some zero
  else
    let guess : Int := (num.log2 : Int) - (den.log2 : Int) - 52
    let (n, d) := scaled num den guess
    let e := max (if n / d < Nat.pow 2 52 then guess - 1 else guess) leastExponent
    let (n, d) := scaled num den e
    let s := nearest n d
    let rounded : Magnitude := if s = Nat.pow 2 53 then ⟨Nat.pow 2 52, e + 1⟩ else ⟨s, e⟩
    if greatestExponent < rounded.exponent then none else some rounded

/-- The rounded product. -/
def times? (a b : Magnitude) : Option Magnitude :=
  round? (a.fraction.1 * b.fraction.1) (a.fraction.2 * b.fraction.2)

/-- The rounded quotient by a magnitude other than zero. -/
def over? (a b : Magnitude) : Option Magnitude :=
  round? (a.fraction.1 * b.fraction.2) (a.fraction.2 * b.fraction.1)

/-- The greatest exponent of a power of ten in range. -/
def greatestPower : Nat := 308

/-- The magnitude nearest to `10 ^ k`. -/
def tenTo? (k : Nat) : Option Magnitude := round? (Nat.pow 10 k) 1

/-- Divide by the greatest power of ten so many times, or until nothing is left. -/
def descend? : Nat → Magnitude → Option Magnitude
  | 0, a => some a
  | n + 1, a =>
      if a.significand = 0 then some a
      else (tenTo? greatestPower).bind fun t => (a.over? t).bind (descend? n)

/-- `a` over `10 ^ k`, dividing by at most `10 ^ 308` at a time. -/
def downBy? (a : Magnitude) (k : Nat) : Option Magnitude :=
  (descend? (k / greatestPower) a).bind fun b => (tenTo? (k % greatestPower)).bind (b.over? ·)

/-- `a` times `10 ^ k`; none beyond the finite range. -/
def upBy? (a : Magnitude) (k : Nat) : Option Magnitude :=
  if k ≤ greatestPower then (tenTo? k).bind (a.times? ·)
  else if a.significand = 0 then some a
  else none

/-- Read `s * 10 ^ e`: round `s`, then scale. -/
def ofDecimal? (s : Nat) (e : Int) : Option Magnitude :=
  (round? s 1).bind fun a => if 0 ≤ e then a.upBy? e.toNat else a.downBy? (-e).toNat

end Magnitude

/-- The double of a sign, a decimal significand and a power of ten. -/
def Binary64.ofDecimal? (negative : Bool) (s : Nat) (e : Int) : Option Binary64 :=
  (Magnitude.ofDecimal? s e).map (⟨negative, ·⟩)

end RankLedger
