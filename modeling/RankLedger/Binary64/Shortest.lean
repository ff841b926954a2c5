import RankLedger.Binary64

set_option autoImplicit false

/-! # The shortest decimal of a double

The fewest digits that read back as the same double, and of those the nearest to it; then the text:
positional while the point falls within sixteen digits or at most four zeros follow it, and with an
exponent otherwise. -/

namespace RankLedger

namespace Magnitude

/-- The exponent `p` with `10 ^ p ≤ num / den < 10 ^ (p + 1)`, for a positive fraction. -/
def decimalExponent (num den : Nat) : Int :=
  if den ≤ num then ((toString (num / den)).length : Int) - 1
  else
    let k := (toString (den / num)).length
    if den ≤ num * Nat.pow 10 (k - 1) then -((k : Int) - 1) else -(k : Int)

/-- The two neighbours of a positive fraction on the grid of `10 ^ p`, the nearer first. -/
def neighbours (num den : Nat) (p : Int) : List Nat :=
  let (n, d) :=
    if 0 ≤ p then (num, den * Nat.pow 10 p.toNat) else (num * Nat.pow 10 (-p).toNat, den)
  let q := n / d
  if 2 * (n % d) > d then [q + 1, q] else [q, q + 1]

/-- Whether `c * 10 ^ p` is nearest to this magnitude. -/
def readsBack (a : Magnitude) (c : Nat) (p : Int) : Bool :=
  if 0 ≤ p then round? (c * Nat.pow 10 p.toNat) 1 == some a
  else round? c (Nat.pow 10 (-p).toNat) == some a

/-- The first of the grids with `count`, `count + 1`, … digits that holds a decimal reading back. -/
def shortestFrom (a : Magnitude) (count : Nat) : Nat → Nat × Int
  | 0 => (0, 0)
  | tries + 1 =>
      let (num, den) := a.fraction
      let p := decimalExponent num den - (count : Int) + 1
      match (neighbours num den p).find? (a.readsBack · p) with
      | some c => (c, p)
      | none => shortestFrom a (count + 1) tries

/-- The digits and the power of ten of the shortest decimal of a magnitude other than zero. -/
def shortest (a : Magnitude) : Nat × Int := shortestFrom a 1 17

end Magnitude

namespace Binary64

/-- The digits `s`, times `10 ^ e`, as a text. -/
def layout (digits : Nat) (e : Int) : String :=
  let ds := (toString digits).toList.reverse.dropWhile (· = '0') |>.reverse
  let e := e + ((toString digits).length - ds.length : Nat)
  let point : Int := ds.length + e
  if 0 ≤ e ∧ point ≤ 16 then String.ofList (ds ++ List.replicate e.toNat '0') ++ ".0"
  else if 0 < point ∧ point ≤ 16 then
    String.ofList (ds.take point.toNat) ++ "." ++ String.ofList (ds.drop point.toNat)
  else if -5 < point ∧ point ≤ 0 then
    "0." ++ String.ofList (List.replicate (-point).toNat '0' ++ ds)
  else
    match ds with
    | [] => "0.0"
    | [d] => String.singleton d ++ "e" ++ toString (point - 1)
    | d :: more => String.singleton d ++ "." ++ String.ofList more ++ "e" ++ toString (point - 1)

/-- The shortest text of a double. -/
def render (x : Binary64) : String :=
  let sign := if x.negative then "-" else ""
  if x.magnitude.significand = 0 then sign ++ "0.0"
  else
    let (digits, e) := x.magnitude.shortest
    sign ++ layout digits e

end Binary64

end RankLedger
