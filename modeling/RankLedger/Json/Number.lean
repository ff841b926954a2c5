import RankLedger.Text.Bytes
import RankLedger.Binary64

set_option autoImplicit false

/-! # JSON number literals

A literal is an optional minus, a whole part without needless zeros, and optionally a fraction and
an exponent. A literal without fraction and exponent is an integer where 64 bits hold it, unsigned
above zero and signed below; `-0`, larger integers and all other literals are doubles.

A double takes as many digits of the literal as fit an unsigned 64-bit significand, whole part
first, then fraction. Digits of the whole part left over raise the power of ten; digits of the
fraction left over are dropped. -/

namespace RankLedger.Json

/-- A number as it is written. -/
structure Literal where
  negative : Bool
  whole : List Nat
  fraction : List Nat
  exponent : Option Int
  deriving DecidableEq, Repr, Inhabited

namespace Literal

/-- The value of a digit. -/
def digitValue (c : Char) : Nat := c.toNat - '0'.toNat

/-- The leading digits and what follows them. -/
def spanDigits (cs : List Char) : List Nat × List Char :=
  ((cs.takeWhile Char.isDigit).map digitValue, cs.dropWhile Char.isDigit)

/-- The digits after a point, at least one; none written is an empty list. -/
def fraction? : List Char → Option (List Nat × List Char)
  | '.' :: cs =>
      let (ds, rest) := spanDigits cs
      if ds.isEmpty then none else some (ds, rest)
  | cs => some ([], cs)

/-- The digits of an exponent, at least one, after its sign. -/
def exponentDigits? (negative : Bool) (cs : List Char) : Option Int :=
  (Text.digits? cs).map fun n => if negative then -(n : Int) else (n : Int)

/-- The exponent that ends a literal; none written is allowed. -/
def exponent? : List Char → Option (Option Int)
  | [] => some none
  | c :: cs =>
      if c = 'e' ∨ c = 'E' then
        match cs with
        | '+' :: ds => (exponentDigits? false ds).map some
        | '-' :: ds => (exponentDigits? true ds).map some
        | ds => (exponentDigits? false ds).map some
      else none

/-- A whole part: one zero, or digits that do not start with zero. -/
def isWhole : List Nat → Bool
  | [] => false
  | [_] => true
  | d :: _ => d != 0

/-- Read a literal that takes up all the characters. -/
def ofChars? (cs : List Char) : Option Literal := do
  let (negative, cs) := match cs with
    | '-' :: cs => (true, cs)
    | cs => (false, cs)
  let (whole, cs) := spanDigits cs
  if isWhole whole then
    let (fraction, cs) ← fraction? cs
    let exponent ← exponent? cs
    some ⟨negative, whole, fraction, exponent⟩
  else none

/-- Whether neither a fraction nor an exponent is written. -/
def isPlain (l : Literal) : Bool := l.fraction.isEmpty && l.exponent.isNone

/-- The value of the whole part. -/
def wholeValue (l : Literal) : Nat := l.whole.foldl (fun n d => n * 10 + d) 0

/-- Append digits to a significand while it stays below `2 ^ 64`; also the number of digits
taken. -/
def takeDigits (s : Nat) : List Nat → Nat × Nat
  | [] => (s, 0)
  | d :: ds =>
      if s * 10 + d < UInt64.size then
        let (s', n) := takeDigits (s * 10 + d) ds
        (s', n + 1)
      else (s, 0)

/-- The nearest double as doubles are read here; none beyond the finite range. -/
def double? (l : Literal) : Option Binary64 :=
  let (s, wholeTaken) := takeDigits 0 l.whole
  let (s, fractionTaken) := takeDigits s l.fraction
  let e : Int := (l.whole.length - wholeTaken : Nat) - (fractionTaken : Int) + l.exponent.getD 0
  Binary64.ofDecimal? l.negative s e

/-- The integer that a literal stands for, if it is one that 64 bits hold. -/
def integer? (l : Literal) : Option Int :=
  if !l.isPlain then none
  else if l.negative then
    if 0 < l.wholeValue ∧ l.wholeValue ≤ Nat.pow 2 63 then some (-(l.wholeValue : Int)) else none
  else if l.wholeValue < UInt64.size then some (l.wholeValue : Int)
  else none

end Literal

end RankLedger.Json
