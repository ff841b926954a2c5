import RankLedger.Word

set_option autoImplicit false

/-! # Decimal numerals

Numerals as people type them: ASCII digits with leading zeros allowed, after an optional sign. Each
reader refuses a value outside its range. -/

namespace RankLedger.Text

/-- The value of a non-empty run of digits. -/
def digits? (cs : List Char) : Option Nat :=
  if cs.isEmpty || !cs.all Char.isDigit then none else some (Nat.ofDigitChars 10 cs 0)

/-- An optional `+` or `-`, then digits. -/
def signedDigits? : List Char → Option Int
  | '-' :: cs => (digits? cs).map (- Int.ofNat ·)
  | '+' :: cs => (digits? cs).map Int.ofNat
  | cs => (digits? cs).map Int.ofNat

/-- A numeral for a signed 64-bit integer: an optional `+` or `-`, then digits. -/
def signed? (s : String) : Option Int := (signedDigits? s.toList).filter (decide <| Word.Fits ·)

/-- A numeral for an unsigned integer below `2 ^ bits`: an optional `+`, then digits. -/
def unsigned? (bits : Nat) (s : String) : Option Nat :=
  (match s.toList with
    | '+' :: cs => digits? cs
    | cs => digits? cs).filter (· < Nat.pow 2 bits)

/-- The small base-16 digit for a value below sixteen. -/
def hexDigit (n : Nat) : Char := Nat.digitChar n

/-- The value of a base-16 digit in either case. -/
def hexValue? (c : Char) : Option Nat :=
  if c.isDigit then some (c.toNat - '0'.toNat)
  else if 'a' ≤ c ∧ c ≤ 'f' then some (c.toNat - 'a'.toNat + 10)
  else if 'A' ≤ c ∧ c ≤ 'F' then some (c.toNat - 'A'.toNat + 10)
  else none

/-- A numeral padded on the left with zeros to at least `width` digits. -/
def padded (width n : Nat) : String :=
  let s := toString n
  String.ofList (List.replicate (width - s.length) '0') ++ s

end RankLedger.Text
