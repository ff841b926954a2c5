import RankLedger.Text.Bytes

set_option autoImplicit false

/-! # The text of a JSON string

From the bytes between the quotes to the text: escapes are replaced, an escaped surrogate needs its
partner right behind it, and the whole must be well-formed UTF-8. -/

namespace RankLedger.Json

/-- The UTF-8 bytes of a code point that is no surrogate. -/
def encodePoint (n : Nat) : Bytes := Bytes.ofText (String.singleton (Char.ofNat n))

/-- The code unit of four base-16 digits. -/
def unit? (a b c d : UInt8) : Option Nat := do
  let a ← Bytes.hexByte? a
  let b ← Bytes.hexByte? b
  let c ← Bytes.hexByte? c
  let d ← Bytes.hexByte? d
  some (((a * 16 + b) * 16 + c) * 16 + d)

/-- The byte that a short escape stands for. -/
def shortEscape (x : UInt8) : UInt8 :=
  if x = 98 then 8
  else if x = 102 then 12
  else if x = 110 then 10
  else if x = 114 then 13
  else if x = 116 then 9
  else x

/-- Replace the escapes; the result is kept last byte first in `out`. -/
def unescape? (out : Bytes) : Bytes → Option Bytes
  | [] => some out.reverse
  | 92 :: 117 :: a :: b :: c :: d :: rest =>
      match unit? a b c d with
      | none => none
      | some n =>
          if 0xDC00 ≤ n ∧ n ≤ 0xDFFF then none
          else if 0xD800 ≤ n ∧ n ≤ 0xDBFF then
            match rest with
            | 92 :: 117 :: a :: b :: c :: d :: rest =>
                match unit? a b c d with
                | none => none
                | some m =>
                    if 0xDC00 ≤ m ∧ m ≤ 0xDFFF then
                      let p := (n - 0xD800) * 0x400 + (m - 0xDC00) + 0x10000
                      unescape? ((encodePoint p).reverse ++ out) rest
                    else none
            | _ => none
          else unescape? ((encodePoint n).reverse ++ out) rest
  | 92 :: x :: rest => unescape? (shortEscape x :: out) rest
  | x :: rest => unescape? (x :: out) rest

/-- The text of the bytes between the quotes of a string. -/
def textOfRaw? (raw : Bytes) : Option String := (unescape? [] raw).bind Bytes.text?

end RankLedger.Json
