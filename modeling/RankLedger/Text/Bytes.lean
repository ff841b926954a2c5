import RankLedger.Text.Numeral

set_option autoImplicit false

/-! # Texts as bytes

The UTF-8 bytes of a text and back, base-16 dumps of bytes, and percent escapes. -/

namespace RankLedger

/-- A run of bytes. -/
abbrev Bytes : Type := List UInt8

namespace Bytes

/-- The UTF-8 bytes of a text. -/
def ofText (s : String) : Bytes := s.toUTF8.toList

/-- The text whose UTF-8 bytes these are, if they are well formed. -/
def text? (b : Bytes) : Option String := String.fromUTF8? ⟨b.toArray⟩

/-- Two small base-16 digits a byte. -/
def toHex (b : Bytes) : String :=
  String.ofList (b.flatMap fun x => [Text.hexDigit (x.toNat / 16), Text.hexDigit (x.toNat % 16)])

/-- The bytes of a base-16 dump with an even number of digits. -/
def ofHex? (s : String) : Option Bytes := go s.toList
where
  go : List Char → Option Bytes
    | [] => some []
    | [_] => none
    | a :: b :: rest => do
        let hi ← Text.hexValue? a
        let lo ← Text.hexValue? b
        let more ← go rest
        some (UInt8.ofNat (hi * 16 + lo) :: more)

/-- The value of a byte that is the ASCII code of a base-16 digit. -/
def hexByte? (x : UInt8) : Option Nat := Text.hexValue? (Char.ofNat x.toNat)

/-- Replace each `%` that two base-16 digits follow, with them, by the byte they name; everything
else stays as it is. -/
def percentDecode : Bytes → Bytes
  | [] => []
  | [x] => [x]
  | [x, y] => [x, y]
  | x :: a :: b :: rest =>
      if x = 37 then
        match hexByte? a, hexByte? b with
        | some hi, some lo => UInt8.ofNat (hi * 16 + lo) :: percentDecode rest
        | _, _ => x :: percentDecode (a :: b :: rest)
      else x :: percentDecode (a :: b :: rest)

end Bytes

end RankLedger
