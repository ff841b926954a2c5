import RankLedger.Text.Bytes

set_option autoImplicit false

/-! # Flaws in UTF-8

Bytes that are not well-formed UTF-8 have a first flaw: a run of bytes that begins no character, or
the beginning of a character with which the bytes end. A flaw can be reported, or every flaw mended
by a replacement character. -/

namespace RankLedger.Utf8

/-- The bytes that continue a character. -/
def tail : Nat × Nat := (0x80, 0xBF)

/-- The ranges of the bytes that must follow a first byte; none if no character begins with it. -/
def followers? (x : UInt8) : Option (List (Nat × Nat)) :=
  let n := x.toNat
  if n < 0x80 then some []
  else if n < 0xC2 then none
  else if n < 0xE0 then some [tail]
  else if n = 0xE0 then some [(0xA0, 0xBF), tail]
  else if n = 0xED then some [(0x80, 0x9F), tail]
  else if n < 0xF0 then some [tail, tail]
  else if n = 0xF0 then some [(0x90, 0xBF), tail, tail]
  else if n < 0xF4 then some [tail, tail, tail]
  else if n = 0xF4 then some [(0x80, 0x8F), tail, tail]
  else none

/-- What stands at the front of some bytes. -/
inductive Front where
  /-- A character of so many bytes. -/
  | char (length : Nat)
  /-- So many bytes that begin no character. -/
  | bad (length : Nat)
  /-- The beginning of a character, which then breaks off. -/
  | cut
  deriving DecidableEq, Repr

/-- Match bytes with ranges, after `taken` bytes. -/
def follow (taken : Nat) : List (Nat × Nat) → Bytes → Front
  | [], _ => .char taken
  | _ :: _, [] => .cut
  | r :: ranges, x :: rest =>
      if r.1 ≤ x.toNat ∧ x.toNat ≤ r.2 then follow (taken + 1) ranges rest else .bad taken

/-- What stands at the front of bytes that begin with `x`. -/
def front (x : UInt8) (rest : Bytes) : Front :=
  match followers? x with
  | some ranges => follow 1 ranges rest
  | none => .bad 1

/-! ## The first flaw -/

/-- A flaw: where it is, and how many bytes it has unless the bytes just break off. -/
structure Flaw where
  index : Nat
  length : Option Nat
  deriving DecidableEq, Repr

/-- How a flaw is reported. -/
def Flaw.message (f : Flaw) : String :=
  match f.length with
  | some n => "invalid utf-8 sequence of " ++ toString n ++ " bytes from index " ++ toString f.index
  | none => "incomplete utf-8 byte sequence from index " ++ toString f.index

/-- The first flaw from an index on; `skip` more bytes belong to the last character. -/
def flawFrom? (index : Nat) : Nat → Bytes → Option Flaw
  | _, [] => none
  | skip + 1, _ :: rest => flawFrom? (index + 1) skip rest
  | 0, x :: rest =>
      match front x rest with
      | .char n => flawFrom? (index + 1) (n - 1) rest
      | .bad n => some ⟨index, some n⟩
      | .cut => some ⟨index, none⟩

/-- The first flaw. -/
def flaw? (b : Bytes) : Option Flaw := flawFrom? 0 0 b

/-- The text of bytes, or their first flaw. -/
def read (b : Bytes) : Except Flaw String :=
  match flaw? b with
  | none => .ok (b.text?.getD "")
  | some f => .error f

/-! ## Mending -/

/-- What stands in for a flaw. -/
def replacement : Bytes := Bytes.ofText "\ufffd"

/-- Put the replacement for each flaw; `skip` more bytes belong to what came last, which is kept or
not. -/
def mendFrom (isKept : Bool) : Nat → Bytes → Bytes
  | _, [] => []
  | skip + 1, x :: rest =>
      if isKept then x :: mendFrom isKept skip rest else mendFrom isKept skip rest
  | 0, x :: rest =>
      match front x rest with
      | .char n => x :: mendFrom true (n - 1) rest
      | .bad n => replacement ++ mendFrom false (n - 1) rest
      | .cut => replacement

/-- The text of bytes, with a replacement for each flaw. -/
def mended (b : Bytes) : String := (mendFrom true 0 b).text?.getD ""

end RankLedger.Utf8
