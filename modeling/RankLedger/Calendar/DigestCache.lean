import RankLedger.Digest.Sha256
import RankLedger.Failure
import RankLedger.Json.Value

set_option autoImplicit false

/-! # Lists kept by digest

A file with a JSON list is looked at on every load but understood anew only when its digest has
changed since the last load that went well; one that goes wrong leaves what is held as it is. -/

namespace RankLedger

/-- A JSON list together with the digest of the text it was read from. -/
structure DigestCache where
  /-- The name of the file. -/
  name : String
  held : Option (String × List Json.Value) := none
  /-- How often a text was understood. -/
  parses : Nat := 0
  deriving Repr, Inhabited

namespace DigestCache

/-- The digest of what is held. -/
def digest? (c : DigestCache) : Option String := c.held.map (·.1)

/-- What a look at a file gives when nothing is held; there may be no such file. The text of a
failure names the file alone, not its directory, and leaves out what the system or the reader of
JSON has to say: no outcome of a cycle and no answer repeats it. -/
def plain (name : String) : Option Bytes → Except Failure (List Json.Value)
  | none => .error ⟨.masterData, "failed to read " ++ name⟩
  | some b =>
      match Json.Value.listOfBytes? b with
      | some items => .ok items
      | none => .error ⟨.masterData, "failed to parse " ++ name⟩

/-- The list held under a digest. -/
def heldUnder? (c : DigestCache) (digest : String) : Option (List Json.Value) :=
  (c.held.filter (·.1 = digest)).map (·.2)

/-- The list in a file. -/
def load (c : DigestCache) : Option Bytes → Except Failure (List Json.Value) × DigestCache
  | none => (plain c.name none, c)
  | some b =>
      match c.heldUnder? (Sha256.hex b) with
      | some items => (.ok items, c)
      | none =>
          match plain c.name (some b) with
          | .ok items =>
              (.ok items, { c with held := some (Sha256.hex b, items), parses := c.parses + 1 })
          | .error f => (.error f, c)

end DigestCache

end RankLedger
