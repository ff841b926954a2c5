import RankLedger.Digest.Sha256
import RankLedger.Keyed
import RankLedger.Ranking.Board
import RankLedger.Region

set_option autoImplicit false

/-! # Borders that have changed

The border of a board is written only when its places and scores are not those written last. A
ledger holds, for each board, the digest of the border last committed. Merging is done in two steps:
`stage` says what to write and what to commit afterwards, and changes nothing; `commit` follows once
the writing has gone well. -/

namespace RankLedger

/-! ## Keys and digests -/

namespace Border

/-- The key of an event's main board. -/
def mainKey (region : Region) (eventId : Int) : String :=
  region.name ++ "-event-" ++ toString eventId ++ "-main-border"

/-- The key of a chapter's board. -/
def chapterKey (region : Region) (eventId character : Int) : String :=
  region.name ++ "-event-" ++ toString eventId ++ "-" ++ toString character ++ "-border"

/-- Place and score of a standing. -/
def standingText (s : Standing) : String := toString s.rank ++ ":" ++ toString s.score ++ ";"

/-- The text that a border is known by: its places and scores in order. -/
def canonical (border : List Standing) : String := String.join (border.map standingText)

/-- The digest of a border. -/
def digest (border : List Standing) : String := Sha256.hex (Bytes.ofText (canonical border))

end Border

/-! ## The ledger -/

/-- A digest to be committed. -/
structure StagedBorder where
  key : String
  digest : String
  deriving DecidableEq, Repr, Inhabited

/-- What to write, and what to commit afterwards. -/
structure Merge where
  standings : List Standing
  staged : Option StagedBorder
  deriving DecidableEq, Repr, Inhabited

/-- The digest last committed under each key. -/
structure BorderLedger where
  digests : Keyed String String := []
  deriving DecidableEq, Repr, Inhabited

namespace BorderLedger

/-- Whether a digest is the one last committed under a key. -/
def isUnchanged (l : BorderLedger) (key digest : String) : Bool := l.digests.get? key = some digest

/-- Commit a digest. -/
def commit (l : BorderLedger) (s : StagedBorder) : BorderLedger := ⟨l.digests.put s.key s.digest⟩

/-- Commit digests one after another. -/
def commitAll (l : BorderLedger) (ss : List StagedBorder) : BorderLedger := ss.foldl commit l

/-- The number of keys with a digest. -/
def size (l : BorderLedger) : Nat := l.digests.length

/-- The standings of a border that the best hundred do not settle already. -/
def below (top border : List Standing) : List Standing :=
  border.filter fun s => s.rank ≠ boundaryRank && !(top.map (·.rank)).contains s.rank

/-- The best hundred, followed by the border if that has changed. -/
def stage (l : BorderLedger) (top border : List Standing) (key : String) : Merge :=
  if l.isUnchanged key (Border.digest border) then ⟨top, none⟩
  else ⟨top ++ below top border, some ⟨key, Border.digest border⟩⟩

/-- Stage and commit in one step. -/
def merge (l : BorderLedger) (top border : List Standing) (key : String) :
    List Standing × BorderLedger :=
  let m := l.stage top border key
  (m.standings, l.commitAll m.staged.toList)

theorem isUnchanged_commit (l : BorderLedger) (s : StagedBorder) (key digest : String) :
    (l.commit s).isUnchanged key digest =
      if s.key = key then decide (s.digest = digest) else l.isUnchanged key digest := by
  unfold isUnchanged commit
  rw [Keyed.get?_put]
  split <;> simp

end BorderLedger

end RankLedger
