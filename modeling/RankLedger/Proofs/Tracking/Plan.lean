import RankLedger.Proofs.Store.Writing
import RankLedger.Proofs.Tracking.Border
import RankLedger.Proofs.Tracking.Course

set_option autoImplicit false

/-! # What a plan says

What a tracker plans to write and to commit, as far as callers need it: for which kinds of tables a
plan brings rows, which rows it brings for the main board, and what it commits there. What it does
about a chapter has no part in the latter, as the keys differ. -/

namespace RankLedger

namespace Tracker

/-- A tracker plans rows of chapters only if its own kind has chapters. -/
theorem brings_plan {t : Tracker} {s : Snapshot} {scope : Scope} {now : Int}
    {top border : Board} {kind : TableKind}
    (h : (t.plan s scope now top border).batch.brings kind = true) :
    kind ∈ Schema.kinds t.kind.hasChapters := by
  cases kind with
  | rankings => simp [Schema.kinds]
  | identities => simp [Schema.kinds]
  | chapters =>
      cases hkind : t.kind.hasChapters with
      | true => simp [Schema.kinds]
      | false =>
          have hnone : t.chapterOf s scope = none := by simp [chapterOf, hkind]
          simp [plan, hnone, chapterMerge, Batch.project, Batch.brings, firstBy] at h

/-! ## The main board -/

section Plan

variable (t : Tracker) (s : Snapshot) (scope : Scope) (now : Int) (top border : Board)

theorem mainMerge_cases :
    (t.mainMerge top border scope).staged = none
      ∨ scope = .full ∧ t.mainMerge top border scope
        = ⟨top.standings ++ BorderLedger.below top.standings border.standings,
          some ⟨Border.mainKey t.region t.eventId, Border.digest border.standings⟩⟩ := by
  cases scope with
  | chapterFinal character => exact Or.inl rfl
  | full =>
      unfold mainMerge
      rcases t.borders.stage_cases top.standings border.standings
        (Border.mainKey t.region t.eventId) with ⟨-, heq⟩ | ⟨-, heq⟩
      · exact Or.inl (by rw [heq])
      · exact Or.inr ⟨rfl, heq⟩

variable {top} in
/-- The best hundred are merged for the main board in any case. -/
theorem mem_mainMerge {p : Standing} (hp : p ∈ top.standings) :
    p ∈ (t.mainMerge top border .full).standings := by
  unfold mainMerge
  rcases t.borders.stage_cases top.standings border.standings
    (Border.mainKey t.region t.eventId) with ⟨-, heq⟩ | ⟨-, heq⟩
  · rw [heq]
    exact hp
  · rw [heq]
    exact List.mem_append_left _ hp

/-- The rows planned are those of the first standing of each player, and belong to no chapter. -/
theorem rankings_plan :
    (t.plan s scope now top border).batch.rankings.map (fun row => { row with character := none })
      = (firstBy (·.userId) (t.mainMerge top border scope).standings).map
        (Standing.mainRow (now.fdiv 1000)) := by
  simp only [plan, Batch.project, List.map_map]
  rfl

variable {t scope top border} in
/-- A plan brings a row for each player who is merged for the main board. -/
theorem hasKey_rankings_plan {p : Standing} (hp : p ∈ (t.mainMerge top border scope).standings) :
    hasKey Database.mainKey ((t.plan s scope now top border).batch.rankings.map fun row =>
      { row with character := none }) (now.fdiv 1000, p.userId) = true := by
  obtain ⟨q, hq, hqp⟩ := exists_mem_firstBy (·.userId) hp
  rw [rankings_plan, hasKey_iff, List.map_map]
  exact List.mem_map.2 ⟨q, hq, Prod.ext rfl hqp⟩

/-- What a plan commits for a chapter does not touch the digest of the main board. -/
theorem get?_committed_plan :
    (t.committed (t.plan s scope now top border)).borders.digests.get?
        (Border.mainKey t.region t.eventId)
      = (t.borders.commitAll (t.mainMerge top border scope).staged.toList).digests.get?
        (Border.mainKey t.region t.eventId) := by
  have hcommitted : (t.committed (t.plan s scope now top border)).borders =
      (t.borders.commitAll (t.mainMerge top border scope).staged.toList).commitAll
        (t.chapterMerge top border (t.chapterOf s scope)).staged.toList := by
    rw [← BorderLedger.commitAll_append]
    rfl
  rw [hcommitted]
  refine BorderLedger.get?_commitAll_of_ne fun staged hstaged => ?_
  cases hturn : t.chapterOf s scope with
  | none =>
      rw [hturn] at hstaged
      cases hstaged
  | some character =>
      rw [hturn] at hstaged
      rw [BorderLedger.key_of_stage hstaged]
      exact (Border.mainKey_ne_chapterKey _ _ _).symm

end Plan

end Tracker

end RankLedger
