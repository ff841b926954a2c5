import RankLedger.Proofs.Calendar.Chapters

set_option autoImplicit false

/-! # What windows promise

The phase of an event only goes forward, whatever the order of its times
(`EventWindow.phaseAt_mono`): each time is looked at from one side only, and the settling ends at a
time that does not depend on the instant. Live time begins with the start, and goes on after the
close for as long as the grace lasts, unless time itself ends before. So where the times are in order
there is a stretch in which the event is live and has ended (`phases_go_forward`), and its final
result can be picked up. -/

namespace RankLedger

namespace EventWindow

/-- The times are 64-bit integers. -/
def Fits (w : EventWindow) : Prop :=
  Word.Fits w.start ∧ Word.Fits w.aggregate ∧ Word.Fits w.closed

instance (w : EventWindow) : Decidable w.Fits := inferInstanceAs (Decidable (_ ∧ _))

/-- The event starts, then its scores freeze, then it closes. -/
def InOrder (w : EventWindow) : Prop := w.start ≤ w.aggregate ∧ w.aggregate ≤ w.closed

instance (w : EventWindow) : Decidable w.InOrder := inferInstanceAs (Decidable (_ ∧ _))

/-! ## Bounds -/

section Bounds

variable {w : EventWindow} {now : Int}

theorem isLive_iff : w.isLive now = true ↔ w.start ≤ now ∧ now < w.liveEnd := by
  simp [isLive]

theorem liveEnd_of_fits (h : Word.Fits (w.closed + 600000)) : w.liveEnd = w.closed + 600000 :=
  Word.saturate_of_fits h

theorem settled_le_closed (w : EventWindow) : w.settled ≤ w.closed := Int.min_le_right _ _

/-- Cut off at the end of time, the settling only gets shorter. -/
theorem settled_le_of_fits (h : Word.Fits w.aggregate) : w.settled ≤ w.aggregate + 600000 := by
  have hcut : Word.saturate (w.aggregate + grace) ≤ w.aggregate + 600000 := by
    unfold Word.Fits at h
    unfold Word.saturate grace
    -- The sum is not below the least word, so it can only be cut from above.
    have hleast : Word.least ≤ w.aggregate + 600000 := by omega
    omega
  exact Int.le_trans (Int.min_le_left _ _) hcut

end Bounds

/-! ## Phases -/

section Phases

variable {w : EventWindow} {now : Int}

theorem phaseAt_mono (w : EventWindow) {now now' : Int} (h : now ≤ now') :
    w.phaseAt now ≤ w.phaseAt now' := by
  rw [Phase.le_iff]
  unfold phaseAt
  by_cases hstart : now < w.start
  · rw [if_pos hstart]
    exact Nat.zero_le _
  · -- What has come stays so.
    have hstart' : ¬ now' < w.start := by omega
    rw [if_neg hstart, if_neg hstart']
    by_cases haggregate : now < w.aggregate
    · rw [if_pos haggregate]
      split_ifs <;> decide
    · have haggregate' : ¬ now' < w.aggregate := by omega
      rw [if_neg haggregate, if_neg haggregate']
      by_cases hsettled : now < w.settled
      · rw [if_pos hsettled]
        split_ifs <;> decide
      · have hsettled' : ¬ now' < w.settled := by omega
        rw [if_neg hsettled, if_neg hsettled']

theorem phaseAt_ne_notStarted (h : w.start ≤ now) : w.phaseAt now ≠ .notStarted := by
  have hstart : ¬ now < w.start := by omega
  unfold phaseAt
  rw [if_neg hstart]
  split_ifs <;> decide

theorem phaseAt_of_lt_aggregate (hstart : w.start ≤ now) (haggregate : now < w.aggregate) :
    w.phaseAt now = .ongoing := by
  have hstart' : ¬ now < w.start := by omega
  unfold phaseAt
  rw [if_neg hstart', if_pos haggregate]

theorem phaseAt_of_closed_le (horder : w.InOrder) (h : w.closed ≤ now) :
    w.phaseAt now = .ended := by
  obtain ⟨hstart, haggregate⟩ := horder
  have hsettled := w.settled_le_closed
  have hstarted : ¬ now < w.start := by omega
  have hfrozen : ¬ now < w.aggregate := by omega
  have hdone : ¬ now < w.settled := by omega
  unfold phaseAt
  rw [if_neg hstarted, if_neg hfrozen, if_neg hdone]

/-- Scores of an ongoing event freeze later than now. -/
theorem lt_aggregate_of_ongoing (h : w.phaseAt now = .ongoing) : now < w.aggregate := by
  unfold phaseAt at h
  split_ifs at h with hstart haggregate hsettled
  exact haggregate

theorem bounds_of_aggregating (h : w.phaseAt now = .aggregating) :
    w.aggregate ≤ now ∧ now < w.settled := by
  unfold phaseAt at h
  split_ifs at h with hstart haggregate hsettled
  exact ⟨by omega, hsettled⟩

end Phases

end EventWindow

/-! ## Live time and phases -/

/-- For every event and every chapter, in whatever order their times are:

* as time goes on, the phase stays or moves forward;
* an event that is live has started.

Where the times of an event are in order, and its close is not within the grace of the end of time:

* it is live and has ended at each instant of the grace after its close;
* results settle for no longer than the grace, from the freeze on;
* as long as it is live and scores are not frozen, it is ongoing. -/
theorem phases_go_forward (w : EventWindow) (c : ChapterWindow) :
    (∀ now now', now ≤ now' →
      w.phaseAt now ≤ w.phaseAt now' ∧ c.phaseAt now ≤ c.phaseAt now')
    ∧ (∀ now, w.isLive now = true → w.phaseAt now ≠ .notStarted)
    ∧ (w.Fits → w.InOrder → Word.Fits (w.closed + 600000) →
      (∀ now, w.closed ≤ now → now < w.closed + 600000 →
        w.isLive now = true ∧ w.phaseAt now = .ended)
      ∧ (∀ now, w.phaseAt now = .aggregating →
        w.aggregate ≤ now ∧ now < w.aggregate + 600000)
      ∧ ∀ now, w.isLive now = true → now < w.aggregate → w.phaseAt now = .ongoing) := by
  refine ⟨fun now now' h => ⟨w.phaseAt_mono h, c.phaseAt_mono h⟩, ?started, ?ordered⟩
  case started =>
    intro now hlive
    exact EventWindow.phaseAt_ne_notStarted (EventWindow.isLive_iff.1 hlive).1
  case ordered =>
    intro hfits horder hgrace
    refine ⟨?overlap, ?settling, ?ongoing⟩
    case overlap =>
      intro now hclosed hend
      obtain ⟨hstart, haggregate⟩ := horder
      rw [← EventWindow.liveEnd_of_fits hgrace] at hend
      exact ⟨EventWindow.isLive_iff.2 ⟨by omega, hend⟩,
        EventWindow.phaseAt_of_closed_le ⟨hstart, haggregate⟩ hclosed⟩
    case settling =>
      intro now h
      obtain ⟨hfrozen, hsettled⟩ := EventWindow.bounds_of_aggregating h
      have hsettle := EventWindow.settled_le_of_fits hfits.2.1
      exact ⟨hfrozen, by omega⟩
    case ongoing =>
      intro now hlive haggregate
      exact EventWindow.phaseAt_of_lt_aggregate (EventWindow.isLive_iff.1 hlive).1 haggregate

/-- An event that has been on since the beginning of time, and closes just in time for the grace. -/
def longestEvent : EventWindow := ⟨Word.least, 0, Word.greatest - 600000⟩

/-- A chapter that ends before it starts. -/
def backwardChapter : ChapterWindow := ⟨30, 20, 10⟩

theorem phases_go_forward_longest :
    longestEvent.Fits ∧ longestEvent.InOrder ∧ Word.Fits (longestEvent.closed + 600000)
      ∧ longestEvent.phaseAt 5 ≤ longestEvent.phaseAt 600000
      ∧ backwardChapter.phaseAt 5 ≤ backwardChapter.phaseAt 600000
      ∧ longestEvent.isLive (Word.greatest - 1) = true
      ∧ longestEvent.phaseAt (Word.greatest - 1) = .ended
      ∧ longestEvent.phaseAt Word.least = .ongoing := by
  have hfits : longestEvent.Fits := by decide
  have horder : longestEvent.InOrder := by decide
  have hgrace : Word.Fits (longestEvent.closed + 600000) := by decide
  obtain ⟨hforward, -, hordered⟩ := phases_go_forward longestEvent backwardChapter
  obtain ⟨hoverlap, -, hongoing⟩ := hordered hfits horder hgrace
  obtain ⟨hevent, hchapter⟩ := hforward 5 600000 (by decide)
  obtain ⟨hlive, hended⟩ := hoverlap (Word.greatest - 1) (by decide) (by decide)
  exact ⟨hfits, horder, hgrace, hevent, hchapter, hlive, hended,
    hongoing Word.least (by decide) (by decide)⟩

end RankLedger
