import RankLedger.Proofs.Calendar.Fixed
import RankLedger.Proofs.Tracking.Lifecycle
import RankLedger.Proofs.Tracking.Plan

set_option autoImplicit false

/-! # Cycles that write

Everything about a cycle that tells of rows written, in one record (`Daemon.Written`), and the
cycles of a run in one list (`Daemon.steps`). Laws about what was written when go through these:
what a tracker knows after a cycle is what it knew before, unless the cycle has written
(`Daemon.tracker_cases`). -/

namespace RankLedger

/-- What a cycle tells about the rows that it wrote. -/
def CycleOutcome.summary? : CycleOutcome → Option RecordSummary
  | .recorded summary | .eventFinalized summary | .chapterFinalized _ summary => some summary
  | _ => none

@[simp] theorem Task.summary?_outcome (task : Task) (summary : RecordSummary) :
    (task.outcome summary).summary? = some summary := by
  cases task <;> rfl

namespace Daemon

/-- A cycle that has written: what it found, what it planned, and what came of it. -/
structure Written (d : Daemon) (o : Occasion) where
  snapshot : Snapshot
  tracker : Tracker
  task : Task
  /-- The store that was written to, the tables of the event being made. -/
  store : Store
  top : Board
  border : Board
  plan : Tracker.Plan
  written : WriteSummary
  found_eq : d.found o = .ok (some snapshot)
  poised : d.Poised o snapshot tracker store
  task_eq : tracker.task snapshot = .ok task
  top_eq : o.feed tracker.topFetch = .ok top
  border_eq : o.feed tracker.borderFetch = .ok border
  plan_eq : plan = tracker.plan snapshot task.scope o.now top border
  record_eq : store.record tracker.eventId plan.batch = (.ok written, (d.meet o).sink.store)
  outcome_eq : (d.meet o).outcome = task.outcome (plan.summary written)
  tracker_eq : (d.meet o).daemon.tracker = some (task.mark (tracker.committed plan))

section Step

variable {d : Daemon} {o : Occasion}

theorem exists_written {summary : RecordSummary}
    (h : (d.meet o).outcome.summary? = some summary) :
    ∃ r : d.Written o, r.plan.summary r.written = summary := by
  have hc := d.course o
  generalize hmeet : d.meet o = c at hc h
  cases hc with
  | blind outcome hblind =>
      have hsome : outcome.summary? = some summary := h
      unfold blindOutcome? at hblind
      split at hblind
      · cases hblind
      · obtain rfl := Option.some.inj hblind
        cases hsome
      · obtain rfl := Option.some.inj hblind
        cases hsome
      · obtain rfl := Option.some.inj hblind
        cases hsome
  | refused s f store hs hnews hf => cases h
  | waited s t store reason hs hp htask => cases h
  | unanswered s t store task f fetches hs hp htask hf hfetches => cases h
  | unwritten s t store task top border f store' hs hp htask htop hborder hf => cases h
  | wrote s t store task top border w store' hs hp htask htop hborder hw =>
      have hsummary := Option.some.inj ((task.summary?_outcome _).symm.trans h)
      exact ⟨⟨s, t, task, store, top, border, _, w, hs, hp, htask, htop, hborder, rfl,
        by rw [hw, hmeet], by rw [hmeet], by rw [hmeet]⟩, hsummary⟩

/-- After a cycle the tracker is the one of before, or that of a new event, or it has written. -/
theorem tracker_cases (d : Daemon) (o : Occasion) :
    (d.meet o).daemon.tracker = d.tracker
      ∨ (∃ s, d.found o = .ok (some s) ∧ d.IsNews s.eventId
        ∧ (d.meet o).daemon.tracker = some (.ofSnapshot s))
      ∨ Nonempty (d.Written o) := by
  have hpoised : ∀ s t store, d.found o = .ok (some s) → d.Poised o s t store →
      (d.meet o).daemon.tracker = some t →
        (d.meet o).daemon.tracker = d.tracker
          ∨ ∃ s, d.found o = .ok (some s) ∧ d.IsNews s.eventId
            ∧ (d.meet o).daemon.tracker = some (.ofSnapshot s) := by
    intro s t store hs hp ht
    cases hp with
    | kept t ht' hle => exact Or.inl (ht.trans ht'.symm)
    | installed store hnews hmade => exact Or.inr ⟨s, hs, hnews, ht⟩
  have hc := d.course o
  generalize hmeet : d.meet o = c at hc hpoised ⊢
  cases hc with
  | blind outcome hblind => exact Or.inl rfl
  | refused s f store hs hnews hf => exact Or.inl rfl
  | waited s t store reason hs hp htask => exact (hpoised s t store hs hp rfl).imp_right Or.inl
  | unanswered s t store task f fetches hs hp htask hf hfetches =>
      exact (hpoised s t store hs hp rfl).imp_right Or.inl
  | unwritten s t store task top border f store' hs hp htask htop hborder hf =>
      exact (hpoised s t store hs hp rfl).imp_right Or.inl
  | wrote s t store task top border w store' hs hp htask htop hborder hw =>
      have hsummary : (d.meet o).outcome.summary? = some _ :=
        (congrArg (·.outcome.summary?) hmeet).trans (task.summary?_outcome _)
      obtain ⟨r, -⟩ := exists_written hsummary
      exact Or.inr (Or.inr ⟨r⟩)

namespace Written

theorem summary?_eq (r : d.Written o) :
    (d.meet o).outcome.summary? = some (r.plan.summary r.written) := by
  rw [r.outcome_eq, Task.summary?_outcome]

theorem snapshot_eq (r : d.Written o) {s : Snapshot} (hs : d.found o = .ok (some s)) :
    r.snapshot = s :=
  Option.some.inj (Except.ok.inj (r.found_eq.symm.trans hs))

theorem eventId_eq (r : d.Written o) : r.snapshot.eventId = r.tracker.eventId :=
  (Tracker.eventId_eq_of_task r.task_eq).1

theorem followed_eq (r : d.Written o) : (d.meet o).daemon.followed = some r.tracker.eventId := by
  simp [followed, r.tracker_eq, Tracker.committed]

theorem character_eq (r : d.Written o) : (r.plan.summary r.written).character =
    r.tracker.chapterOf r.snapshot r.task.scope := by
  rw [r.plan_eq]
  rfl

theorem rankings_eq (r : d.Written o) :
    (r.plan.summary r.written).rankings = r.plan.batch.rankings.length :=
  (Store.record_ok r.record_eq).1

end Written

/-- A cycle that tells of a task done, and follows an event after it, has done the task for it. -/
theorem exists_written_of_outcome (task : Task) {summary : RecordSummary} {e : Int}
    (hout : (d.meet o).outcome = task.outcome summary)
    (hfollowed : (d.meet o).daemon.followed = some e) :
    ∃ r : d.Written o, r.task = task ∧ r.tracker.eventId = e := by
  have hsummary : (d.meet o).outcome.summary? = some summary := by
    rw [hout, Task.summary?_outcome]
  obtain ⟨r, rfl⟩ := exists_written hsummary
  exact ⟨r, (Task.outcome_inj (r.outcome_eq.symm.trans hout)).1,
    Option.some.inj (r.followed_eq.symm.trans hfollowed)⟩

end Step

/-! ## Runs -/

/-- The cycles of a run: each occasion with the daemon that comes to it. -/
def steps (d : Daemon) : List Occasion → List (Daemon × Occasion)
  | [] => []
  | o :: os => (d, o) :: (d.meet o).daemon.steps os

theorem steps_append (d : Daemon) (os os' : List Occasion) :
    d.steps (os ++ os') = d.steps os ++ (d.after os).steps os' := by
  induction os generalizing d with
  | nil => rfl
  | cons o os ih =>
      rw [List.cons_append, steps, steps, ih, List.cons_append, after_cons]

theorem mem_steps_iff {d : Daemon} {os : List Occasion} {x : Daemon × Occasion} :
    x ∈ d.steps os ↔ ∃ os₁ os₂, os = os₁ ++ x.2 :: os₂ ∧ x.1 = d.after os₁ := by
  induction os generalizing d with
  | nil => simp [steps]
  | cons o os ih =>
      rw [steps, List.mem_cons, ih]
      constructor
      · rintro (rfl | ⟨os₁, os₂, rfl, hx⟩)
        · exact ⟨[], os, rfl, rfl⟩
        · exact ⟨o :: os₁, os₂, rfl, hx⟩
      · rintro ⟨os₁, os₂, hos, hx⟩
        cases os₁ with
        | nil =>
            obtain ⟨rfl, -⟩ := List.cons.inj hos
            exact Or.inl (Prod.ext hx rfl)
        | cons o' os₁ =>
            obtain ⟨rfl, rfl⟩ := List.cons.inj hos
            exact Or.inr ⟨os₁, os₂, rfl, hx⟩

theorem last_mem_steps (d : Daemon) (os : List Occasion) (o : Occasion) :
    (d.after os, o) ∈ d.steps (os ++ [o]) :=
  mem_steps_iff.2 ⟨os, [], rfl, rfl⟩

theorem occasion_of_mem_steps {d : Daemon} {os : List Occasion} {x : Daemon × Occasion}
    (hx : x ∈ d.steps os) : x.2 ∈ os := by
  obtain ⟨os₁, os₂, rfl, -⟩ := mem_steps_iff.1 hx
  simp

/-! ### Runs over the same calendars -/

/-- The calendars stay as they are, and the clock does not go back. -/
structure Orderly (files : CalendarFiles) (os : List Occasion) : Prop where
  files_eq : ∀ o ∈ os, o.files = files
  clock : os.Pairwise fun o o' => o.now ≤ o'.now

theorem Orderly.init {files : CalendarFiles} {os os' : List Occasion}
    (h : Orderly files (os ++ os')) : Orderly files os :=
  ⟨fun o ho => h.files_eq o (List.mem_append_left _ ho), (List.pairwise_append.1 h.clock).1⟩

/-- All that a cycle does to an almanac is to look into it. -/
theorem almanac_meet (d : Daemon) (o : Occasion) :
    (d.meet o).daemon.almanac = (d.almanac.current o.files o.now).2 := by
  have hc := d.course o
  generalize d.meet o = c at hc ⊢
  cases hc <;> rfl

theorem agrees_after {d : Daemon} {files : CalendarFiles} {os : List Occasion}
    (h : ∀ o ∈ os, o.files = files) : d.almanac.Agrees (d.after os).almanac files := by
  induction os generalizing d with
  | nil => exact .refl _ _
  | cons o os ih =>
      have hlook : d.almanac.Agrees (d.meet o).daemon.almanac files := by
        rw [almanac_meet, h o List.mem_cons_self]
        exact d.almanac.agrees_current files o.now
      exact hlook.trans (ih fun o' ho' => h o' (List.mem_cons_of_mem _ ho'))

/-- While the calendars stay, every cycle of a run finds what the first daemon would find. -/
theorem found_of_mem_steps {d : Daemon} {files : CalendarFiles} {os : List Occasion}
    (h : ∀ o ∈ os, o.files = files) {x : Daemon × Occasion} (hx : x ∈ d.steps os) :
    x.1.found x.2 = (d.almanac.current files x.2.now).1 := by
  have hfiles : x.2.files = files := h _ (occasion_of_mem_steps hx)
  obtain ⟨os₁, os₂, rfl, hd⟩ := mem_steps_iff.1 hx
  have hagrees : d.almanac.Agrees (d.after os₁).almanac files :=
    agrees_after fun o ho => h o (List.mem_append_left _ ho)
  rw [found, hd, hfiles, hagrees.current]

end Daemon

end RankLedger
