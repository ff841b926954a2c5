import RankLedger.Fleet
import RankLedger.Proofs.Tracking.Station

set_option autoImplicit false

/-! # The cycle of a region, step by step

A tick sends all regions off at once, and their cycles take turns in any order. `Bench.next` is one
step of a cycle, between two places at which other cycles may come in: the look into the calendars,
making the tables, the two looks at the feed, the writing, and the drop of the answers. A step works
with what belongs to its region and nothing else, which is all that a `Bench` holds. Steps alone add
up to the cycle of `Daemon.meet` (`Bench.comesTo_meet`), within six steps
(`Bench.ComesTo.after_eq`); so a cycle depends on the answers kept for its region only, and not on
the rest of the cache (`Bench.ofCycle_congr`). -/

namespace RankLedger

open Json (Value)

/-- A daemon that has seen to a tracker for its region works for the region. -/
theorem Daemon.WorksFor.ensure {d : Daemon} {region : Region} (hd : d.WorksFor region)
    (store : Store) {s : Snapshot} (hs : s.region = region) :
    (d.ensure store s).2.1.WorksFor region := by
  unfold Daemon.ensure
  split
  · exact hd
  · split
    · exact hd
    · exact ⟨hd.almanac, fun t ht => Option.some.inj ht ▸ hs⟩

/-- What the calendars tell a daemon is about its region. -/
theorem Daemon.WorksFor.current {d : Daemon} {region : Region} (hd : d.WorksFor region)
    {files : CalendarFiles} {now : Int} {found : Except Halt (Option Snapshot)} {almanac : Almanac}
    (h : d.almanac.current files now = (found, almanac)) :
    WorksFor { d with almanac := almanac } region
      ∧ ∀ s, found = .ok (some s) → s.region = region := by
  have hregion := d.almanac.region_current files now
  rw [h, hd.almanac] at hregion
  exact ⟨⟨hregion.1, hd.tracker⟩, hregion.2⟩

/-- What the cycle of a region finds around it in a tick. -/
def Fleet.World.occasion (w : Fleet.World) (region : Region) (sink : Sink) : Occasion :=
  ⟨w.files region, w.feed, sink, w.now⟩

/-! ## Steps -/

/-- How far the cycle of a region has come. -/
inductive Errand where
  | called
  /-- The calendars have told of an event. -/
  | informed (s : Snapshot)
  /-- The tables are there, and a tracker has something to do. -/
  | tasked (s : Snapshot) (t : Tracker) (task : Task)
  /-- The best hundred have been seen. -/
  | halfway (s : Snapshot) (t : Tracker) (task : Task) (top : Board)
  /-- Both views have been seen. -/
  | planned (t : Tracker) (task : Task) (p : Tracker.Plan)
  /-- The rows are written, and the answers that they make stale are to be dropped. -/
  | written (t : Tracker) (task : Task) (summary : RecordSummary)
  | finished (outcome : CycleOutcome)

/-- How many steps may be left. -/
def Errand.left : Errand → Nat
  | .called => 6
  | .informed _ => 5
  | .tasked .. => 4
  | .halfway .. => 3
  | .planned .. => 2
  | .written .. => 1
  | .finished _ => 0

/-- All that belongs to one region. -/
structure Bench extends Post where
  /-- The answers kept for the region. -/
  space : AnswerSpace Value
  errand : Errand

namespace Bench

/-- The cycle is over. -/
def finish (b : Bench) (outcome : CycleOutcome) : Bench := { b with errand := .finished outcome }

/-- The next step of the cycle of a region. -/
def next (w : Fleet.World) (region : Region) (b : Bench) : Bench :=
  match b.errand with
  | .called =>
      if w.held.contains region then b.finish .busy
      else
        let (found, almanac) := b.daemon.almanac.current (w.files region) w.now
        let b := { b with daemon := { b.daemon with almanac := almanac } }
        match found with
        | .ok (some s) => { b with errand := .informed s }
        | .ok none => b.finish .noLiveEvent
        | .error (.failure _) => b.finish .masterDataUnavailable
        | .error .overflow => b.finish (.failed .overflow)
  | .informed s =>
      match b.daemon.ensure b.store s with
      | (.error f, d, store) => { b with daemon := d, store := store }.finish (.failed f)
      | (.ok _, d, store) =>
          let b := { b with daemon := d, store := store }
          match d.tracker with
          | none => b.finish (.failed (Failure.mk .internal "no tracker installed"))
          | some t =>
              match t.task s with
              | .error reason => b.finish (.skipped reason)
              | .ok task => { b with errand := .tasked s t task }
  | .tasked s t task =>
      match w.feed t.topFetch with
      | .error f => b.finish (.failed f)
      | .ok top => { b with errand := .halfway s t task top }
  | .halfway s t task top =>
      match w.feed t.borderFetch with
      | .error f => b.finish (.failed f)
      | .ok border => { b with errand := .planned t task (t.plan s task.scope w.now top border) }
  | .planned t task p =>
      match b.store.record t.eventId p.batch with
      | (.error f, store) => { b with store := store }.finish (.failed f)
      | (.ok written, store) =>
          { b with
            daemon := { b.daemon with tracker := some (t.committed p) }
            store := store
            errand := .written (t.committed p) task (p.summary written) }
  | .written t task summary =>
      { b with
        daemon := { b.daemon with tracker := some (task.mark t) }
        space := { generation := b.space.generation + 1 } }.finish (task.outcome summary)
  | .finished _ => b

/-- So many steps. -/
def after (w : Fleet.World) (region : Region) : Nat → Bench → Bench
  | 0, b => b
  | n + 1, b => after w region n (b.next w region)

/-- Steps lead to the end of a cycle. -/
inductive ComesTo (w : Fleet.World) (region : Region) : Bench → Bench → Prop where
  | finished (b : Bench) (outcome : CycleOutcome) : ComesTo w region (b.finish outcome)
      (b.finish outcome)
  | next (b b' : Bench) (h : ComesTo w region (b.next w region) b') : ComesTo w region b b'

section Steps

variable {w : Fleet.World} {region : Region}

theorem exists_finished_of_left_eq_zero {e : Errand} (h : e.left = 0) :
    ∃ outcome, e = .finished outcome := by
  cases e with
  | finished outcome => exact ⟨outcome, rfl⟩
  | _ => cases h

/-- With each step fewer are left. -/
theorem left_next (b : Bench) : (b.next w region).errand.left ≤ b.errand.left - 1 := by
  unfold next
  repeat' split
  all_goals simp_all [finish, Errand.left]

theorem next_of_finished {b : Bench} {outcome : CycleOutcome}
    (h : b.errand = .finished outcome) : b.next w region = b := by
  simp only [next, h]

theorem after_add (n m : Nat) (b : Bench) :
    after w region (n + m) b = after w region m (after w region n b) := by
  induction n generalizing b with
  | zero => rw [Nat.zero_add, after]
  | succ n ih => rw [Nat.succ_add, after, after, ih]

theorem after_of_finished {b : Bench} {outcome : CycleOutcome}
    (h : b.errand = .finished outcome) (n : Nat) : after w region n b = b := by
  induction n with
  | zero => rfl
  | succ n ih => rw [after, next_of_finished h, ih]

/-- A cycle that comes to an end is there after the steps that may be left, and stays there. -/
theorem ComesTo.after_eq {b b' : Bench} (h : ComesTo w region b b') :
    (∃ outcome, b'.errand = .finished outcome)
      ∧ ∀ n, b.errand.left ≤ n → after w region n b = b' := by
  induction h with
  | finished b outcome => exact ⟨⟨outcome, rfl⟩, fun n _ => after_of_finished rfl n⟩
  | next b b' h ih =>
      refine ⟨ih.1, fun n hn => ?_⟩
      have hleft : (b.next w region).errand.left ≤ b.errand.left - 1 := b.left_next
      cases n with
      | zero =>
          -- Nothing was left, so the step has done nothing.
          obtain ⟨outcome, hb⟩ := exists_finished_of_left_eq_zero (Nat.le_zero.1 hn)
          have hnext := ih.2 0 (by omega)
          rw [next_of_finished hb] at hnext
          exact hnext
      | succ n => exact ih.2 n (by omega)

/-- Where a cycle is over, it has come to its end. -/
theorem ComesTo.eq_of_finished {b b' : Bench} (h : ComesTo w region b b') {n : Nat}
    {outcome : CycleOutcome} (hn : (after w region n b).errand = .finished outcome) :
    after w region n b = b' := by
  rw [← h.after_eq.2 (n + b.errand.left) (by omega), after_add, after_of_finished hn]

end Steps

/-! ## What the steps add up to -/

/-- What a cycle leaves of a region. -/
def ofCycle (region : Region) (p : Post) (c : Daemon.Cycle) : Bench where
  toPost := { p with daemon := c.daemon, store := c.sink.store }
  space := c.sink.cache.space region.name
  errand := .finished c.outcome

section Alone

variable {w : Fleet.World} {region : Region} {p : Post} {cache : ResponseCache Value}

theorem comesTo_settle {t : Tracker} (ht : p.daemon.tracker = some t) (hregion : t.region = region)
    (s : Snapshot) (task : Task) :
    ComesTo w region ⟨p, cache.space region.name, .tasked s t task⟩
      (ofCycle region p (p.daemon.settle t w.feed ⟨p.store, cache⟩ s task.scope w.now task.mark
        task.outcome)) := by
  have hd : { p.daemon with tracker := some t } = p.daemon := by rw [← ht]
  have hc := t.recordCourse w.feed ⟨p.store, cache⟩ s task.scope w.now
  unfold Daemon.settle
  generalize t.record w.feed ⟨p.store, cache⟩ s task.scope w.now = r at hc ⊢
  refine .next _ _ ?_
  cases hc with
  | noTop f hf =>
      simp only [next, hf, hd]
      exact .finished _ _
  | noBorder top f htop hf =>
      simp only [next, htop]
      refine .next _ _ ?_
      simp only [next, hf, hd]
      exact .finished _ _
  | unwritten top border f store' htop hborder hf =>
      simp only [next, htop]
      refine .next _ _ ?_
      simp only [next, hborder]
      refine .next _ _ ?_
      simp only [next, hf, hd]
      exact .finished _ _
  | written top border w' store' htop hborder hw =>
      simp only [next, htop]
      refine .next _ _ ?_
      simp only [next, hborder]
      refine .next _ _ ?_
      simp only [next, hw]
      refine .next _ _ ?_
      simp only [next, ofCycle, ResponseCache.space_invalidate, hregion, if_true]
      exact .finished _ _

theorem comesTo_attend (hd : p.daemon.WorksFor region) {s : Snapshot} (hs : s.region = region) :
    ComesTo w region ⟨p, cache.space region.name, .informed s⟩
      (ofCycle region p (p.daemon.attend w.feed ⟨p.store, cache⟩ s w.now)) := by
  refine .next _ _ ?_
  have hworks := hd.ensure p.store hs
  unfold Daemon.attend
  rcases hensure : p.daemon.ensure p.store s with ⟨f | retired, d, store⟩
  · simp only [next, hensure]
    exact .finished _ _
  · rw [hensure] at hworks
    simp only [next, hensure]
    cases ht : d.tracker with
    | none => exact .finished _ _
    | some t =>
        simp only [Daemon.advance_eq]
        cases htask : t.task s with
        | error reason => exact .finished _ _
        | ok task => exact comesTo_settle ht (hworks.tracker t ht) s task

/-- Steps alone add up to the cycle of a daemon. -/
theorem comesTo_meet (hd : p.daemon.WorksFor region) (hheld : region ∉ w.held)
    (cache : ResponseCache Value) :
    ComesTo w region ⟨p, cache.space region.name, .called⟩
      (ofCycle region p (p.daemon.meet (w.occasion region ⟨p.store, cache⟩))) := by
  have hfree : w.held.contains region = false := by simpa using hheld
  refine .next _ _ ?_
  simp only [next, hfree]
  unfold Daemon.meet Daemon.runCycle Fleet.World.occasion
  rcases hcurrent : p.daemon.almanac.current (w.files region) w.now with ⟨found, almanac⟩
  obtain ⟨hworks, hregion⟩ := hd.current hcurrent
  cases found with
  | error why => cases why <;> exact .finished _ _
  | ok found =>
      cases found with
      | none => exact .finished _ _
      | some s =>
          exact comesTo_attend (p := { p with daemon := { p.daemon with almanac := almanac } })
            hworks (hregion s rfl)

/-- Where the last cycle still runs, nothing is done. -/
theorem comesTo_busy (hheld : region ∈ w.held) (p : Post) (cache : ResponseCache Value) :
    ComesTo w region ⟨p, cache.space region.name, .called⟩
      ⟨p, cache.space region.name, .finished .busy⟩ := by
  have hbusy : w.held.contains region = true := by simpa using hheld
  refine .next _ _ ?_
  simp only [next, hbusy]
  exact .finished _ _

/-- Every cycle comes to an end. -/
theorem exists_comesTo (hd : p.daemon.WorksFor region) (w : Fleet.World)
    (cache : ResponseCache Value) :
    ∃ b, ComesTo w region ⟨p, cache.space region.name, .called⟩ b := by
  by_cases hheld : region ∈ w.held
  · exact ⟨_, comesTo_busy hheld p cache⟩
  · exact ⟨_, comesTo_meet hd hheld cache⟩

/-- Of the answers kept, a cycle depends on those of its region alone. -/
theorem ofCycle_congr (hd : p.daemon.WorksFor region) (hheld : region ∉ w.held)
    {cache' : ResponseCache Value} (h : cache.space region.name = cache'.space region.name) :
    ofCycle region p (p.daemon.meet (w.occasion region ⟨p.store, cache⟩))
      = ofCycle region p (p.daemon.meet (w.occasion region ⟨p.store, cache'⟩)) := by
  have hend := (comesTo_meet hd hheld cache).after_eq.2 6 (Nat.le_refl 6)
  have hend' := (comesTo_meet hd hheld cache').after_eq.2 6 (Nat.le_refl 6)
  rw [← hend, ← hend', h]

end Alone

end Bench

/-! ## What a step touches -/

/-- The answers kept, once the next step of a cycle is done. -/
def Errand.settled (cache : ResponseCache Value) : Errand → ResponseCache Value
  | .written t _ _ => (cache.invalidate t.region.name).2
  | _ => cache

/-- The errand is about a region. -/
def Errand.IsFor (region : Region) : Errand → Prop
  | .called | .finished _ => True
  | .informed s => s.region = region
  | .tasked _ t _ | .halfway _ t _ _ | .planned t _ _ | .written t _ _ => t.region = region

/-- All that works at a bench works for its region. -/
structure Bench.IsPlaced (b : Bench) (region : Region) : Prop where
  daemon : b.daemon.WorksFor region
  errand : b.errand.IsFor region

section Step

variable {w : Fleet.World} {region : Region} {b : Bench}

theorem Bench.IsPlaced.next (h : b.IsPlaced region) : (b.next w region).IsPlaced region := by
  obtain ⟨hdaemon, herrand⟩ := h
  unfold Bench.next
  cases he : b.errand with
  | called =>
      simp only
      split
      · exact ⟨hdaemon, trivial⟩
      · rcases hcurrent : b.daemon.almanac.current (w.files region) w.now with ⟨found, almanac⟩
        obtain ⟨hworks, hregion⟩ := hdaemon.current hcurrent
        cases found with
        | error why => cases why <;> exact ⟨hworks, trivial⟩
        | ok found =>
            cases found with
            | none => exact ⟨hworks, trivial⟩
            | some s => exact ⟨hworks, hregion s rfl⟩
  | informed s =>
      rw [he] at herrand
      have hworks := hdaemon.ensure b.store herrand
      simp only
      rcases hensure : b.daemon.ensure b.store s with ⟨f | retired, d, store⟩
      · rw [hensure] at hworks
        exact ⟨hworks, trivial⟩
      · rw [hensure] at hworks
        simp only
        cases ht : d.tracker with
        | none => exact ⟨hworks, trivial⟩
        | some t =>
            simp only
            cases htask : t.task s with
            | error reason => exact ⟨hworks, trivial⟩
            | ok task => exact ⟨hworks, hworks.tracker t ht⟩
  | tasked s t task =>
      rw [he] at herrand
      simp only
      split
      · exact ⟨hdaemon, trivial⟩
      · exact ⟨hdaemon, herrand⟩
  | halfway s t task top =>
      rw [he] at herrand
      simp only
      split
      · exact ⟨hdaemon, trivial⟩
      · exact ⟨hdaemon, herrand⟩
  | planned t task p =>
      rw [he] at herrand
      simp only
      split
      · exact ⟨hdaemon, trivial⟩
      · exact ⟨⟨hdaemon.almanac, fun _ hu => Option.some.inj hu ▸ herrand⟩, herrand⟩
  | written t task summary =>
      rw [he] at herrand
      refine ⟨⟨hdaemon.almanac, fun _ hu => ?_⟩, trivial⟩
      rw [← Option.some.inj hu, Task.mark_region]
      exact herrand
  | finished outcome => exact ⟨hdaemon, by rw [he]; trivial⟩

/-- What a bench holds of the answers is what the cache keeps for its region. -/
theorem Errand.IsFor.space_settled (hb : b.errand.IsFor region) {cache : ResponseCache Value}
    (hspace : cache.space region.name = b.space) :
    (b.errand.settled cache).space region.name = (b.next w region).space := by
  unfold Bench.next
  cases he : b.errand with
  | written t task summary =>
      rw [he] at hb
      have hregion : t.region = region := hb
      simp only [settled, hregion, ResponseCache.space_invalidate, if_true, ← hspace]
      rfl
  | _ =>
      simp only [settled, hspace]
      repeat' split
      all_goals rfl

/-- The answers kept for other regions stay. -/
theorem Errand.IsFor.space_settled_of_ne {e : Errand} (he : e.IsFor region) {region' : Region}
    (hne : region ≠ region') (cache : ResponseCache Value) :
    (e.settled cache).space region'.name = cache.space region'.name := by
  cases e with
  | written t task summary =>
      have hname : t.region.name ≠ region'.name := by
        intro hname
        exact hne (he.symm.trans (Region.name_inj hname))
      rw [settled, ResponseCache.space_invalidate, if_neg hname]
  | _ => rfl

end Step

end RankLedger
