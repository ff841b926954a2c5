import RankLedger.Proofs.Tracking.Lifecycle
import RankLedger.Proofs.Tracking.Plan

set_option autoImplicit false

/-! # The tables of the event followed

A tracker writes by the kind of event that it was installed for, while the calendars may tell
another kind in each cycle. Its tables are there all the same: they were made for that kind when it
was installed, and a plan brings rows of chapters only where the tracker's own kind has chapters
(`Tracker.brings_plan`). So an open store that loses no table takes every batch of a run. -/

namespace RankLedger

/-! ## What a plan needs -/

theorem Store.HasTables.lacks_plan {store : Store} {t : Tracker}
    (h : store.HasTables t.eventId t.kind) (s : Snapshot) (scope : Scope) (now : Int)
    (top border : Board) (kind : TableKind) :
    store.database.lacks t.eventId (t.plan s scope now top border).batch kind = false := by
  unfold Database.lacks
  cases hbrings : (t.plan s scope now top border).batch.brings kind with
  | false => rfl
  | true => simp [h kind (Tracker.brings_plan hbrings)]

theorem Store.HasTables.record_plan {store : Store} {t : Tracker}
    (h : store.HasTables t.eventId t.kind) (hopen : store.isOpen = true) (s : Snapshot)
    (scope : Scope) (now : Int) (top border : Board) :
    ∃ w store', store.record t.eventId (t.plan s scope now top border).batch = (.ok w, store')
      ∧ store'.HasTables t.eventId t.kind := by
  rcases Store.record_cases hopen t.eventId (t.plan s scope now top border).batch with
    ⟨w, store', hw, -, -, htakes⟩ | ⟨kind, -, hlacks⟩
  · refine ⟨w, store', hw, h.mono fun k e hk => ?_⟩
    rwa [htakes.hasTable]
  · rw [h.lacks_plan] at hlacks
    cases hlacks

namespace Daemon

/-! ## One cycle -/

section Step

variable {d : Daemon} {o : Occasion} (hopen : o.sink.store.isOpen = true)
  (hready : ∀ t, d.tracker = some t → o.sink.store.HasTables t.eventId t.kind)

include hready in
/-- A tracker that a cycle is poised on has its tables: it stayed with them, or they were made. -/
theorem hasTables_of_poised {s : Snapshot} {t : Tracker} {store : Store}
    (hp : d.Poised o s t store) : store.HasTables t.eventId t.kind := by
  cases hp with
  | kept t ht hle => exact hready t ht
  | installed store hnews hmade => exact Store.hasTables_provision hmade

include hopen hready

/-- A cycle leaves its tracker with its tables, and fails only with what the feed says, or when the
time that is left overflows. -/
theorem hasTables_meet :
    (∀ t, (d.meet o).daemon.tracker = some t →
        (d.meet o).sink.store.HasTables t.eventId t.kind)
      ∧ ∀ f : Failure, (d.meet o).outcome = .failed f →
        ∃ q ∈ (d.meet o).fetches, o.feed q = .error f := by
  have hc := d.course o
  generalize d.meet o = c at hc ⊢
  cases hc with
  | blind outcome h =>
      refine ⟨hready, fun f hf => ?_⟩
      obtain rfl : outcome = .failed f := hf
      unfold blindOutcome? at h
      split at h <;> cases h
  | refused s f store hs hnews hf =>
      -- An open store makes every table that it is asked to make.
      rw [Store.provision_eq, if_pos hopen] at hf
      cases hf
  | waited s t store reason hs hp htask =>
      refine ⟨fun u hu => ?_, fun f hf => nomatch hf⟩
      obtain rfl := Option.some.inj hu
      exact hasTables_of_poised hready hp
  | unanswered s t store task f fetches hs hp htask hf hfetches =>
      refine ⟨fun u hu => ?_, fun f' hf' => ?_⟩
      · obtain rfl := Option.some.inj hu
        exact hasTables_of_poised hready hp
      · obtain rfl : f = f' := by simpa using hf'
        exact hf
  | unwritten s t store task top border f store' hs hp htask htop hborder hf =>
      have hopen' : store.isOpen = true := hp.grows.isOpen.trans hopen
      obtain ⟨w, store'', hw, -⟩ :=
        (hasTables_of_poised hready hp).record_plan hopen' s task.scope o.now top border
      rw [hw] at hf
      cases hf
  | wrote s t store task top border w store' hs hp htask htop hborder hw =>
      have hopen' : store.isOpen = true := hp.grows.isOpen.trans hopen
      obtain ⟨w', store'', hw', hready'⟩ :=
        (hasTables_of_poised hready hp).record_plan hopen' s task.scope o.now top border
      rw [hw] at hw'
      obtain ⟨-, rfl⟩ := Prod.mk.inj hw'
      refine ⟨fun u hu => ?_, fun f hf => absurd hf (task.outcome_ne_failed _ _)⟩
      obtain rfl := Option.some.inj hu
      simpa [Tracker.committed] using hready'

end Step

/-! ## Whole runs -/

/-- The store is open on every occasion of a run, and comes to it with all the tables that the cycle
before has left. -/
structure Lasting (d : Daemon) (os : List Occasion) : Prop where
  isOpen : ∀ o ∈ os, o.sink.store.isOpen = true
  tables : ∀ os₁ o o' os₂, os = os₁ ++ o :: o' :: os₂ → ∀ kind e,
    ((d.after os₁).meet o).sink.store.database.hasTable kind e = true →
      o'.sink.store.database.hasTable kind e = true

theorem Lasting.init {d : Daemon} {os os' : List Occasion} (h : d.Lasting (os ++ os')) :
    d.Lasting os := by
  refine ⟨fun o ho => h.isOpen o (List.mem_append_left _ ho), fun os₁ o o' os₂ hos => ?_⟩
  exact h.tables os₁ o o' (os₂ ++ os') (by rw [hos]; simp)

theorem Lasting.hasTables {d : Daemon} (hd : d.tracker = none) (os : List Occasion) :
    ∀ o, d.Lasting (os ++ [o]) → ∀ t, (d.after os).tracker = some t →
      o.sink.store.HasTables t.eventId t.kind := by
  induction os using List.reverseRecOn with
  | nil =>
      intro o h t ht
      rw [after_nil, hd] at ht
      cases ht
  | append_singleton os o₀ ih =>
      intro o h t ht
      rw [after_append] at ht
      have hopen : o₀.sink.store.isOpen = true := h.isOpen o₀ (by simp)
      have hready := (hasTables_meet hopen (ih o₀ h.init)).1 t ht
      exact hready.mono (h.tables os o₀ o [] (by simp))

/-- Along every run of a daemon that follows nothing at first, over a store that stays open and
loses no table, whatever the calendars tell about kinds and whatever chapters the boards name:

* a tracker at work has its main table and its table of players, and its table of chapters if its
  own kind has chapters;
* a cycle that fails, but for an overflow, fails with what the feed said, so never for want of a
  table. -/
theorem tables_stand_ready {d : Daemon} (hd : d.tracker = none) {os : List Occasion}
    {o : Occasion} (h : d.Lasting (os ++ [o])) :
    (∀ t, ((d.after os).meet o).daemon.tracker = some t →
      ((d.after os).meet o).sink.store.database.hasTable .rankings t.eventId = true
        ∧ ((d.after os).meet o).sink.store.database.hasTable .identities t.eventId = true
        ∧ (t.kind.hasChapters = true →
          ((d.after os).meet o).sink.store.database.hasTable .chapters t.eventId = true))
    ∧ (∀ f : Failure, ((d.after os).meet o).outcome = .failed f →
      ∃ q ∈ ((d.after os).meet o).fetches, o.feed q = .error f)
    ∧ ((∀ q f, o.feed q = .error f → f.kind ≠ .storage) →
      ∀ f : Failure, ((d.after os).meet o).outcome = .failed f → f.kind ≠ .storage) := by
  have hopen : o.sink.store.isOpen = true := h.isOpen o (by simp)
  obtain ⟨htables, hfailed⟩ := hasTables_meet hopen (Lasting.hasTables hd os o h)
  refine ⟨fun t ht => ?_, hfailed, fun hfeed f hf => ?_⟩
  · have hready := htables t ht
    refine ⟨hready .rankings (by simp [Schema.kinds]), hready .identities (by simp [Schema.kinds]),
      fun hkind => hready .chapters (by simp [Schema.kinds, hkind])⟩
  · obtain ⟨q, -, hq⟩ := hfailed f hf
    exact hfeed q f hq

/-- A cycle in the midst of an event without chapters. -/
def plainOccasion : Occasion where
  files := { events := some (Bytes.ofText "[[1,\"marathon\",0,90000,99000,\"e\"]]") }
  feed := fun _ => .ok { standings := [⟨"u", 1, 50, "U", none, none⟩] }
  sink := ⟨{}, .empty 60⟩
  now := 1000

/-- The cycle after it: the calendars now tell that the event has a chapter, and so do the boards. -/
def bloomedOccasion : Occasion where
  files :=
    { events := some (Bytes.ofText "[[1,\"world_bloom\",0,90000,99000,\"e\"]]")
      chapters := some (Bytes.ofText "[[1,5,0,80000,85000]]") }
  feed := fun _ => .ok
    { standings := [⟨"u", 1, 60, "U", none, some 5⟩]
      chapters := [⟨5, [⟨"u", 1, 60, "U", none, some 7⟩]⟩] }
  sink := ((idle .jp).meet plainOccasion).sink
  now := 2000

/-- An event that turns into one with chapters is written as it was taken up, without them. -/
theorem tables_stand_ready_kind_changed :
    (idle .jp).tracker = none ∧ (idle .jp).Lasting [plainOccasion, bloomedOccasion]
      ∧ (((idle .jp).meet plainOccasion).daemon.meet bloomedOccasion).outcome
        = .recorded ⟨2, 1, 0, none⟩
      ∧ (((idle .jp).meet plainOccasion).daemon.meet bloomedOccasion).sink.store.database.hasTable
        .rankings 1 = true
      ∧ ∀ f : Failure, (((idle .jp).meet plainOccasion).daemon.meet bloomedOccasion).outcome
        ≠ .failed f := by
  have hlasting : (idle .jp).Lasting ([plainOccasion] ++ [bloomedOccasion]) := by
    refine ⟨?_, ?_⟩
    · intro o ho
      simp only [List.cons_append, List.nil_append, List.mem_cons, List.not_mem_nil, or_false] at ho
      rcases ho with rfl | rfl <;> decide +kernel
    · intro os₁ o o' os₂ hos kind e h
      match os₁, hos with
      | [], hos =>
          obtain ⟨rfl, rfl, -⟩ : _ ∧ _ ∧ _ := by simpa using hos
          exact h
      | [_], hos => simp at hos
      | _ :: _ :: _, hos => simp at hos
  have hrun : (((idle .jp).meet plainOccasion).daemon.meet bloomedOccasion).daemon.tracker.map
        (·.eventId) = some 1
      ∧ (((idle .jp).meet plainOccasion).daemon.meet bloomedOccasion).outcome
        = .recorded ⟨2, 1, 0, none⟩ := by
    decide +kernel
  obtain ⟨htracker, hout⟩ := hrun
  obtain ⟨t, ht, hid⟩ := Option.map_eq_some_iff.1 htracker
  obtain ⟨htables, hfailed, -⟩ := tables_stand_ready (d := idle .jp) rfl hlasting
  refine ⟨rfl, hlasting, hout, hid ▸ (htables t ht).1, fun f hf => ?_⟩
  obtain ⟨q, -, hq⟩ := hfailed f hf
  cases hq

end Daemon

end RankLedger
