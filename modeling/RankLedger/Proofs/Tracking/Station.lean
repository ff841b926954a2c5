import RankLedger.Proofs.Tracking.Course

set_option autoImplicit false

/-! # The region of a daemon

A daemon and its tracker work for one region, and go on so. All that a cycle does to the answers
kept is to drop those of this region, and it does so whenever it has written rows
(`Daemon.WorksFor.sink_meet`). -/

namespace RankLedger

theorem Almanac.region_current (a : Almanac) (files : CalendarFiles) (now : Int) :
    (a.current files now).2.region = a.region
      ∧ ∀ s, (a.current files now).1 = .ok (some s) → s.region = a.region := by
  simp only [current]
  split
  · exact ⟨rfl, fun s h => nomatch h⟩
  · exact ⟨rfl, fun s h => nomatch h⟩
  · split
    · exact ⟨rfl, fun s h => nomatch h⟩
    · split
      · refine ⟨rfl, fun s h => ?_⟩
        simp only [chaptersAt] at h ⊢
        cases hload : (a.chapters.load files.chapters).1 with
        | error f =>
            rw [hload] at h
            cases h
        | ok entries =>
            rw [hload] at h
            obtain rfl := Option.some.inj (Except.ok.inj h)
            rfl
      · refine ⟨rfl, fun s h => ?_⟩
        obtain rfl := Option.some.inj (Except.ok.inj h)
        rfl

namespace Daemon

/-- The daemon and the tracker that it may have work for a region. -/
structure WorksFor (d : Daemon) (region : Region) : Prop where
  almanac : d.almanac.region = region
  tracker : ∀ t, d.tracker = some t → t.region = region

theorem worksFor_idle (region : Region) : (idle region).WorksFor region :=
  ⟨rfl, fun _ h => nomatch h⟩

section

variable {d : Daemon} {o : Occasion} {region : Region} (hd : d.WorksFor region)
include hd

theorem WorksFor.informed : (d.informed o).WorksFor region :=
  ⟨(d.almanac.region_current o.files o.now).1.trans hd.almanac, hd.tracker⟩

/-- A tracker that a cycle is poised on works for the region of the daemon. -/
theorem WorksFor.of_poised {s : Snapshot} {t : Tracker} {store : Store}
    (hs : d.found o = .ok (some s)) (hp : d.Poised o s t store) : t.region = region := by
  cases hp with
  | kept t ht hle => exact hd.tracker t ht
  | installed store hnews hmade =>
      exact ((d.almanac.region_current o.files o.now).2 s hs).trans hd.almanac

theorem WorksFor.withTracker {t : Tracker} (ht : t.region = region) :
    WorksFor { d.informed o with tracker := some t } region :=
  ⟨(hd.informed).almanac, fun _ hu => Option.some.inj hu ▸ ht⟩

/-- A daemon goes on working for its region. -/
theorem WorksFor.meet : (d.meet o).daemon.WorksFor region := by
  have hc := d.course o
  generalize d.meet o = c at hc ⊢
  cases hc with
  | blind outcome h => exact hd.informed
  | refused s f store hs hnews hf => exact hd.informed
  | waited s t store reason hs hp htask => exact hd.withTracker (hd.of_poised hs hp)
  | unanswered s t store task f fetches hs hp htask hf hfetches =>
      exact hd.withTracker (hd.of_poised hs hp)
  | unwritten s t store task top border f store' hs hp htask htop hborder hf =>
      exact hd.withTracker (hd.of_poised hs hp)
  | wrote s t store task top border w store' hs hp htask htop hborder hw =>
      exact hd.withTracker (by simpa [Tracker.committed] using hd.of_poised hs hp)

/-- A cycle drops the answers of its region, or it does no more to its store than to make tables
without content. -/
theorem WorksFor.sink_meet :
    ((d.meet o).sink.cache = o.sink.cache ∧ o.sink.store.Grows (d.meet o).sink.store)
      ∨ (d.meet o).sink.cache = (o.sink.cache.invalidate region.name).2 := by
  have hc := d.course o
  generalize d.meet o = c at hc ⊢
  cases hc with
  | blind outcome h => exact Or.inl ⟨rfl, .refl _⟩
  | refused s f store hs hnews hf =>
      have hgrows := o.sink.store.grows_provision s.eventId s.kind
      rw [hf] at hgrows
      exact Or.inl ⟨rfl, hgrows⟩
  | waited s t store reason hs hp htask => exact Or.inl ⟨rfl, hp.grows⟩
  | unanswered s t store task f fetches hs hp htask hf hfetches => exact Or.inl ⟨rfl, hp.grows⟩
  | unwritten s t store task top border f store' hs hp htask htop hborder hf =>
      have hopen := store.isOpen_record t.eventId (t.plan s task.scope o.now top border).batch
      rw [hf] at hopen
      have hgrows := Store.Grows.of_database_eq hopen (Store.database_record_of_error hf)
      exact Or.inl ⟨rfl, hp.grows.trans hgrows⟩
  | wrote s t store task top border w store' hs hp htask htop hborder hw =>
      exact Or.inr (by rw [hd.of_poised hs hp])

end

end Daemon

end RankLedger
