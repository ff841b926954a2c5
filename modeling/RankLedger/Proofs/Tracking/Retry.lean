import RankLedger.Proofs.Calendar.Fixed
import RankLedger.Proofs.Tracking.Course

set_option autoImplicit false

/-! # Cycles that fail

A cycle that fails has changed nothing but what making sure of a tracker changes, and a cycle that
fails because of the feed can be run again as if it had never been run. For the second run has to
find in the calendars what the first one found there: a second look at the same files is answered
from what is held (`DigestCache.load_load`), and leaves that as it is. -/

namespace RankLedger

namespace Daemon

/-! ## A second look at the calendars -/

section Look

variable (d : Daemon) (o : Occasion)

theorem found_informed : (d.informed o).found o = d.found o :=
  congrArg Prod.fst (d.almanac.current_current o.files o.now)

theorem informed_informed : (d.informed o).informed o = d.informed o := by
  simp only [informed, Almanac.current_current]

end Look

/-! ## Cycles that fail -/

/-- What a cycle is poised on does not depend on the feed. -/
theorem Poised.withFeed {d : Daemon} {o : Occasion} {s : Snapshot} {t : Tracker} {store : Store}
    (hp : d.Poised o s t store) (feed : Feed) : d.Poised { o with feed := feed } s t store := by
  cases hp with
  | kept t ht hle => exact .kept t ht hle
  | installed store hnews hmade => exact .installed store hnews hmade

/-- Making sure of a tracker changes nothing where it fails. -/
theorem ensure_of_error {d d' : Daemon} {store store' : Store} {s : Snapshot} {f : Failure}
    (h : d.ensure store s = (.error f, d', store')) :
    d' = d ∧ store'.database = store.database := by
  rcases kept_or_isNews d s.eventId with ⟨t, ht, hle⟩ | hnews
  · rw [ensure_kept ht hle] at h
    cases h
  · rw [ensure_of_isNews hnews] at h
    rcases hmade : store.provision s.eventId s.kind with ⟨f' | _, made⟩
    · rw [hmade] at h
      obtain ⟨-, rfl, rfl⟩ : _ ∧ _ ∧ _ := by simpa only [Prod.mk.injEq] using h
      exact ⟨rfl, Store.database_provision_of_error hmade⟩
    · rw [hmade] at h
      cases h

/-- A cycle that fails keeps the daemon, the tables and the answers of the moment at which it had
made sure of a tracker; without a snapshot, those that it found. -/
theorem meet_of_failed {d : Daemon} {o : Occasion} {why : Halt}
    (h : (d.meet o).outcome = .failed why) :
    (d.meet o).sink.cache = o.sink.cache
      ∧ (d.found o = .error .overflow ∧ (d.meet o).daemon = d.informed o
          ∧ (d.meet o).sink.store = o.sink.store
        ∨ ∃ s made store, d.found o = .ok (some s)
          ∧ (d.informed o).ensure o.sink.store s = (made, (d.meet o).daemon, store)
          ∧ (d.meet o).sink.store.database = store.database
          ∧ (d.meet o).sink.store.isOpen = store.isOpen) := by
  have hc := d.course o
  generalize d.meet o = c at hc h ⊢
  cases hc with
  | blind outcome hblind =>
      obtain rfl : outcome = _ := h
      refine ⟨rfl, Or.inl ⟨?_, rfl, rfl⟩⟩
      generalize d.found o = found at hblind ⊢
      unfold blindOutcome? at hblind
      split at hblind
      · cases hblind
      · cases hblind
      · cases hblind
      · rfl
  | refused s f store hs hnews hf =>
      have hnews' : (d.informed o).IsNews s.eventId := hnews
      have hensure : (d.informed o).ensure o.sink.store s = (.error f, d.informed o, store) := by
        rw [ensure_of_isNews hnews', hf]
      exact ⟨rfl, Or.inr ⟨s, .error f, store, hs, hensure, rfl, rfl⟩⟩
  | waited s t store reason hs hp htask => cases h
  | unanswered s t store task f fetches hs hp htask hf hfetches =>
      obtain ⟨retired, hensure⟩ := poised_iff_ensure.1 hp
      exact ⟨rfl, Or.inr ⟨s, .ok retired, store, hs, hensure, rfl, rfl⟩⟩
  | unwritten s t store task top border f store' hs hp htask htop hborder hf =>
      obtain ⟨retired, hensure⟩ := poised_iff_ensure.1 hp
      refine ⟨rfl, Or.inr ⟨s, .ok retired, store, hs, hensure,
        Store.database_record_of_error hf, ?_⟩⟩
      have hopen := store.isOpen_record t.eventId (t.plan s task.scope o.now top border).batch
      rwa [hf] at hopen
  | wrote s t store task top border w store' hs hp htask htop hborder hw =>
      exact absurd h (task.outcome_ne_failed _ _)

/-- A cycle that lacked an answer of the feed can be run again as if it had never been run. -/
theorem meet_meet_of_unanswered {d : Daemon} {o : Occasion}
    (h : ∃ q ∈ (d.meet o).fetches, ∃ f, o.feed q = .error f) (feed : Feed) :
    (d.meet o).daemon.meet { o with feed := feed, sink := (d.meet o).sink }
      = d.meet { o with feed := feed } := by
  obtain ⟨q, hq, failure, hfailure⟩ := h
  have hanswered : ∀ (t : Tracker) (top border : Board), o.feed t.topFetch = .ok top →
      o.feed t.borderFetch = .ok border → q ∉ [t.topFetch, t.borderFetch] := by
    intro t top border htop hborder hq
    simp only [List.mem_cons, List.not_mem_nil, or_false] at hq
    rcases hq with rfl | rfl
    · rw [htop] at hfailure
      cases hfailure
    · rw [hborder] at hfailure
      cases hfailure
  have hc := d.course o
  generalize d.meet o = c at hc hq ⊢
  cases hc with
  | blind outcome hblind => cases hq
  | refused s f store hs hnews hf => cases hq
  | waited s t store reason hs hp htask => cases hq
  | unanswered s t store task f fetches hs hp htask hf hfetches =>
      -- The second cycle finds the same snapshot, and the tracker and the tables in their places.
      let daemon : Daemon := { d.informed o with tracker := some t }
      let second : Occasion := { o with feed := feed, sink := { o.sink with store := store } }
      have hfound : daemon.found second = .ok (some s) := (found_informed d o).trans hs
      have hagain : daemon.Poised second s t store := .kept t rfl hp.le
      have hinformed : daemon.informed second = daemon := by
        have halmanac := congrArg almanac (informed_informed d o)
        show { daemon with almanac := ((d.informed o).informed o).almanac } = daemon
        rw [halmanac]
      calc daemon.meet second
          = advance { daemon.informed second with tracker := some t } t feed
              { o.sink with store := store } s o.now := meet_of_poised hfound hagain
        _ = advance daemon t feed { o.sink with store := store } s o.now := by rw [hinformed]
        _ = d.meet { o with feed := feed } :=
            (meet_of_poised (o := { o with feed := feed }) hs (hp.withFeed feed)).symm
  | unwritten s t store task top border f store' hs hp htask htop hborder hf =>
      exact absurd hq (hanswered t top border htop hborder)
  | wrote s t store task top border w store' hs hp htask htop hborder hw =>
      exact absurd hq (hanswered t top border htop hborder)

/-- A cycle that fails leaves no trace, wherever it fails:

* the answers kept and their generations are those of before, and the daemon with its marks and
  committed borders, the tables and their rows are as making sure of a tracker left them; where this
  failed itself, the earlier tracker is in its place and no table has changed;
* when the feed was to blame, the cycle can be run again on the same calendars at the same instant,
  and everything is as if only the second cycle had been run. -/
theorem failed_cycle_leaves_no_trace (d : Daemon) (o : Occasion) {why : Halt}
    (h : (d.meet o).outcome = .failed why) :
    ((d.meet o).sink.cache = o.sink.cache
      ∧ (d.found o = .error .overflow ∧ (d.meet o).daemon = d.informed o
          ∧ (d.meet o).sink.store = o.sink.store
        ∨ ∃ s made store, d.found o = .ok (some s)
          ∧ (d.informed o).ensure o.sink.store s = (made, (d.meet o).daemon, store)
          ∧ (d.meet o).sink.store.database = store.database
          ∧ (d.meet o).sink.store.isOpen = store.isOpen
          ∧ ∀ f, made = .error f → (d.meet o).daemon.tracker = d.tracker
            ∧ store.database = o.sink.store.database))
    ∧ ((∃ q ∈ (d.meet o).fetches, ∃ f, o.feed q = .error f) → ∀ feed,
      (d.meet o).daemon.meet { o with feed := feed, sink := (d.meet o).sink }
        = d.meet { o with feed := feed }) := by
  refine ⟨?_, meet_meet_of_unanswered⟩
  obtain ⟨hcache, hblind | ⟨s, made, store, hs, hensure, hdb, hopen⟩⟩ := meet_of_failed h
  · exact ⟨hcache, Or.inl hblind⟩
  · refine ⟨hcache, Or.inr ⟨s, made, store, hs, hensure, hdb, hopen, fun f hmade => ?_⟩⟩
    obtain ⟨hd, hsame⟩ := ensure_of_error (hmade ▸ hensure)
    exact ⟨by rw [hd]; rfl, hsame⟩

/-- An occasion on which the feed says nothing. -/
def silentOccasion : Occasion where
  files := { events := some (Bytes.ofText "[[1,\"marathon\",0,1000,2000,\"e\"]]") }
  feed := fun _ => .error ⟨.feed, "no answer"⟩
  sink := ⟨{}, .empty 60⟩
  now := 500

/-- An idle daemon that comes upon an event while the feed is silent has made its tables and follows
it; asked again, it does what it would have done at first. -/
theorem failed_cycle_leaves_no_trace_idle :
    ((idle .jp).meet silentOccasion).outcome = .failed (Failure.mk .feed "no answer")
      ∧ ((idle .jp).meet silentOccasion).sink.cache.spaces = []
      ∧ ∀ feed, ((idle .jp).meet silentOccasion).daemon.meet
          { silentOccasion with feed := feed, sink := ((idle .jp).meet silentOccasion).sink }
        = (idle .jp).meet { silentOccasion with feed := feed } := by
  have hfailed : ((idle .jp).meet silentOccasion).outcome
      = .failed (Failure.mk .feed "no answer") := by decide +kernel
  have hasked : (⟨.jp, 1, .top⟩ : Fetch) ∈ ((idle .jp).meet silentOccasion).fetches := by
    decide +kernel
  obtain ⟨⟨hcache, -⟩, hagain⟩ := failed_cycle_leaves_no_trace (idle .jp) silentOccasion hfailed
  exact ⟨hfailed, by rw [hcache]; rfl, hagain ⟨_, hasked, _, rfl⟩⟩

end Daemon

end RankLedger
