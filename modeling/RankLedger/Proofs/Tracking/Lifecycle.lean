import Mathlib.Data.List.Induction
import RankLedger.Proofs.Store.Writing
import RankLedger.Proofs.Tracking.Course

set_option autoImplicit false

/-! # The life of an event

What holds along every run of cycles of one daemon, whatever the calendars, the clock and the feed
say and whatever happens to the store between two cycles. The invariant is `Daemon.IsPast`: once the
last rows of an event are written, or a later event is followed, this stays so, and a cycle neither
asks the feed about an event that is past nor touches its tables. -/

namespace RankLedger

/-- A tracker at a later time: still for its event, and with no mark taken back. -/
structure Tracker.Continues (t u : Tracker) : Prop where
  eventId : u.eventId = t.eventId
  isStopped : u.isStopped = t.isStopped
  isEnded : t.isEnded = true → u.isEnded = true

namespace Daemon

/-! ## Runs -/

/-- The daemon after its cycles on one occasion after another. Each occasion brings its own store:
between two cycles anything may happen to it, as its closing or the loss of tables. -/
def after (d : Daemon) (os : List Occasion) : Daemon := os.foldl (fun d o => (d.meet o).daemon) d

@[simp] theorem after_nil (d : Daemon) : d.after [] = d := rfl

@[simp] theorem after_cons (d : Daemon) (o : Occasion) (os : List Occasion) :
    d.after (o :: os) = (d.meet o).daemon.after os := rfl

@[simp] theorem after_append (d : Daemon) (os os' : List Occasion) :
    d.after (os ++ os') = (d.after os).after os' := List.foldl_append

/-- The event followed. -/
def followed (d : Daemon) : Option Int := d.tracker.map (·.eventId)

/-- The cycle puts a tracker in the place of `t`, and hands `t` back stopped. -/
def Relieves (d : Daemon) (o : Occasion) (t : Tracker) : Prop :=
  ∃ s retired, d.found o = .ok (some s)
    ∧ ((d.informed o).ensure o.sink.store s).1 = .ok (some retired)
    ∧ retired = { t with isStopped := true }

/-- The cycle writes the last rows of an event. -/
def Closes (d : Daemon) (o : Occasion) (eventId : Int) : Prop :=
  (∃ summary, (d.meet o).outcome = .eventFinalized summary)
    ∧ (d.meet o).daemon.followed = some eventId

/-- The cycle finds the event that it follows in its last phase, gets both views of it, and the
store takes the rows. -/
def MeetsEnd (d : Daemon) (o : Occasion) (eventId : Int) : Prop :=
  ∃ s retired t store top border w store',
    d.found o = .ok (some s)
      ∧ (d.informed o).ensure o.sink.store s
        = (.ok retired, { d.informed o with tracker := some t }, store)
      ∧ s.eventId = eventId ∧ t.eventId = eventId ∧ s.phase = .ended
      ∧ o.feed t.topFetch = .ok top ∧ o.feed t.borderFetch = .ok border
      ∧ store.record eventId (t.plan s .full o.now top border).batch = (.ok w, store')

/-- The last rows of an event are written, or a later event is followed. -/
def IsPast (d : Daemon) (eventId : Int) : Prop :=
  ∃ t, d.tracker = some t ∧ (eventId < t.eventId ∨ eventId = t.eventId ∧ t.isEnded = true)

/-! ## One cycle -/

section Step

variable (d : Daemon) (o : Occasion)

/-- A cycle leaves the tracker as it was, or goes on with the one that it is poised on. -/
theorem tracker_meet :
    (d.meet o).daemon.tracker = d.tracker ∨
      ∃ s t store u, d.found o = .ok (some s) ∧ d.Poised o s t store
        ∧ (d.meet o).daemon.tracker = some u ∧ t.Continues u := by
  have hc := d.course o
  generalize d.meet o = c at hc ⊢
  cases hc with
  | blind outcome h => exact Or.inl rfl
  | refused s f store hs hnews hf => exact Or.inl rfl
  | waited s t store reason hs hp htask =>
      exact Or.inr ⟨s, t, store, t, hs, hp, rfl, rfl, rfl, id⟩
  | unanswered s t store task f fetches hs hp htask hf hfetches =>
      exact Or.inr ⟨s, t, store, t, hs, hp, rfl, rfl, rfl, id⟩
  | unwritten s t store task top border f store' hs hp htask htop hborder hf =>
      exact Or.inr ⟨s, t, store, t, hs, hp, rfl, rfl, rfl, id⟩
  | wrote s t store task top border w store' hs hp htask htop hborder hw =>
      refine Or.inr ⟨s, t, store, _, hs, hp, rfl, by simp [Tracker.committed],
        by simp [Tracker.committed], fun hended => ?_⟩
      simp [Tracker.committed, hended]

/-- A tracker goes on, or is relieved by that of a later event. -/
theorem continues_or_relieved {t : Tracker} (ht : d.tracker = some t) :
    ∃ u, (d.meet o).daemon.tracker = some u ∧
      (t.Continues u ∨ t.eventId < u.eventId ∧ d.Relieves o t) := by
  rcases tracker_meet d o with hsame | ⟨s, v, store, u, hs, hp, hu, hvu⟩
  · exact ⟨t, hsame.trans ht, Or.inl ⟨rfl, rfl, id⟩⟩
  · refine ⟨u, hu, ?_⟩
    cases hp with
    | kept v hv hle =>
        rw [ht] at hv
        exact Or.inl (Option.some.inj hv ▸ hvu)
    | installed store hnews hmade =>
        refine Or.inr ⟨hvu.eventId ▸ hnews t ht, s, _, hs, ?_, rfl⟩
        have hnews' : (d.informed o).IsNews s.eventId := hnews
        have ht' : (d.informed o).tracker = some t := ht
        rw [ensure_of_isNews hnews', hmade, ht']
        rfl

/-- No cycle leaves a daemon with a stopped tracker. -/
theorem isStopped_meet (h : ∀ t, d.tracker = some t → t.isStopped = false) :
    ∀ u, (d.meet o).daemon.tracker = some u → u.isStopped = false := by
  intro u hu
  rcases tracker_meet d o with hsame | ⟨s, v, store, u', hs, hp, hu', hvu⟩
  · exact h u (hsame ▸ hu)
  · rw [hu] at hu'
    obtain rfl := Option.some.inj hu'
    rw [hvu.isStopped]
    -- Only a tracker that gives way is stopped, and the one that takes over is new.
    cases hp with
    | kept v hv hle => exact h v hv
    | installed store hnews hmade => rfl

/-- What is past stays past. -/
theorem isPast_meet {eventId : Int} (h : d.IsPast eventId) :
    (d.meet o).daemon.IsPast eventId := by
  obtain ⟨t, ht, hpast⟩ := h
  obtain ⟨u, hu, hcont | ⟨hlt, -⟩⟩ := continues_or_relieved d o ht
  · refine ⟨u, hu, ?_⟩
    rw [hcont.eventId]
    exact hpast.imp_right (And.imp_right hcont.isEnded)
  · refine ⟨u, hu, Or.inl ?_⟩
    omega

/-- A tracker that a cycle is poised on is for no event that is past, unless it is marked so. -/
theorem isEnded_of_isPast {eventId : Int} {s : Snapshot} {t : Tracker} {store : Store}
    (h : d.IsPast eventId) (hp : d.Poised o s t store) :
    eventId < t.eventId ∨ eventId = t.eventId ∧ t.isEnded = true := by
  obtain ⟨u, hu, hpast⟩ := h
  cases hp with
  | kept t ht hle =>
      rw [hu] at ht
      exact Option.some.inj ht ▸ hpast
  | installed store hnews hmade =>
      have hlt : u.eventId < s.eventId := hnews u hu
      have hid : (Tracker.ofSnapshot s).eventId = s.eventId := rfl
      omega

/-- A tracker with something to do is for an event that is not past. -/
theorem lt_of_isPast {eventId : Int} {s : Snapshot} {t : Tracker} {store : Store} {task : Task}
    (h : d.IsPast eventId) (hp : d.Poised o s t store) (htask : t.task s = .ok task) :
    eventId < t.eventId := by
  obtain ⟨-, hended⟩ := Tracker.eventId_eq_of_task htask
  rcases isEnded_of_isPast d o h hp with hlt | ⟨-, hended'⟩
  · exact hlt
  · rw [hended] at hended'
    cases hended'

/-- Nothing is asked about an event that is past. -/
theorem fetches_of_isPast {eventId : Int} (h : d.IsPast eventId) :
    ∀ q ∈ (d.meet o).fetches, q.eventId ≠ eventId := by
  have hviews : ∀ t : Tracker, eventId < t.eventId →
      ∀ q ∈ [t.topFetch, t.borderFetch], q.eventId ≠ eventId := by
    intro t hlt q hq
    have hid : q.eventId = t.eventId := by
      simp only [List.mem_cons, List.not_mem_nil, or_false] at hq
      rcases hq with rfl | rfl <;> rfl
    omega
  have hc := d.course o
  generalize d.meet o = c at hc ⊢
  cases hc with
  | blind outcome _ => exact fun q hq => nomatch hq
  | refused s f store hs hnews hf => exact fun q hq => nomatch hq
  | waited s t store reason hs hp htask => exact fun q hq => nomatch hq
  | unanswered s t store task f fetches hs hp htask hf hfetches =>
      exact fun q hq => hviews t (lt_of_isPast d o h hp htask) q (hfetches hq)
  | unwritten s t store task top border f store' hs hp htask htop hborder hf =>
      exact hviews t (lt_of_isPast d o h hp htask)
  | wrote s t store task top border w store' hs hp htask htop hborder hw =>
      exact hviews t (lt_of_isPast d o h hp htask)

/-- Making sure of a tracker leaves the tables of an event that is past. -/
theorem table?_of_poised {eventId : Int} {s : Snapshot} {t : Tracker} {store : Store}
    (h : d.IsPast eventId) (hp : d.Poised o s t store) (kind : TableKind) :
    store.database.table? kind eventId = o.sink.store.database.table? kind eventId := by
  obtain ⟨u, hu, hpast⟩ := h
  cases hp with
  | kept t ht hle => rfl
  | installed store hnews hmade =>
      have hlt : u.eventId < s.eventId := hnews u hu
      have hne : s.eventId ≠ eventId := by omega
      have hframe := o.sink.store.table?_provision_of_ne s.kind kind hne
      rwa [hmade] at hframe

/-- The tables of an event that is past stay as they are. -/
theorem table?_of_isPast {eventId : Int} (h : d.IsPast eventId) (kind : TableKind) :
    (d.meet o).sink.store.database.table? kind eventId
      = o.sink.store.database.table? kind eventId := by
  have hc := d.course o
  generalize d.meet o = c at hc ⊢
  cases hc with
  | blind outcome _ => rfl
  | refused s f store hs hnews hf =>
      show store.database.table? kind eventId = _
      rw [Store.database_provision_of_error hf]
  | waited s t store reason hs hp htask => exact table?_of_poised d o h hp kind
  | unanswered s t store task f fetches hs hp htask hf hfetches =>
      exact table?_of_poised d o h hp kind
  | unwritten s t store task top border f store' hs hp htask htop hborder hf =>
      show store'.database.table? kind eventId = _
      rw [Store.database_record_of_error hf]
      exact table?_of_poised d o h hp kind
  | wrote s t store task top border w store' hs hp htask htop hborder hw =>
      have hne : t.eventId ≠ eventId := by
        have hlt := lt_of_isPast d o h hp htask
        omega
      have hframe := store.table?_record_of_ne (t.plan s task.scope o.now top border).batch kind hne
      rw [hw] at hframe
      exact hframe.trans (table?_of_poised d o h hp kind)

/-! ## Closing an event -/

variable {d o}

/-- A cycle that writes the last rows of an event meets its end, and the event was not past. -/
theorem Closes.meetsEnd {eventId : Int} (h : d.Closes o eventId) :
    d.MeetsEnd o eventId ∧ ¬ d.IsPast eventId := by
  obtain ⟨⟨summary, hout⟩, hfollowed⟩ := h
  obtain ⟨s, t, store, top, border, w, store', hs, hp, htask, htop, hborder, hw, htracker⟩ :=
    wrote_of_outcome .closeEvent hout
  obtain ⟨hid, -, hphase⟩ := Tracker.task_eq_closeEvent_iff.1 htask
  obtain rfl : t.eventId = eventId := by
    simpa [followed, htracker, Tracker.committed] using hfollowed
  refine ⟨?_, fun hpast => Int.lt_irrefl _ (lt_of_isPast d o hpast hp htask)⟩
  obtain ⟨retired, hensure⟩ := poised_iff_ensure.1 hp
  exact ⟨s, retired, t, store, top, border, w, store', hs, hensure, hid, rfl, hphase, htop,
    hborder, hw⟩

/-- An event whose last rows a cycle writes is past after it. -/
theorem Closes.isPast_meet {eventId : Int} (h : d.Closes o eventId) :
    (d.meet o).daemon.IsPast eventId := by
  obtain ⟨⟨summary, hout⟩, hfollowed⟩ := h
  obtain ⟨s, t, store, top, border, w, store', hs, hp, htask, htop, hborder, hw, htracker⟩ :=
    wrote_of_outcome .closeEvent hout
  refine ⟨_, htracker, Or.inr ⟨?_, by simp⟩⟩
  simpa [followed, htracker, eq_comm] using hfollowed

/-- A cycle that meets the end of an event writes its last rows, unless the event is past. -/
theorem MeetsEnd.closes {eventId : Int} (h : d.MeetsEnd o eventId) (hpast : ¬ d.IsPast eventId) :
    d.Closes o eventId := by
  obtain ⟨s, retired, t, store, top, border, w, store', hs, hensure, hid, rfl, hphase, htop,
    hborder, hw⟩ := h
  have hp : d.Poised o s t store := poised_iff_ensure.2 ⟨retired, hensure⟩
  -- Were the tracker marked, it would have stayed, and the event would be past.
  have hended : t.isEnded = false := by
    cases hp with
    | kept t ht hle =>
        exact Bool.eq_false_iff.2 fun hended => hpast ⟨t, ht, Or.inr ⟨rfl, hended⟩⟩
    | installed store hnews hmade => rfl
  have htask : t.task s = .ok .closeEvent :=
    Tracker.task_eq_closeEvent_iff.2 ⟨hid, hended, hphase⟩
  have hmeet := meet_of_poised hs hp
  rw [advance_eq, htask] at hmeet
  simp only [settle, Task.scope] at hmeet
  -- Of the ways of a recording only the last agrees with both views and the store.
  have hc := t.recordCourse o.feed { o.sink with store := store } s .full o.now
  generalize t.record o.feed { o.sink with store := store } s .full o.now = r at hc hmeet
  cases hc with
  | noTop f hf => rw [htop] at hf; cases hf
  | noBorder top' f htop' hf => rw [hborder] at hf; cases hf
  | unwritten top' border' f made htop' hborder' hf =>
      rw [htop] at htop'
      rw [hborder] at hborder'
      obtain rfl := Except.ok.inj htop'
      obtain rfl := Except.ok.inj hborder'
      have hf' := hw.symm.trans hf
      cases hf'
  | written top' border' w' made htop' hborder' hw' =>
      exact ⟨⟨_, by rw [hmeet]; rfl⟩, by rw [hmeet]; rfl⟩

/-- An event whose end is met is past after the cycle. -/
theorem MeetsEnd.isPast_meet {eventId : Int} (h : d.MeetsEnd o eventId) :
    (d.meet o).daemon.IsPast eventId := by
  by_cases hpast : d.IsPast eventId
  · exact Daemon.isPast_meet d o hpast
  · exact (h.closes hpast).isPast_meet

/-- Only a cycle that closes an event marks its tracker. -/
theorem closes_of_isEnded {u : Tracker} (hu : (d.meet o).daemon.tracker = some u)
    (hended : u.isEnded = true) :
    (∃ t, d.tracker = some t ∧ t.eventId = u.eventId ∧ t.isEnded = true)
      ∨ d.Closes o u.eventId := by
  have hkept : ∀ s t store, d.Poised o s t store → t.isEnded = true →
      ∃ v, d.tracker = some v ∧ v.eventId = t.eventId ∧ v.isEnded = true := by
    intro s t store hp ht
    cases hp with
    | kept t hv hle => exact ⟨t, hv, rfl, ht⟩
    | installed store hnews hmade => cases ht
  have hc := d.course o
  have hclose : (∃ summary, (d.meet o).outcome = .eventFinalized summary) →
      d.Closes o u.eventId := fun hout => ⟨hout, by simp [followed, hu]⟩
  generalize d.meet o = c at hc hu hclose
  cases hc with
  | blind outcome h => exact Or.inl ⟨u, hu, rfl, hended⟩
  | refused s f store hs hnews hf => exact Or.inl ⟨u, hu, rfl, hended⟩
  | waited s t store reason hs hp htask =>
      obtain rfl := Option.some.inj hu
      exact Or.inl (hkept s _ store hp hended)
  | unanswered s t store task f fetches hs hp htask hf hfetches =>
      obtain rfl := Option.some.inj hu
      exact Or.inl (hkept s _ store hp hended)
  | unwritten s t store task top border f store' hs hp htask htop hborder hf =>
      obtain rfl := Option.some.inj hu
      exact Or.inl (hkept s _ store hp hended)
  | wrote s t store task top border w store' hs hp htask htop hborder hw =>
      obtain rfl := Option.some.inj hu
      obtain ⟨-, ht⟩ := Tracker.eventId_eq_of_task htask
      have htask' : task = .closeEvent := by simpa [Tracker.committed, ht] using hended
      exact Or.inr (hclose ⟨_, by rw [htask']; rfl⟩)

end Step

/-! ## Whole runs -/

theorem isPast_after {d : Daemon} {eventId : Int} (h : d.IsPast eventId) (os : List Occasion) :
    (d.after os).IsPast eventId := by
  induction os generalizing d with
  | nil => exact h
  | cons o os ih => exact ih (isPast_meet d o h)

section Run

variable {d : Daemon} (hd : d.tracker = none)
include hd

/-- A daemon never keeps a stopped tracker. -/
theorem isStopped_after (os : List Occasion) :
    ∀ t, (d.after os).tracker = some t → t.isStopped = false := by
  induction os using List.reverseRecOn with
  | nil =>
      intro t ht
      rw [after_nil, hd] at ht
      cases ht
  | append_singleton os o ih =>
      rw [after_append]
      exact isStopped_meet (d.after os) o ih

/-- A tracker is marked because an earlier cycle closed its event. -/
theorem exists_closes_of_isEnded (os : List Occasion) :
    ∀ t, (d.after os).tracker = some t → t.isEnded = true →
      ∃ os₁ o os₂, os = os₁ ++ o :: os₂ ∧ (d.after os₁).Closes o t.eventId := by
  induction os using List.reverseRecOn with
  | nil =>
      intro t ht
      rw [after_nil, hd] at ht
      cases ht
  | append_singleton os o ih =>
      intro u hu hended
      rw [after_append] at hu
      rcases closes_of_isEnded hu hended with ⟨t, ht, hid, hended'⟩ | hcloses
      · obtain ⟨os₁, o', os₂, rfl, hcloses⟩ := ih t ht hended'
        exact ⟨os₁, o', os₂ ++ [o], by simp, hid ▸ hcloses⟩
      · exact ⟨os, o, [], rfl, hcloses⟩

/-- The cycle that closes an event is the first that meets its end. -/
theorem closes_iff (os : List Occasion) (o : Occasion) (eventId : Int) :
    (d.after os).Closes o eventId ↔
      (d.after os).MeetsEnd o eventId
        ∧ ∀ os₁ o' os₂, os = os₁ ++ o' :: os₂ → ¬ (d.after os₁).MeetsEnd o' eventId := by
  constructor
  · intro h
    obtain ⟨hmeets, hpast⟩ := h.meetsEnd
    refine ⟨hmeets, fun os₁ o' os₂ hos hmeets' => hpast ?_⟩
    rw [hos, after_append, after_cons]
    exact isPast_after hmeets'.isPast_meet os₂
  · rintro ⟨hmeets, hfirst⟩
    refine hmeets.closes fun hpast => ?_
    obtain ⟨s, retired, t, store, top, border, w, store', hs, hensure, hid, rfl, -⟩ := hmeets
    have hp : (d.after os).Poised o s t store := poised_iff_ensure.2 ⟨retired, hensure⟩
    -- The tracker at hand is not for a later event, so it is a marked one that stayed.
    have hended : t.isEnded = true := by
      rcases isEnded_of_isPast _ o hpast hp with hlt | ⟨-, hended⟩
      · exact absurd hlt (Int.lt_irrefl _)
      · exact hended
    cases hp with
    | kept t ht hle =>
        obtain ⟨os₁, o', os₂, hos, hcloses⟩ := exists_closes_of_isEnded hd os t ht hended
        exact hfirst os₁ o' os₂ hos hcloses.meetsEnd.1
    | installed store hnews hmade => cases hended

end Run

/-- Along every run of a daemon that follows nothing at first, on whatever occasions:

* no tracker at work is stopped, and a tracker goes on or gives way to that of a later event, which
  stops it;
* the cycle that tells of the last rows of an event is the first to find the event followed in its
  last phase, to get both views and to write;
* from then on no cycle tells so again, asks the feed about that event, or touches its tables. -/
theorem events_close_once {d : Daemon} (hd : d.tracker = none) (os : List Occasion)
    (o : Occasion) :
    (∀ t, (d.after os).tracker = some t →
      t.isStopped = false ∧ ∃ u, ((d.after os).meet o).daemon.tracker = some u
        ∧ (u.eventId = t.eventId ∨ t.eventId < u.eventId ∧ (d.after os).Relieves o t))
    ∧ ∀ eventId,
      ((d.after os).Closes o eventId ↔
        (d.after os).MeetsEnd o eventId
          ∧ ∀ os₁ o' os₂, os = os₁ ++ o' :: os₂ → ¬ (d.after os₁).MeetsEnd o' eventId)
      ∧ ((d.after os).Closes o eventId → ∀ os' o',
        ¬ (d.after (os ++ o :: os')).Closes o' eventId
          ∧ (∀ q ∈ ((d.after (os ++ o :: os')).meet o').fetches, q.eventId ≠ eventId)
          ∧ ∀ kind, ((d.after (os ++ o :: os')).meet o').sink.store.database.table? kind eventId
            = o'.sink.store.database.table? kind eventId) := by
  refine ⟨fun t ht => ⟨isStopped_after hd os t ht, ?_⟩, fun eventId =>
    ⟨closes_iff hd os o eventId, fun hcloses os' o' => ?_⟩⟩
  · obtain ⟨u, hu, hcont | hrelieved⟩ := continues_or_relieved (d.after os) o ht
    · exact ⟨u, hu, Or.inl hcont.eventId⟩
    · exact ⟨u, hu, Or.inr hrelieved⟩
  · have hpast : (d.after (os ++ o :: os')).IsPast eventId := by
      rw [after_append, after_cons]
      exact isPast_after hcloses.isPast_meet os'
    exact ⟨fun h => h.meetsEnd.2 hpast, fetches_of_isPast _ o' hpast, table?_of_isPast _ o' hpast⟩

/-- A cycle three seconds after the start of an event that closed one second ago. -/
def closingOccasion : Occasion where
  files := { events := some (Bytes.ofText "[[1,\"marathon\",0,1000,2000,\"e\"]]") }
  feed := fun _ => .ok { standings := [⟨"u", 1, 50, "U", none, none⟩] }
  sink := ⟨{}, .empty 60⟩
  now := 3000

/-- An idle daemon that comes upon an event at its end closes it, and then leaves it alone. -/
theorem events_close_once_idle :
    (idle .jp).tracker = none
      ∧ (idle .jp).Closes closingOccasion 1 ∧ (idle .jp).MeetsEnd closingOccasion 1
      ∧ ∀ os' o', ¬ ((idle .jp).after (closingOccasion :: os')).Closes o' 1
        ∧ (∀ q ∈ (((idle .jp).after (closingOccasion :: os')).meet o').fetches, q.eventId ≠ 1) := by
  have hcloses : (idle .jp).Closes closingOccasion 1 :=
    ⟨⟨⟨3, 1, 0, none⟩, by decide +kernel⟩, by decide +kernel⟩
  obtain ⟨hiff, hlater⟩ := (events_close_once (d := idle .jp) rfl [] closingOccasion).2 1
  exact ⟨rfl, hcloses, (hiff.1 hcloses).1, fun os' o' =>
    ⟨(hlater hcloses os' o').1, (hlater hcloses os' o').2.1⟩⟩

end Daemon

end RankLedger
