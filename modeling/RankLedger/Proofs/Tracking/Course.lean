import RankLedger.Proofs.Store.Tables
import RankLedger.Tracking.Daemon

set_option autoImplicit false

/-! # The course of a cycle

Everything that a cycle can do, said once. `Tracker.task` names what a tracker has to do about a
snapshot apart from doing it, `Tracker.RecordCourse` lists the ways of a recording, and
`Daemon.Course` those of a whole cycle; `Daemon.course` says that there are no others. Laws about
cycles go through these cases and leave the definitions closed. -/

namespace RankLedger

/-! ## Tasks -/

/-- What a tracker has to write. -/
inductive Task where
  /-- The rows of the moment. -/
  | keepUp
  /-- The last rows of a chapter. -/
  | closeChapter (character : Int)
  /-- The last rows of the event. -/
  | closeEvent
  deriving DecidableEq, Repr

namespace Task

/-- What is written for a task. -/
def scope : Task → Scope
  | .keepUp | .closeEvent => .full
  | .closeChapter character => .chapterFinal character

/-- What a tracker notes once the task is done. -/
def mark : Task → Tracker → Tracker
  | .keepUp, t => t
  | .closeChapter character, t => t.markChapterEnded character
  | .closeEvent, t => t.markEnded

/-- What a cycle tells once the task is done. -/
def outcome : Task → RecordSummary → CycleOutcome
  | .keepUp => .recorded
  | .closeChapter character => .chapterFinalized character
  | .closeEvent => .eventFinalized

@[simp] theorem mark_region (task : Task) (t : Tracker) : (task.mark t).region = t.region := by
  cases task <;> rfl

@[simp] theorem mark_eventId (task : Task) (t : Tracker) : (task.mark t).eventId = t.eventId := by
  cases task <;> rfl

@[simp] theorem mark_kind (task : Task) (t : Tracker) : (task.mark t).kind = t.kind := by
  cases task <;> rfl

@[simp] theorem mark_isStopped (task : Task) (t : Tracker) :
    (task.mark t).isStopped = t.isStopped := by
  cases task <;> rfl

@[simp] theorem mark_isEnded (task : Task) (t : Tracker) :
    (task.mark t).isEnded = (t.isEnded || task = .closeEvent) := by
  cases task <;> simp [mark, Tracker.markChapterEnded, Tracker.markEnded]

/-- What a cycle tells betrays the task that was done. -/
theorem outcome_inj {task task' : Task} {summary summary' : RecordSummary}
    (h : task.outcome summary = task'.outcome summary') : task = task' ∧ summary = summary' := by
  cases task <;> cases task' <;> simp_all [outcome]

theorem outcome_ne_failed (task : Task) (summary : RecordSummary) (why : Halt) :
    task.outcome summary ≠ .failed why := by
  cases task <;> simp [outcome]

theorem outcome_ne_skipped (task : Task) (summary : RecordSummary) (reason : SkipReason) :
    task.outcome summary ≠ .skipped reason := by
  cases task <;> simp [outcome]

end Task

namespace Tracker

/-- What a tracker has to do about a snapshot, or why there is nothing to do. -/
def task (t : Tracker) (s : Snapshot) : Except SkipReason Task :=
  if s.eventId ≠ t.eventId then .error (.eventMismatch t.eventId s.eventId)
  else if t.isEnded then .error .eventEnded
  else
    match s.phase with
    | .notStarted => .error .notStarted
    | .aggregating => .error .aggregating
    | .ended => .ok .closeEvent
    | .ongoing =>
        match if t.kind.hasChapters then t.chapterToFinalize s else none with
        | some character => .ok (.closeChapter character)
        | none => .ok .keepUp

/-- A tracker has something to do only about its own event, and before the event's last rows. -/
theorem eventId_eq_of_task {t : Tracker} {s : Snapshot} {task : Task} (h : t.task s = .ok task) :
    s.eventId = t.eventId ∧ t.isEnded = false := by
  unfold Tracker.task at h
  split at h
  · cases h
  · rename_i hid
    split at h
    · cases h
    · rename_i hended
      exact ⟨by simpa using hid, by simpa using hended⟩

/-- The last rows of an event are written when its phase is the last. -/
theorem task_eq_closeEvent_iff {t : Tracker} {s : Snapshot} :
    t.task s = .ok .closeEvent ↔
      s.eventId = t.eventId ∧ t.isEnded = false ∧ s.phase = .ended := by
  constructor
  · intro h
    obtain ⟨hid, hended⟩ := eventId_eq_of_task h
    refine ⟨hid, hended, ?_⟩
    cases hphase : s.phase with
    | ended => rfl
    | notStarted => simp [Tracker.task, hid, hended, hphase] at h
    | aggregating => simp [Tracker.task, hid, hended, hphase] at h
    | ongoing =>
        simp only [Tracker.task, hid, hended, hphase] at h
        cases hc : (if t.kind.hasChapters then t.chapterToFinalize s else none) <;>
          simp [hc] at h
  · rintro ⟨hid, hended, hphase⟩
    simp [Tracker.task, hid, hended, hphase]

/-! ## Recordings -/

/-- The look at the best hundred of the event. -/
def topFetch (t : Tracker) : Fetch := ⟨t.region, t.eventId, .top⟩

/-- The look at the border of the event. -/
def borderFetch (t : Tracker) : Fetch := ⟨t.region, t.eventId, .border⟩

/-- The tracker once the borders of a plan are committed. -/
def committed (t : Tracker) (p : Plan) : Tracker :=
  { t with borders := t.borders.commitAll p.staged }

/-- What a cycle tells about a plan that was written. -/
def Plan.summary (p : Plan) (written : WriteSummary) : RecordSummary :=
  ⟨p.second, written.rankings, written.chapters, p.character⟩

/-- The ways a recording can go. -/
inductive RecordCourse (t : Tracker) (feed : Feed) (sink : Sink) (s : Snapshot) (scope : Scope)
    (now : Int) : Recording → Prop where
  /-- The best hundred are not to be had. -/
  | noTop (f : Failure) (hf : feed t.topFetch = .error f) :
      RecordCourse t feed sink s scope now ⟨.error f, t, sink, [t.topFetch]⟩
  /-- The border is not to be had. -/
  | noBorder (top : Board) (f : Failure) (htop : feed t.topFetch = .ok top)
      (hf : feed t.borderFetch = .error f) :
      RecordCourse t feed sink s scope now ⟨.error f, t, sink, [t.topFetch, t.borderFetch]⟩
  /-- The store refuses. -/
  | unwritten (top border : Board) (f : Failure) (store : Store)
      (htop : feed t.topFetch = .ok top) (hborder : feed t.borderFetch = .ok border)
      (hf : sink.store.record t.eventId (t.plan s scope now top border).batch = (.error f, store)) :
      RecordCourse t feed sink s scope now
        ⟨.error f, t, { sink with store := store }, [t.topFetch, t.borderFetch]⟩
  /-- All is written, the borders are committed, and the answers kept are dropped. -/
  | written (top border : Board) (w : WriteSummary) (store : Store)
      (htop : feed t.topFetch = .ok top) (hborder : feed t.borderFetch = .ok border)
      (hw : sink.store.record t.eventId (t.plan s scope now top border).batch = (.ok w, store)) :
      RecordCourse t feed sink s scope now
        ⟨.ok ((t.plan s scope now top border).summary w),
          t.committed (t.plan s scope now top border),
          ⟨store, (sink.cache.invalidate t.region.name).2⟩, [t.topFetch, t.borderFetch]⟩

theorem recordCourse (t : Tracker) (feed : Feed) (sink : Sink) (s : Snapshot) (scope : Scope)
    (now : Int) : RecordCourse t feed sink s scope now (t.record feed sink s scope now) := by
  simp only [record]
  cases htop : feed ⟨t.region, t.eventId, .top⟩ with
  | error f => exact .noTop f htop
  | ok top =>
      cases hborder : feed ⟨t.region, t.eventId, .border⟩ with
      | error f => exact .noBorder top f htop hborder
      | ok border =>
          simp only [carryOut]
          rcases hw : sink.store.record t.eventId (t.plan s scope now top border).batch with
            ⟨f | w, store⟩
          · exact .unwritten top border f store htop hborder hw
          · exact .written top border w store htop hborder hw

end Tracker

/-! ## Cycles -/

/-- What a cycle finds around it. -/
structure Occasion where
  files : CalendarFiles
  feed : Feed
  sink : Sink
  now : Int

namespace Daemon

/-- The cycle of a daemon on an occasion. -/
def meet (d : Daemon) (o : Occasion) : Cycle := d.runCycle o.files o.feed o.sink o.now

/-- What the calendars tell a daemon. -/
def found (d : Daemon) (o : Occasion) : Except Halt (Option Snapshot) :=
  (d.almanac.current o.files o.now).1

/-- The daemon once it has looked into the calendars. -/
def informed (d : Daemon) (o : Occasion) : Daemon :=
  { d with almanac := (d.almanac.current o.files o.now).2 }

/-- No event as late as this one is followed. -/
def IsNews (d : Daemon) (eventId : Int) : Prop := ∀ t, d.tracker = some t → t.eventId < eventId

/-- A cycle comes to consult a tracker about a snapshot, over a store with the tables of the
tracker's event made. -/
inductive Poised (d : Daemon) (o : Occasion) (s : Snapshot) : Tracker → Store → Prop where
  /-- The tracker of earlier cycles stays. -/
  | kept (t : Tracker) (ht : d.tracker = some t) (hle : s.eventId ≤ t.eventId) :
      Poised d o s t o.sink.store
  /-- A tracker for the snapshot takes over. -/
  | installed (store : Store) (hnews : d.IsNews s.eventId)
      (hmade : o.sink.store.provision s.eventId s.kind = (.ok (), store)) :
      Poised d o s (.ofSnapshot s) store

/-- What a cycle tells when the calendars give it no snapshot. -/
def blindOutcome? : Except Halt (Option Snapshot) → Option CycleOutcome
  | .ok (some _) => none
  | .ok none => some .noLiveEvent
  | .error (.failure _) => some .masterDataUnavailable
  | .error .overflow => some (.failed .overflow)

/-- The ways a cycle can go. -/
inductive Course (d : Daemon) (o : Occasion) : Cycle → Prop where
  /-- There is no snapshot to act on. -/
  | blind (outcome : CycleOutcome) (h : blindOutcome? (d.found o) = some outcome) :
      Course d o (.quiet outcome (d.informed o) o.sink)
  /-- The tables of a new event cannot be made. -/
  | refused (s : Snapshot) (f : Failure) (store : Store) (hs : d.found o = .ok (some s))
      (hnews : d.IsNews s.eventId)
      (hf : o.sink.store.provision s.eventId s.kind = (.error f, store)) :
      Course d o (.quiet (.failed f) (d.informed o) { o.sink with store := store })
  /-- The tracker has nothing to do. -/
  | waited (s : Snapshot) (t : Tracker) (store : Store) (reason : SkipReason)
      (hs : d.found o = .ok (some s)) (hp : d.Poised o s t store)
      (htask : t.task s = .error reason) :
      Course d o (.quiet (.skipped reason) { d.informed o with tracker := some t }
        { o.sink with store := store })
  /-- The feed does not give both views. -/
  | unanswered (s : Snapshot) (t : Tracker) (store : Store) (task : Task) (f : Failure)
      (fetches : List Fetch) (hs : d.found o = .ok (some s)) (hp : d.Poised o s t store)
      (htask : t.task s = .ok task) (hf : ∃ q ∈ fetches, o.feed q = .error f)
      (hfetches : fetches ⊆ [t.topFetch, t.borderFetch]) :
      Course d o ⟨.failed f, { d.informed o with tracker := some t },
        { o.sink with store := store }, fetches⟩
  /-- The store does not take the rows. -/
  | unwritten (s : Snapshot) (t : Tracker) (store : Store) (task : Task) (top border : Board)
      (f : Failure) (store' : Store) (hs : d.found o = .ok (some s)) (hp : d.Poised o s t store)
      (htask : t.task s = .ok task) (htop : o.feed t.topFetch = .ok top)
      (hborder : o.feed t.borderFetch = .ok border)
      (hf : store.record t.eventId (t.plan s task.scope o.now top border).batch
        = (.error f, store')) :
      Course d o ⟨.failed f, { d.informed o with tracker := some t },
        { o.sink with store := store' }, [t.topFetch, t.borderFetch]⟩
  /-- The rows are written. -/
  | wrote (s : Snapshot) (t : Tracker) (store : Store) (task : Task) (top border : Board)
      (w : WriteSummary) (store' : Store) (hs : d.found o = .ok (some s))
      (hp : d.Poised o s t store) (htask : t.task s = .ok task)
      (htop : o.feed t.topFetch = .ok top) (hborder : o.feed t.borderFetch = .ok border)
      (hw : store.record t.eventId (t.plan s task.scope o.now top border).batch
        = (.ok w, store')) :
      Course d o ⟨task.outcome ((t.plan s task.scope o.now top border).summary w),
        { d.informed o with
          tracker := some (task.mark (t.committed (t.plan s task.scope o.now top border))) },
        ⟨store', (o.sink.cache.invalidate t.region.name).2⟩, [t.topFetch, t.borderFetch]⟩

/-! ### Getting there -/

theorem runCycle_eq (d : Daemon) (o : Occasion) :
    d.meet o =
      match d.found o with
      | .ok (some s) => (d.informed o).attend o.feed o.sink s o.now
      | .ok none => .quiet .noLiveEvent (d.informed o) o.sink
      | .error (.failure _) => .quiet .masterDataUnavailable (d.informed o) o.sink
      | .error .overflow => .quiet (.failed .overflow) (d.informed o) o.sink := rfl

theorem ensure_kept {d : Daemon} {store : Store} {s : Snapshot} {t : Tracker}
    (ht : d.tracker = some t) (hle : s.eventId ≤ t.eventId) :
    d.ensure store s = (.ok none, d, store) := by
  simp [ensure, ht, hle]

theorem ensure_of_isNews {d : Daemon} {store : Store} {s : Snapshot} (hnews : d.IsNews s.eventId) :
    d.ensure store s =
      match store.provision s.eventId s.kind with
      | (.error f, store) => (.error f, d, store)
      | (.ok (), store) =>
          (.ok (d.tracker.map (·.stop.2)), { d with tracker := some (.ofSnapshot s) }, store) := by
  have hany : d.tracker.any (s.eventId ≤ ·.eventId) = false := by
    cases ht : d.tracker with
    | none => rfl
    | some t => simpa using hnews t ht
  simp only [ensure, hany]
  rfl

/-- A daemon follows an event as late as the snapshot's, or the snapshot is news to it. -/
theorem kept_or_isNews (d : Daemon) (eventId : Int) :
    (∃ t, d.tracker = some t ∧ eventId ≤ t.eventId) ∨ d.IsNews eventId := by
  cases ht : d.tracker with
  | none => exact Or.inr (fun t h => by rw [ht] at h; cases h)
  | some t =>
      rcases Int.lt_or_le t.eventId eventId with hlt | hle
      · refine Or.inr (fun u hu => ?_)
        rw [ht] at hu
        exact Option.some.inj hu ▸ hlt
      · exact Or.inl ⟨t, rfl, hle⟩

/-- To be poised is to have made sure of a tracker. -/
theorem poised_iff_ensure {d : Daemon} {o : Occasion} {s : Snapshot} {t : Tracker}
    {store : Store} :
    d.Poised o s t store ↔
      ∃ retired, (d.informed o).ensure o.sink.store s =
        (.ok retired, { d.informed o with tracker := some t }, store) := by
  constructor
  · intro hp
    cases hp with
    | kept t ht hle =>
        have ht' : (d.informed o).tracker = some t := ht
        exact ⟨none, by rw [ensure_kept ht' hle, ← ht']⟩
    | installed store hnews hmade =>
        have hnews' : (d.informed o).IsNews s.eventId := hnews
        exact ⟨_, by rw [ensure_of_isNews hnews', hmade]⟩
  · rintro ⟨retired, h⟩
    rcases kept_or_isNews (d.informed o) s.eventId with ⟨u, hu, hle⟩ | hnews
    · rw [ensure_kept hu hle] at h
      obtain ⟨-, hd, rfl⟩ : _ ∧ _ ∧ _ := by simpa only [Prod.mk.injEq] using h
      have htracker := congrArg tracker hd
      rw [hu] at htracker
      obtain rfl := Option.some.inj htracker
      exact .kept u hu hle
    · rw [ensure_of_isNews hnews] at h
      rcases hmade : o.sink.store.provision s.eventId s.kind with ⟨f | _, made⟩
      · rw [hmade] at h
        cases h
      · rw [hmade] at h
        obtain ⟨-, hd, rfl⟩ : _ ∧ _ ∧ _ := by simpa only [Prod.mk.injEq] using h
        obtain rfl := Option.some.inj (congrArg tracker hd)
        exact .installed made hnews hmade

/-- A tracker that a cycle is poised on is for an event as late as the snapshot's. -/
theorem Poised.le {d : Daemon} {o : Occasion} {s : Snapshot} {t : Tracker} {store : Store}
    (hp : d.Poised o s t store) : s.eventId ≤ t.eventId := by
  cases hp with
  | kept t ht hle => exact hle
  | installed store hnews hmade => exact Int.le_refl _

/-- Until a cycle is poised, its store gains nothing but tables without content. -/
theorem Poised.grows {d : Daemon} {o : Occasion} {s : Snapshot} {t : Tracker} {store : Store}
    (hp : d.Poised o s t store) : o.sink.store.Grows store := by
  cases hp with
  | kept t ht hle => exact .refl _
  | installed store hnews hmade =>
      have hgrows := o.sink.store.grows_provision s.eventId s.kind
      rwa [hmade] at hgrows

/-- Once poised, a cycle goes on with the tracker. -/
theorem meet_of_poised {d : Daemon} {o : Occasion} {s : Snapshot} {t : Tracker} {store : Store}
    (hs : d.found o = .ok (some s)) (hp : d.Poised o s t store) :
    d.meet o = advance { d.informed o with tracker := some t } t o.feed
      { o.sink with store := store } s o.now := by
  rw [runCycle_eq, hs]
  simp only [attend]
  cases hp with
  | kept t ht hle =>
      have ht' : (d.informed o).tracker = some t := ht
      rw [ensure_kept ht' hle]
      simp only [ht']
      rw [← ht']
  | installed store hnews hmade =>
      have hnews' : (d.informed o).IsNews s.eventId := hnews
      rw [ensure_of_isNews hnews', hmade]

theorem advance_eq (d : Daemon) (t : Tracker) (feed : Feed) (sink : Sink) (s : Snapshot)
    (now : Int) :
    d.advance t feed sink s now =
      match t.task s with
      | .error reason => .quiet (.skipped reason) d sink
      | .ok task => d.settle t feed sink s task.scope now task.mark task.outcome := by
  unfold advance Tracker.task
  split
  · rfl
  · split
    · rfl
    · cases s.phase with
      | notStarted => rfl
      | aggregating => rfl
      | ended => rfl
      | ongoing => cases if t.kind.hasChapters then t.chapterToFinalize s else none <;> rfl

/-- There are no other ways for a cycle to go. -/
theorem course (d : Daemon) (o : Occasion) : d.Course o (d.meet o) := by
  cases hs : d.found o with
  | error why =>
      rw [runCycle_eq, hs]
      cases why with
      | failure f => exact .blind _ (by rw [hs]; rfl)
      | overflow => exact .blind _ (by rw [hs]; rfl)
  | ok found =>
      cases found with
      | none =>
          rw [runCycle_eq, hs]
          exact .blind _ (by rw [hs]; rfl)
      | some s =>
          -- From here on it does not matter whether the tracker stayed or has just come.
          have hpoised : ∀ t store, d.Poised o s t store → d.Course o (d.meet o) := by
            intro t store hp
            rw [meet_of_poised hs hp, advance_eq]
            cases htask : t.task s with
            | error reason => exact .waited s t store reason hs hp htask
            | ok task =>
                simp only [settle]
                have hc := t.recordCourse o.feed { o.sink with store := store } s task.scope o.now
                generalize t.record o.feed { o.sink with store := store } s task.scope o.now = r
                  at hc ⊢
                cases hc with
                | noTop f hf =>
                    exact .unanswered s t store task f _ hs hp htask ⟨_, by simp, hf⟩ (by simp)
                | noBorder top f htop hf =>
                    exact .unanswered s t store task f _ hs hp htask ⟨_, by simp, hf⟩ (by simp)
                | unwritten top border f store' htop hborder hf =>
                    exact .unwritten s t store task top border f store' hs hp htask htop hborder hf
                | written top border w store' htop hborder hw =>
                    exact .wrote s t store task top border w store' hs hp htask htop hborder hw
          rcases kept_or_isNews d s.eventId with ⟨t, ht, hle⟩ | hnews
          · exact hpoised t _ (.kept t ht hle)
          · rcases hmade : o.sink.store.provision s.eventId s.kind with ⟨f | _, store⟩
            · have hnews' : (d.informed o).IsNews s.eventId := hnews
              rw [runCycle_eq, hs]
              simp only [attend]
              rw [ensure_of_isNews hnews', hmade]
              exact .refused s f store hs hnews hmade
            · exact hpoised _ store (.installed store hnews hmade)

/-- A cycle that tells of a task done has written its rows. -/
theorem wrote_of_outcome (task : Task) {d : Daemon} {o : Occasion} {summary : RecordSummary}
    (h : (d.meet o).outcome = task.outcome summary) :
    ∃ s t store top border w store', d.found o = .ok (some s) ∧ d.Poised o s t store
      ∧ t.task s = .ok task ∧ o.feed t.topFetch = .ok top ∧ o.feed t.borderFetch = .ok border
      ∧ store.record t.eventId (t.plan s task.scope o.now top border).batch = (.ok w, store')
      ∧ (d.meet o).daemon.tracker
        = some (task.mark (t.committed (t.plan s task.scope o.now top border))) := by
  have hc := d.course o
  generalize d.meet o = c at hc h ⊢
  cases hc with
  | blind outcome hblind =>
      obtain rfl : outcome = _ := h
      cases task <;> unfold blindOutcome? at hblind <;> split at hblind <;> cases hblind
  | refused s f store hs hnews hf => exact absurd h.symm (task.outcome_ne_failed _ _)
  | waited s t store reason hs hp htask => exact absurd h.symm (task.outcome_ne_skipped _ _)
  | unanswered s t store task' f fetches hs hp htask hf hfetches =>
      exact absurd h.symm (task.outcome_ne_failed _ _)
  | unwritten s t store task' top border f store' hs hp htask htop hborder hf =>
      exact absurd h.symm (task.outcome_ne_failed _ _)
  | wrote s t store task' top border w store' hs hp htask htop hborder hw =>
      obtain ⟨rfl, -⟩ := Task.outcome_inj h
      exact ⟨s, t, store, top, border, w, store', hs, hp, htask, htop, hborder, hw, rfl⟩

end Daemon

end RankLedger
