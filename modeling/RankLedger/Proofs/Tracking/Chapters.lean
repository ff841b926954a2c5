import RankLedger.Proofs.Tracking.Written

set_option autoImplicit false

/-! # The life of a chapter

A chapter that has ended gets its last rows from a cycle of its own, at most one chapter in a cycle
and the smallest character first. The invariant is `Daemon.IsFinal`: once those rows are written, or
a later event is followed, this stays so, and such a chapter is never closed again. The main board
is left out of those cycles; as each takes a chapter that no other took, they are at most as many as
the calendar has chapters (`Daemon.countP_le_card`). -/

namespace RankLedger

/-! ## What a tracker does about chapters -/

namespace Tracker

theorem isChapterEnded_markChapterEnded (t : Tracker) (character c : Int) :
    (t.markChapterEnded character).isChapterEnded c =
      (t.isChapterEnded c || decide (character = c)) := by
  have hkey : ∀ u : Tracker, u.isChapterEnded c = hasKey id u.endedChapters c := by
    intro u
    rw [Bool.eq_iff_iff, hasKey_iff]
    simp [isChapterEnded]
  have hlast : hasKey id [character] c = decide (character = c) := by simp [hasKey]
  rw [hkey, hkey, ← hlast]
  exact hasKey_offerAll id t.endedChapters [character] c

theorem isChapterEnded_mark (task : Task) (t : Tracker) (c : Int) :
    (task.mark t).isChapterEnded c = (t.isChapterEnded c || decide (task = .closeChapter c)) := by
  cases task with
  | keepUp => simp [Task.mark]
  | closeEvent => simp [Task.mark, markEnded, isChapterEnded]
  | closeChapter character => simp [Task.mark, isChapterEnded_markChapterEnded]

theorem awaitsFinal_iff {t : Tracker} {p : ChapterPhase} :
    t.awaitsFinal p = true ↔ p.phase = .ended ∧ t.isChapterEnded p.character = false := by
  simp [awaitsFinal]

theorem isOpenChapter_iff {t : Tracker} {p : ChapterPhase} :
    t.isOpenChapter p = true ↔ p.phase = .ongoing ∨ t.awaitsFinal p = true := by
  unfold isOpenChapter awaitsFinal
  cases p.phase <;> simp

section Task

variable {t : Tracker} {s : Snapshot}

/-- What a tracker does in the midst of its event hangs on the first chapter without last rows. -/
theorem task_of_ongoing (hid : s.eventId = t.eventId) (hended : t.isEnded = false)
    (hphase : s.phase = .ongoing) :
    t.task s = .ok (match if t.kind.hasChapters then t.chapterToFinalize s else none with
      | some character => .closeChapter character
      | none => .keepUp) := by
  simp only [Tracker.task, hid, hended, hphase]
  cases (if t.kind.hasChapters then t.chapterToFinalize s else none) <;> simp

theorem task_cases {task : Task} (h : t.task s = .ok task) :
    s.phase = .ended ∧ task = .closeEvent
      ∨ s.phase = .ongoing ∧ task = match if t.kind.hasChapters then t.chapterToFinalize s else none
        with
        | some character => .closeChapter character
        | none => .keepUp := by
  obtain ⟨hid, hended⟩ := eventId_eq_of_task h
  cases hphase : s.phase with
  | ended =>
      rw [task_eq_closeEvent_iff.2 ⟨hid, hended, hphase⟩] at h
      exact Or.inl ⟨rfl, (Except.ok.inj h).symm⟩
  | ongoing =>
      rw [task_of_ongoing hid hended hphase] at h
      exact Or.inr ⟨rfl, (Except.ok.inj h).symm⟩
  | notStarted => simp [Tracker.task, hid, hended, hphase] at h
  | aggregating => simp [Tracker.task, hid, hended, hphase] at h

theorem find?_of_closeChapter {c : Int} (h : t.task s = .ok (.closeChapter c)) :
    s.phase = .ongoing ∧ t.kind.hasChapters = true
      ∧ s.chapters.find? t.awaitsFinal = some ⟨c, .ended⟩ := by
  rcases task_cases h with ⟨-, htask⟩ | ⟨hphase, htask⟩
  · cases htask
  · refine ⟨hphase, ?_⟩
    cases hkind : t.kind.hasChapters with
    | false =>
        rw [hkind] at htask
        cases htask
    | true =>
        rw [hkind] at htask
        unfold chapterToFinalize at htask
        cases hfind : s.chapters.find? t.awaitsFinal with
        | none =>
            rw [hfind] at htask
            cases htask
        | some p =>
            rw [hfind] at htask
            obtain rfl := Task.closeChapter.inj htask
            obtain ⟨hended, -⟩ := awaitsFinal_iff.1 (List.find?_some hfind)
            exact ⟨rfl, by rw [← hended]⟩

/-- A chapter that is marked, and that the snapshot shows ended if at all, has no turn. -/
theorem chapterOf_ne_of_isChapterEnded {c : Int} {task : Task} (htask : t.task s = .ok task)
    (hc : t.isChapterEnded c = true) (hended : ∀ p ∈ s.chapters, p.character = c → p.phase = .ended) :
    t.chapterOf s task.scope ≠ some c := by
  intro hturn
  unfold chapterOf at hturn
  split at hturn
  · cases task with
    | closeChapter character =>
        obtain rfl := Option.some.inj hturn
        obtain ⟨-, hopen⟩ := awaitsFinal_iff.1 (List.find?_some (find?_of_closeChapter htask).2.2)
        rw [hc] at hopen
        cases hopen
    | keepUp | closeEvent =>
        obtain ⟨p, hfind, rfl⟩ := Option.map_eq_some_iff.1 hturn
        have hphase := hended p (List.mem_of_find?_eq_some hfind) rfl
        rcases isOpenChapter_iff.1 (List.find?_some hfind) with hongoing | hawaits
        · rw [hphase] at hongoing
          cases hongoing
        · obtain ⟨-, hopen⟩ := awaitsFinal_iff.1 hawaits
          rw [hc] at hopen
          cases hopen
  · cases hturn

end Task

end Tracker

namespace Daemon

/-- The cycle writes the last rows of a chapter of an event. -/
def ClosesChapter (d : Daemon) (o : Occasion) (eventId character : Int) : Prop :=
  (∃ summary, (d.meet o).outcome = .chapterFinalized character summary)
    ∧ (d.meet o).daemon.followed = some eventId

/-- Some cycle of a run writes the last rows of a chapter of an event. -/
def HasClosed (d : Daemon) (os : List Occasion) (eventId character : Int) : Prop :=
  ∃ x ∈ d.steps os, x.1.ClosesChapter x.2 eventId character

/-- The event is followed, and a chapter of it is marked. -/
def HasMarked (d : Daemon) (eventId character : Int) : Prop :=
  ∃ t, d.tracker = some t ∧ t.eventId = eventId ∧ t.isChapterEnded character = true

/-- The last rows of a chapter of an event are written, or a later event is followed. -/
def IsFinal (d : Daemon) (eventId character : Int) : Prop :=
  ∃ t, d.tracker = some t
    ∧ (eventId < t.eventId ∨ eventId = t.eventId ∧ t.isChapterEnded character = true)

/-! ## One cycle -/

section Step

variable {d : Daemon} {o : Occasion} {e c : Int}

theorem ClosesChapter.exists_written (h : d.ClosesChapter o e c) :
    ∃ r : d.Written o, r.task = .closeChapter c ∧ r.tracker.eventId = e := by
  obtain ⟨⟨summary, hout⟩, hfollowed⟩ := h
  exact exists_written_of_outcome (.closeChapter c) hout hfollowed

theorem Written.closesChapter (r : d.Written o) (h : r.task = .closeChapter c) :
    d.ClosesChapter o r.tracker.eventId c := by
  refine ⟨⟨r.plan.summary r.written, ?_⟩, r.followed_eq⟩
  rw [r.outcome_eq, h]
  rfl

/-- A tracker that a cycle is poised on knows the chapters that are final. -/
theorem IsFinal.of_poised {s : Snapshot} {t : Tracker} {store : Store} (h : d.IsFinal e c)
    (hp : d.Poised o s t store) :
    e < t.eventId ∨ e = t.eventId ∧ t.isChapterEnded c = true := by
  obtain ⟨u, hu, hfinal⟩ := h
  cases hp with
  | kept t ht hle =>
      rw [hu] at ht
      exact Option.some.inj ht ▸ hfinal
  | installed store hnews hmade =>
      have hlt : u.eventId < s.eventId := hnews u hu
      have hid : (Tracker.ofSnapshot s).eventId = s.eventId := rfl
      omega

/-- A cycle is poised on a tracker with a mark only if the daemon had it. -/
theorem hasMarked_of_poised {s : Snapshot} {t : Tracker} {store : Store} (hp : d.Poised o s t store)
    (hc : t.isChapterEnded c = true) : d.HasMarked t.eventId c := by
  cases hp with
  | kept t ht hle => exact ⟨t, ht, rfl, hc⟩
  | installed store hnews hmade => cases hc

theorem Written.isChapterEnded_of_isFinal (r : d.Written o) (h : d.IsFinal r.tracker.eventId c) :
    r.tracker.isChapterEnded c = true := by
  rcases h.of_poised r.poised with hlt | ⟨-, hc⟩
  · exact absurd hlt (Int.lt_irrefl _)
  · exact hc

theorem isFinal_meet (h : d.IsFinal e c) : (d.meet o).daemon.IsFinal e c := by
  rcases tracker_cases d o with hsame | ⟨s, -, hnews, hu⟩ | ⟨⟨r⟩⟩
  · obtain ⟨t, ht, hfinal⟩ := h
    exact ⟨t, hsame.trans ht, hfinal⟩
  · obtain ⟨t, ht, hfinal⟩ := h
    refine ⟨_, hu, Or.inl ?_⟩
    have hlt : t.eventId < s.eventId := hnews t ht
    show e < s.eventId
    omega
  · refine ⟨_, r.tracker_eq, ?_⟩
    rw [Task.mark_eventId, Tracker.isChapterEnded_mark]
    rcases h.of_poised r.poised with hlt | ⟨hid, hc⟩
    · exact Or.inl hlt
    · exact Or.inr ⟨hid, Bool.or_eq_true_iff.2 (Or.inl hc)⟩

theorem hasMarked_meet (h : (d.meet o).daemon.HasMarked e c) :
    d.HasMarked e c ∨ d.ClosesChapter o e c := by
  obtain ⟨u, hu, rfl, hc⟩ := h
  rcases tracker_cases d o with hsame | ⟨s, -, -, hs⟩ | ⟨⟨r⟩⟩
  · exact Or.inl ⟨u, hsame.symm.trans hu, rfl, hc⟩
  · obtain rfl := Option.some.inj (hs.symm.trans hu)
    cases hc
  · obtain rfl := Option.some.inj (r.tracker_eq.symm.trans hu)
    rw [Tracker.isChapterEnded_mark, Bool.or_eq_true_iff] at hc
    rw [Task.mark_eventId]
    rcases hc with hc | htask
    · have hmarked : d.HasMarked r.tracker.eventId c := hasMarked_of_poised r.poised hc
      exact Or.inl hmarked
    · exact Or.inr (r.closesChapter (of_decide_eq_true htask))

theorem ClosesChapter.not_isFinal (h : d.ClosesChapter o e c) : ¬ d.IsFinal e c := by
  obtain ⟨r, htask, rfl⟩ := h.exists_written
  intro hfinal
  have hfind := (Tracker.find?_of_closeChapter (htask ▸ r.task_eq)).2.2
  obtain ⟨-, hopen⟩ := Tracker.awaitsFinal_iff.1 (List.find?_some hfind)
  rw [r.isChapterEnded_of_isFinal hfinal] at hopen
  cases hopen

theorem ClosesChapter.isFinal_meet (h : d.ClosesChapter o e c) :
    (d.meet o).daemon.IsFinal e c := by
  obtain ⟨r, htask, rfl⟩ := h.exists_written
  refine ⟨_, r.tracker_eq, Or.inr ⟨by rw [Task.mark_eventId]; rfl, ?_⟩⟩
  rw [Tracker.isChapterEnded_mark, htask]
  simp

theorem ClosesChapter.ended (h : d.ClosesChapter o e c) :
    ∃ s, d.found o = .ok (some s) ∧ s.eventId = e ∧ s.phase = .ongoing
      ∧ ⟨c, .ended⟩ ∈ s.chapters := by
  obtain ⟨r, htask, rfl⟩ := h.exists_written
  obtain ⟨hphase, -, hfind⟩ := Tracker.find?_of_closeChapter (htask ▸ r.task_eq)
  exact ⟨r.snapshot, r.found_eq, r.eventId_eq, hphase, List.mem_of_find?_eq_some hfind⟩

/-- Chapters with smaller characters that have ended are marked by then. -/
theorem ClosesChapter.hasMarked_of_lt (h : d.ClosesChapter o e c) {s : Snapshot}
    (hs : d.found o = .ok (some s)) {c' : Int} (hc' : ⟨c', .ended⟩ ∈ s.chapters) (hlt : c' < c) :
    d.HasMarked e c' := by
  obtain ⟨r, htask, rfl⟩ := h.exists_written
  obtain rfl := r.snapshot_eq hs
  have hfind := (Tracker.find?_of_closeChapter (htask ▸ r.task_eq)).2.2
  have hawaits := (Almanac.isAscending_of_current hs).not_of_find? hfind hc' hlt
  refine hasMarked_of_poised r.poised ?_
  simpa [Tracker.awaitsFinal] using hawaits

/-- A cycle that closes a chapter writes no rows of main boards. -/
theorem ClosesChapter.mainRows (h : d.ClosesChapter o e c) (summary : RecordSummary)
    (hsummary : (d.meet o).outcome.summary? = some summary) :
    summary.rankings = 0
      ∧ ∀ e', (d.meet o).sink.store.mainRows e' = o.sink.store.mainRows e' := by
  obtain ⟨r, htask, rfl⟩ := h.exists_written
  obtain rfl := Option.some.inj (r.summary?_eq.symm.trans hsummary)
  have hnone : r.plan.batch.rankings = [] := by
    rw [r.plan_eq, htask]
    rfl
  refine ⟨by rw [r.rankings_eq, hnone]; rfl, fun e' => ?_⟩
  rw [Store.mainRows_record_of_nil r.record_eq hnone, r.poised.grows.mainRows]

/-- Any other cycle that writes has a row for each of the best hundred on the main board. -/
theorem Written.mainRows (r : d.Written o) (h : ∀ c, r.task ≠ .closeChapter c) {p : Standing}
    (hp : p ∈ r.top.standings) :
    ∃ row ∈ (d.meet o).sink.store.mainRows r.tracker.eventId,
      row.timestamp = (r.plan.summary r.written).recordedAt ∧ row.userId = p.userId := by
  have hscope : r.task.scope = .full := by
    cases htask : r.task with
    | keepUp => rfl
    | closeEvent => rfl
    | closeChapter c => exact absurd htask (h c)
  have hmerged : p ∈ (r.tracker.mainMerge r.top r.border r.task.scope).standings := by
    rw [hscope]
    exact r.tracker.mem_mainMerge r.border hp
  -- The player has a row in the batch, so the board has one of this player and second afterwards.
  have hoffered := Tracker.hasKey_rankings_plan r.snapshot o.now hmerged
  rw [← r.plan_eq] at hoffered
  have hthere : hasKey Database.mainKey ((d.meet o).sink.store.mainRows r.tracker.eventId)
      (o.now.fdiv 1000, p.userId) = true := by
    rw [Store.mainRows_record r.record_eq, hasKey_offerAll, hoffered, Bool.or_true]
  obtain ⟨row, hrow, hkey⟩ := List.mem_map.1 (hasKey_iff.1 hthere)
  have hsecond : (r.plan.summary r.written).recordedAt = o.now.fdiv 1000 := by
    rw [r.plan_eq]
    rfl
  exact ⟨row, hrow, (congrArg Prod.fst hkey).trans hsecond.symm, congrArg Prod.snd hkey⟩

end Step

/-! ## Whole runs -/

section Run

variable {d : Daemon} {e c : Int} {os : List Occasion}

theorem isFinal_after (h : d.IsFinal e c) (os : List Occasion) : (d.after os).IsFinal e c := by
  induction os generalizing d with
  | nil => exact h
  | cons o os ih => exact ih (isFinal_meet h)

theorem HasClosed.isFinal (h : d.HasClosed os e c) : (d.after os).IsFinal e c := by
  obtain ⟨x, hx, hcloses⟩ := h
  obtain ⟨os₁, os₂, rfl, hd⟩ := mem_steps_iff.1 hx
  rw [after_append, after_cons, ← hd]
  exact isFinal_after hcloses.isFinal_meet os₂

/-- A chapter is marked because it was so at first, or because a cycle closed it. -/
theorem hasMarked_after (h : (d.after os).HasMarked e c) :
    d.HasMarked e c ∨ d.HasClosed os e c := by
  induction os using List.reverseRecOn with
  | nil => exact Or.inl h
  | append_singleton os o ih =>
      rw [after_append] at h
      unfold HasClosed
      rw [steps_append]
      rcases hasMarked_meet h with hmarked | hcloses
      · refine (ih hmarked).imp_right fun ⟨x, hx, hxc⟩ => ?_
        exact ⟨x, List.mem_append_left _ hx, hxc⟩
      · exact Or.inr ⟨(d.after os, o), List.mem_append_right _ (by simp [steps]), hcloses⟩

/-- Each cycle of a run that closes a chapter takes one that no other takes. So where each cycle
that is counted closes one of so many chapters, there are at most so many. -/
theorem countP_le_card {p : Daemon × Occasion → Bool} {chapters : Finset Int}
    (h : ∀ x ∈ d.steps os, p x = true → ∃ c ∈ chapters, x.1.ClosesChapter x.2 e c) :
    (d.steps os).countP p ≤ chapters.card := by
  induction os generalizing d chapters with
  | nil => simp [steps]
  | cons o os ih =>
      rw [steps, List.countP_cons]
      by_cases hp : p (d, o) = true
      · obtain ⟨c, hc, hcloses⟩ := h _ List.mem_cons_self hp
        -- The cycles that follow find this chapter final, so they take others.
        have hrest : ∀ x ∈ (d.meet o).daemon.steps os, p x = true →
            ∃ c' ∈ chapters.erase c, x.1.ClosesChapter x.2 e c' := by
          intro x hx hpx
          obtain ⟨c', hc', hcloses'⟩ := h x (List.mem_cons_of_mem _ hx) hpx
          refine ⟨c', Finset.mem_erase.2 ⟨?_, hc'⟩, hcloses'⟩
          rintro rfl
          obtain ⟨os₁, os₂, -, hd⟩ := mem_steps_iff.1 hx
          exact hcloses'.not_isFinal (hd ▸ isFinal_after hcloses.isFinal_meet os₁)
        have hcount := ih hrest
        rw [Finset.card_erase_of_mem hc] at hcount
        have hpos := Finset.card_pos.2 ⟨c, hc⟩
        rw [if_pos hp]
        omega
      · rw [if_neg hp]
        exact ih fun x hx => h x (List.mem_cons_of_mem _ hx)

end Run

/-! ### Runs over the same calendars -/

section Orderly

variable {d : Daemon} {e c : Int} {files : CalendarFiles} {os : List Occasion} {o : Occasion}

theorem ClosesChapter.mem_chapterCharacters (h : ∀ o ∈ os, o.files = files)
    {x : Daemon × Occasion} (hx : x ∈ d.steps os) (hcloses : x.1.ClosesChapter x.2 e c) :
    c ∈ chapterCharacters e (d.almanac.chapterEntries files) := by
  obtain ⟨s, hs, rfl, -, hc⟩ := hcloses.ended
  rw [found_of_mem_steps h hx] at hs
  exact Almanac.character_of_current hs hc

/-- What a cycle of a run found ended, a later one does, where it finds the event with chapters. -/
theorem ended_of_mem_steps (h : Orderly files (os ++ [o])) {x : Daemon × Occasion}
    (hx : x ∈ d.steps os) {s₁ s : Snapshot} (hs₁ : x.1.found x.2 = .ok (some s₁))
    (hs : (d.after os).found o = .ok (some s)) (hid : s.eventId = s₁.eventId)
    (hkind : s.kind.hasChapters = true) (hc : ⟨c, .ended⟩ ∈ s₁.chapters) :
    ⟨c, .ended⟩ ∈ s.chapters := by
  have hnow : x.2.now ≤ o.now :=
    (List.pairwise_append.1 h.clock).2.2 _ (occasion_of_mem_steps hx) o (List.mem_singleton_self o)
  have hlast := found_of_mem_steps h.files_eq (last_mem_steps d os o)
  rw [found_of_mem_steps (fun o' ho' => h.files_eq o' (List.mem_append_left _ ho')) hx] at hs₁
  exact Almanac.ended_of_current hs₁ (hlast.symm.trans hs) hid hnow hkind hc

/-- A chapter that a cycle closed has ended in every snapshot that a later cycle finds of its event,
as far as that shows chapters. -/
theorem HasClosed.ended (h : Orderly files (os ++ [o])) (hclosed : d.HasClosed os e c)
    {s : Snapshot} (hs : (d.after os).found o = .ok (some s)) (hid : s.eventId = e)
    {p : ChapterPhase} (hp : p ∈ s.chapters) (hpc : p.character = c) : p.phase = .ended := by
  obtain ⟨x, hx, hcloses⟩ := hclosed
  obtain ⟨s₁, hs₁, hid₁, -, hc⟩ := hcloses.ended
  have hkind : s.kind.hasChapters = true := by
    cases hkind : s.kind.hasChapters with
    | true => rfl
    | false =>
        rw [Almanac.chapters_of_current hs, hkind] at hp
        cases hp
  have hended := ended_of_mem_steps h hx hs₁ hs (hid.trans hid₁.symm) hkind hc
  exact congrArg ChapterPhase.phase
    ((Almanac.isAscending_of_current hs).eq_of_character hp hended hpc)

theorem HasClosed.character_ne (h : Orderly files (os ++ [o])) (hclosed : d.HasClosed os e c)
    {summary : RecordSummary} (hsummary : ((d.after os).meet o).outcome.summary? = some summary)
    (hfollowed : ((d.after os).meet o).daemon.followed = some e) : summary.character ≠ some c := by
  obtain ⟨r, rfl⟩ := exists_written hsummary
  obtain rfl := Option.some.inj (r.followed_eq.symm.trans hfollowed)
  rw [r.character_eq]
  have hmarked := r.isChapterEnded_of_isFinal hclosed.isFinal
  exact Tracker.chapterOf_ne_of_isChapterEnded r.task_eq hmarked fun p hp =>
    hclosed.ended h r.found_eq r.eventId_eq hp

end Orderly

def skipsMain (eventId : Int) (x : Daemon × Occasion) : Bool :=
  match (x.1.meet x.2).outcome with
  | .chapterFinalized _ _ => (x.1.meet x.2).daemon.followed = some eventId
  | _ => false

theorem skipsMain_iff {e : Int} {x : Daemon × Occasion} :
    skipsMain e x = true ↔ ∃ c, x.1.ClosesChapter x.2 e c := by
  unfold skipsMain ClosesChapter
  cases (x.1.meet x.2).outcome <;> simp

theorem Written.task_ne {d : Daemon} {o : Occasion} (r : d.Written o)
    (h : skipsMain r.tracker.eventId (d, o) = false) (c : Int) : r.task ≠ .closeChapter c := by
  intro htask
  have hskips : skipsMain r.tracker.eventId (d, o) = true :=
    skipsMain_iff.2 ⟨c, r.closesChapter htask⟩
  rw [h] at hskips
  cases hskips

/-- Along every run of a daemon, on whatever occasions:

* a cycle that tells of the last rows of a chapter is the only one to do so; it finds the event in
  its midst and the chapter ended, all smaller characters whose chapters have ended were marked at
  first or closed by cycles before, and no main board gets rows;
* any other cycle that writes in the midst of the event has a row on the main board for each of the
  best hundred;
* while the calendars stay and the clock does not go back, a chapter once closed is not the one
  written by any later cycle of its event, and at most as many cycles leave out the main board as
  the calendar has chapters of the event. -/
theorem chapters_close_once (d : Daemon) (os : List Occasion) (o : Occasion) (e c : Int) :
    ((d.after os).ClosesChapter o e c →
      ¬ d.HasClosed os e c
        ∧ (∃ s, (d.after os).found o = .ok (some s) ∧ s.eventId = e ∧ s.phase = .ongoing
          ∧ ⟨c, .ended⟩ ∈ s.chapters
          ∧ ∀ c' < c, ⟨c', .ended⟩ ∈ s.chapters → d.HasMarked e c' ∨ d.HasClosed os e c')
        ∧ (∀ summary, ((d.after os).meet o).outcome.summary? = some summary →
          summary.rankings = 0)
        ∧ ∀ e', ((d.after os).meet o).sink.store.mainRows e' = o.sink.store.mainRows e')
    ∧ (∀ s summary, (d.after os).found o = .ok (some s) → s.eventId = e → s.phase = .ongoing →
      ((d.after os).meet o).outcome.summary? = some summary →
      skipsMain e (d.after os, o) = false →
        ∃ t top, ((d.after os).meet o).daemon.tracker = some t ∧ o.feed t.topFetch = .ok top
          ∧ ∀ p ∈ top.standings, ∃ row ∈ ((d.after os).meet o).sink.store.mainRows e,
            row.timestamp = summary.recordedAt ∧ row.userId = p.userId)
    ∧ ∀ files, Orderly files (os ++ [o]) →
      (d.HasClosed os e c → ∀ summary, ((d.after os).meet o).outcome.summary? = some summary →
        ((d.after os).meet o).daemon.followed = some e → summary.character ≠ some c)
      ∧ (d.steps (os ++ [o])).countP (skipsMain e)
        ≤ (chapterCharacters e (d.almanac.chapterEntries files)).card := by
  refine ⟨fun hcloses => ?_, fun s summary hs hid hphase hsummary hskips => ?_,
    fun files hfiles => ⟨fun hclosed summary => hclosed.character_ne hfiles, ?_⟩⟩
  · obtain ⟨s, hs, hid, hphase, hc⟩ := hcloses.ended
    refine ⟨fun hclosed => hcloses.not_isFinal hclosed.isFinal, ⟨s, hs, hid, hphase, hc, ?_⟩,
      fun summary hsummary => (hcloses.mainRows summary hsummary).1, ?_⟩
    · intro c' hlt hc'
      exact hasMarked_after (hcloses.hasMarked_of_lt hs hc' hlt)
    · obtain ⟨summary, hout⟩ := hcloses.1
      exact (hcloses.mainRows summary (by rw [hout]; rfl)).2
  · obtain ⟨r, rfl⟩ := exists_written hsummary
    obtain rfl := r.snapshot_eq hs
    obtain rfl := r.eventId_eq.symm.trans hid
    refine ⟨_, r.top, r.tracker_eq, ?_, fun p hp => r.mainRows (r.task_ne hskips) hp⟩
    simpa [Tracker.topFetch, Tracker.committed] using r.top_eq
  · refine countP_le_card (e := e) fun x hx hskips => ?_
    obtain ⟨c, hcloses⟩ := skipsMain_iff.1 hskips
    exact ⟨c, hcloses.mem_chapterCharacters hfiles.files_eq hx, hcloses⟩

/-- The calendars of an event with two chapters that end in its midst. -/
def twoChapters : CalendarFiles where
  events := some (Bytes.ofText "[[1,\"world_bloom\",0,90000,99000,\"e\"]]")
  chapters := some (Bytes.ofText "[[1,5,0,1000,2000],[1,7,0,1000,2000]]")

/-- A cycle after the end of both chapters. -/
def chaptersEnded (now : Int) : Occasion where
  files := twoChapters
  feed := fun _ => .ok
    { standings := [⟨"u", 1, 60, "U", none, none⟩]
      chapters := [⟨5, [⟨"u", 1, 60, "U", none, some 5⟩]⟩, ⟨7, [⟨"v", 1, 50, "V", none, some 7⟩]⟩] }
  sink := ⟨{}, .empty 60⟩
  now := now

/-- The cycle after the one that closed the first of them. -/
def secondEnded : Occasion :=
  { chaptersEnded 4000 with sink := ((idle .jp).meet (chaptersEnded 3000)).sink }

/-- Two chapters that have ended are closed one after the other. -/
theorem chapters_close_once_two :
    Orderly twoChapters [chaptersEnded 3000, secondEnded]
      ∧ (idle .jp).HasClosed [chaptersEnded 3000] 1 5
      ∧ ((idle .jp).after [chaptersEnded 3000]).ClosesChapter secondEnded 1 7
      ∧ ¬ (idle .jp).HasClosed [chaptersEnded 3000] 1 7
      ∧ (∀ e, (((idle .jp).after [chaptersEnded 3000]).meet secondEnded).sink.store.mainRows e
        = secondEnded.sink.store.mainRows e)
      ∧ ((idle .jp).steps [chaptersEnded 3000, secondEnded]).countP (skipsMain 1)
        ≤ (chapterCharacters 1 ((idle .jp).almanac.chapterEntries twoChapters)).card := by
  have horderly : Orderly twoChapters ([chaptersEnded 3000] ++ [secondEnded]) := by
    refine ⟨?_, by simp [chaptersEnded, secondEnded]⟩
    intro o ho
    simp only [List.cons_append, List.nil_append, List.mem_cons, List.not_mem_nil, or_false] at ho
    rcases ho with rfl | rfl <;> rfl
  have hfirst : (idle .jp).ClosesChapter (chaptersEnded 3000) 1 5 :=
    ⟨⟨⟨3, 0, 1, some 5⟩, by decide +kernel⟩, by decide +kernel⟩
  have hsecond : ((idle .jp).after [chaptersEnded 3000]).ClosesChapter secondEnded 1 7 :=
    ⟨⟨⟨4, 0, 1, some 7⟩, by decide +kernel⟩, by decide +kernel⟩
  obtain ⟨honce, -, hfixed⟩ := chapters_close_once (idle .jp) [chaptersEnded 3000] secondEnded 1 7
  obtain ⟨hnot, -, -, hmain⟩ := honce hsecond
  exact ⟨horderly, ⟨_, List.mem_cons_self, hfirst⟩, hsecond, hnot, hmain,
    (hfixed twoChapters horderly).2⟩

end Daemon

end RankLedger
