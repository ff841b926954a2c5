import RankLedger.Proofs.Calendar.Live
import RankLedger.Proofs.Tracking.Chapters

set_option autoImplicit false

/-! # What becomes of the last rows of chapters

A chapter that has ended by the close of its event is written as ended by a cycle of its own before,
or by the cycle that closes the event, which takes one chapter along: the first that is ongoing, or
has ended without a cycle of its own. As chapters are closed one in a cycle, smaller characters
first and only in the midst of the event, a chapter may miss both; it does not if there were cycles
enough after its end. -/

namespace RankLedger

namespace Tracker

section Task

variable {t : Tracker} {s : Snapshot} {c : Int} {task : Task}

/-- In the midst of an event, a chapter that has ended without its last rows has them written, or
one with a smaller character does. -/
theorem exists_closeChapter (htask : t.task s = .ok task) (hphase : s.phase = .ongoing)
    (hkind : t.kind.hasChapters = true) (hasc : ChapterPhase.IsAscending s.chapters)
    (hc : ⟨c, .ended⟩ ∈ s.chapters) (hopen : t.isChapterEnded c = false) :
    ∃ c', c' ≤ c ∧ task = .closeChapter c' := by
  have hawaits : t.awaitsFinal ⟨c, .ended⟩ = true := awaitsFinal_iff.2 ⟨rfl, hopen⟩
  rcases task_cases htask with ⟨hended, -⟩ | ⟨-, htask'⟩
  · rw [hphase] at hended
    cases hended
  · rw [hkind, if_pos rfl] at htask'
    unfold chapterToFinalize at htask'
    cases hfind : s.chapters.find? t.awaitsFinal with
    | none => exact absurd hawaits (List.find?_eq_none.1 hfind _ hc)
    | some p =>
        rw [hfind] at htask'
        refine ⟨p.character, ?_, htask'⟩
        by_contra hlt
        have hfirst := hasc.not_of_find? hfind hc (Int.not_le.1 hlt)
        rw [hawaits] at hfirst
        cases hfirst

/-- A chapter that has ended has a turn in the midst of its event only to be closed. -/
theorem closeChapter_of_ended (htask : t.task s = .ok task) (hne : task ≠ .closeEvent)
    (hasc : ChapterPhase.IsAscending s.chapters) (hc : ⟨c, .ended⟩ ∈ s.chapters)
    (hturn : t.chapterOf s task.scope = some c) : task = .closeChapter c := by
  unfold chapterOf at hturn
  split at hturn
  · rename_i hkind
    cases task with
    | closeEvent => exact absurd rfl hne
    | closeChapter character => exact congrArg Task.closeChapter (Option.some.inj hturn)
    | keepUp =>
        obtain ⟨p, hfind, rfl⟩ := Option.map_eq_some_iff.1 hturn
        have hp := hasc.eq_of_character hc (List.mem_of_find?_eq_some hfind) rfl
        rcases isOpenChapter_iff.1 (List.find?_some hfind) with hphase | hawaits
        · rw [← hp] at hphase
          cases hphase
        · -- Such a chapter would have been closed instead.
          obtain ⟨-, hopen⟩ := awaitsFinal_iff.1 hawaits
          rcases task_cases htask with ⟨-, htask'⟩ | ⟨hphase, -⟩
          · cases htask'
          · obtain ⟨c', -, htask'⟩ := exists_closeChapter htask hphase hkind hasc hc hopen
            cases htask'
  · cases hturn

theorem chapterToRecord_eq_iff (hasc : ChapterPhase.IsAscending s.chapters) {p : ChapterPhase}
    (hp : p ∈ s.chapters) :
    t.chapterToRecord s = some p.character ↔ t.isOpenChapter p = true
      ∧ ∀ q ∈ s.chapters, q.character < p.character → t.isOpenChapter q = false := by
  rw [← hasc.find?_eq_some_iff hp, chapterToRecord, Option.map_eq_some_iff]
  constructor
  · rintro ⟨q, hfind, hqp⟩
    rw [hfind, hasc.eq_of_character (List.mem_of_find?_eq_some hfind) hp hqp]
  · intro hfind
    exact ⟨p, hfind, rfl⟩

end Task

end Tracker

/-- The calendars tell of events with chapters alone. -/
def Almanac.TellsBlooms (a : Almanac) (files : CalendarFiles) : Prop :=
  ∀ now s, (a.current files now).1 = .ok (some s) → s.kind = .worldBloom

/-- The calendars tell of an event only as of one with chapters. -/
def Almanac.TellsBloom (a : Almanac) (files : CalendarFiles) (e : Int) : Prop :=
  ∀ now s, (a.current files now).1 = .ok (some s) → s.eventId = e → s.kind = .worldBloom

theorem Almanac.TellsBlooms.tellsBloom {a : Almanac} {files : CalendarFiles}
    (h : a.TellsBlooms files) (e : Int) : a.TellsBloom files e := by
  intro now s hs _
  exact h now s hs

/-- They tell of events with chapters alone where each event that they name is of that kind. -/
theorem Almanac.tellsBlooms_of_names {a : Almanac} {files : CalendarFiles}
    (h : ∀ entries, (a.events.load files.events).1 = .ok entries → ∀ v ∈ entries, ∀ event,
      CalendarEvent.ofValue? v = some event → event.kindName = EventKind.worldBloom.name) :
    a.TellsBlooms files := by
  intro now s hs
  obtain ⟨entries, e, remaining, hload, hfirst, -, rfl⟩ := exists_first_of_current hs
  obtain ⟨v, hv, hve⟩ := List.exists_of_findSome?_eq_some hfirst
  obtain ⟨htells, -⟩ := LiveEntry.tells_of_ofValue? hve
  have hknown := htells.known
  rw [h entries hload v hv e.event htells.reads, EventKind.ofName?_name] at hknown
  exact (Option.some.inj hknown).symm

namespace Daemon

/-- The cycle writes a chapter of an event that it finds ended. -/
def WritesEnded (d : Daemon) (o : Occasion) (eventId character : Int) : Prop :=
  ∃ s summary, d.found o = .ok (some s) ∧ s.eventId = eventId ∧ ⟨character, .ended⟩ ∈ s.chapters
    ∧ (d.meet o).outcome.summary? = some summary ∧ summary.character = some character

/-- The cycle writes in the midst of an event, and finds a chapter of it ended. -/
def findsEnded (eventId character : Int) (x : Daemon × Occasion) : Bool :=
  match x.1.found x.2 with
  | .ok (some s) =>
      s.eventId = eventId && s.phase = .ongoing && s.chapters.contains ⟨character, .ended⟩
        && (x.1.meet x.2).outcome.summary?.isSome
  | _ => false

/-! ## One cycle -/

section Step

variable {d : Daemon} {o : Occasion} {e c : Int}

theorem Poised.hasChapters {s : Snapshot} {t : Tracker} {store : Store} (hp : d.Poised o s t store)
    (hid : t.eventId = e)
    (ht : ∀ t, d.tracker = some t → t.eventId = e → t.kind.hasChapters = true)
    (hs : s.eventId = e → s.kind.hasChapters = true) : t.kind.hasChapters = true := by
  cases hp with
  | kept t htracker hle => exact ht t htracker hid
  | installed store hnews hmade => exact hs hid

theorem exists_written_of_findsEnded (h : findsEnded e c (d, o) = true) :
    ∃ r : d.Written o, r.tracker.eventId = e ∧ r.snapshot.phase = .ongoing
      ∧ ⟨c, .ended⟩ ∈ r.snapshot.chapters := by
  unfold findsEnded at h
  split at h
  · rename_i s hs
    simp only [Bool.and_eq_true, decide_eq_true_eq, List.contains_iff_mem] at h
    obtain ⟨⟨⟨rfl, hphase⟩, hc⟩, hwritten⟩ := h
    obtain ⟨summary, hsummary⟩ := Option.isSome_iff_exists.1 hwritten
    obtain ⟨r, -⟩ := exists_written hsummary
    obtain rfl := r.snapshot_eq hs
    exact ⟨r, r.eventId_eq.symm, hphase, hc⟩
  · cases h

theorem ClosesChapter.writesEnded (h : d.ClosesChapter o e c) : d.WritesEnded o e c := by
  obtain ⟨r, htask, rfl⟩ := h.exists_written
  obtain ⟨-, hkind, hfind⟩ := Tracker.find?_of_closeChapter (htask ▸ r.task_eq)
  refine ⟨r.snapshot, _, r.found_eq, r.eventId_eq, List.mem_of_find?_eq_some hfind, r.summary?_eq,
    ?_⟩
  rw [r.character_eq, htask, Task.scope, Tracker.chapterOf, if_pos hkind]

theorem WritesEnded.closes (h : d.WritesEnded o e c) : d.Closes o e ∨ d.ClosesChapter o e c := by
  obtain ⟨s, summary, hs, rfl, hc, hsummary, hcharacter⟩ := h
  obtain ⟨r, rfl⟩ := exists_written hsummary
  obtain rfl := r.snapshot_eq hs
  rw [r.eventId_eq]
  by_cases htask : r.task = .closeEvent
  · refine Or.inl ⟨⟨r.plan.summary r.written, ?_⟩, r.followed_eq⟩
    rw [r.outcome_eq, htask]
    rfl
  · rw [r.character_eq] at hcharacter
    exact Or.inr (r.closesChapter (Tracker.closeChapter_of_ended r.task_eq htask
      (Almanac.isAscending_of_current hs) hc hcharacter))

theorem Closes.exists_written (h : d.Closes o e) :
    ∃ r : d.Written o, r.task = .closeEvent ∧ r.tracker.eventId = e := by
  obtain ⟨⟨summary, hout⟩, hfollowed⟩ := h
  exact exists_written_of_outcome .closeEvent hout hfollowed

end Step

/-! ## Whole runs -/

section Run

variable {d : Daemon} {e c : Int} {os : List Occasion} {o : Occasion}

theorem HasClosed.mono {os' : List Occasion} (h : d.HasClosed os e c) :
    d.HasClosed (os ++ os') e c := by
  obtain ⟨x, hx, hcloses⟩ := h
  exact ⟨x, by rw [steps_append]; exact List.mem_append_left _ hx, hcloses⟩

theorem Closes.not_closes (h : (d.after os).Closes o e) {x : Daemon × Occasion}
    (hx : x ∈ d.steps os) : ¬ x.1.Closes x.2 e := by
  intro hcloses
  obtain ⟨os₁, os₂, rfl, hd⟩ := mem_steps_iff.1 hx
  refine h.meetsEnd.2 ?_
  rw [after_append, after_cons, ← hd]
  exact isPast_after hcloses.isPast_meet os₂

theorem hasChapters_of_found {files : CalendarFiles} (h : Orderly files (os ++ [o]))
    (hbloom : d.almanac.TellsBloom files e) {s : Snapshot}
    (hs : (d.after os).found o = .ok (some s)) (hid : s.eventId = e) :
    s.kind.hasChapters = true := by
  have hfound := found_of_mem_steps h.files_eq (last_mem_steps d os o)
  rw [hbloom o.now s (hfound.symm.trans hs) hid]
  rfl

section Idle

variable (hd : d.tracker = none)
include hd

/-- The tracker of a run knows the chapters that cycles before have closed. -/
theorem Written.isChapterEnded_iff (r : (d.after os).Written o) :
    r.tracker.isChapterEnded c = true ↔ d.HasClosed os r.tracker.eventId c := by
  constructor
  · intro hc
    rcases hasMarked_after (hasMarked_of_poised r.poised hc) with ⟨t, ht, -⟩ | hclosed
    · rw [hd] at ht
      cases ht
    · exact hclosed
  · intro hclosed
    exact r.isChapterEnded_of_isFinal hclosed.isFinal

/-- A chapter is open for the tracker of a run while it is ongoing, and once it has ended until a
cycle closes it. -/
theorem Written.isOpenChapter_iff (r : (d.after os).Written o) {p : ChapterPhase} :
    r.tracker.isOpenChapter p = true ↔ p.phase = .ongoing
      ∨ p.phase = .ended ∧ ¬ d.HasClosed os r.tracker.eventId p.character := by
  rw [Tracker.isOpenChapter_iff, Tracker.awaitsFinal_iff, ← r.isChapterEnded_iff hd,
    Bool.not_eq_true]

theorem Closes.writesEnded_iff (h : (d.after os).Closes o e) {s : Snapshot}
    (hs : (d.after os).found o = .ok (some s)) (hc : ⟨c, .ended⟩ ∈ s.chapters)
    (hkind : ∀ r : (d.after os).Written o, r.tracker.eventId = e →
      r.tracker.kind.hasChapters = true) :
    (d.after os).WritesEnded o e c ↔ ¬ d.HasClosed os e c ∧ ∀ p ∈ s.chapters, p.character < c →
      ¬ (p.phase = .ongoing ∨ p.phase = .ended ∧ ¬ d.HasClosed os e p.character) := by
  obtain ⟨r, htask, rfl⟩ := h.exists_written
  obtain rfl := r.snapshot_eq hs
  have hturn : r.tracker.chapterOf r.snapshot r.task.scope =
      r.tracker.chapterToRecord r.snapshot := by
    rw [htask, Task.scope, Tracker.chapterOf, if_pos (hkind r rfl)]
  have hwrites : (d.after os).WritesEnded o r.tracker.eventId c ↔
      r.tracker.chapterToRecord r.snapshot = some c := by
    rw [← hturn, ← r.character_eq]
    constructor
    · rintro ⟨s, summary, -, -, -, hsummary, hcharacter⟩
      obtain rfl := Option.some.inj (r.summary?_eq.symm.trans hsummary)
      exact hcharacter
    · intro hcharacter
      exact ⟨r.snapshot, _, r.found_eq, r.eventId_eq, hc, r.summary?_eq, hcharacter⟩
  have hasc := Almanac.isAscending_of_current hs
  rw [hwrites, Tracker.chapterToRecord_eq_iff hasc hc, r.isOpenChapter_iff hd]
  simp only [← Bool.not_eq_true, r.isOpenChapter_iff hd, reduceCtorEq, false_or, true_and]

section Bloom

variable {files : CalendarFiles} (h : Orderly files (os ++ [o]))
  (hbloom : d.almanac.TellsBloom files e)
include h hbloom

/-- Over calendars that tell of an event only as of one with chapters, it is followed as such. -/
theorem Written.hasChapters (r : (d.after os).Written o) (hid : r.tracker.eventId = e) :
    r.tracker.kind.hasChapters = true := by
  refine r.poised.hasChapters hid ?_ (hasChapters_of_found h hbloom r.found_eq)
  clear hid r
  induction os using List.reverseRecOn generalizing o with
  | nil =>
      intro t ht
      rw [after_nil, hd] at ht
      cases ht
  | append_singleton os o' ih =>
      have h' : Orderly files (os ++ [o']) := h.init
      intro u hu hid
      rw [after_append] at hu
      rcases tracker_cases (d.after os) o' with hsame | ⟨s, hs, -, hnew⟩ | ⟨⟨r⟩⟩
      · exact ih h' u (hsame.symm.trans hu) hid
      · obtain rfl := Option.some.inj (hnew.symm.trans hu)
        exact hasChapters_of_found h' hbloom hs hid
      · obtain rfl := Option.some.inj (r.tracker_eq.symm.trans hu)
        rw [Task.mark_eventId] at hid
        rw [Task.mark_kind]
        exact r.poised.hasChapters hid (ih h') (hasChapters_of_found h' hbloom r.found_eq)

/-- A cycle that writes in the midst of an event and finds a chapter ended that is still open closes
that chapter, or one with a smaller character. -/
theorem exists_closesChapter (hopen : ¬ d.HasClosed os e c)
    (hfinds : findsEnded e c (d.after os, o) = true) :
    ∃ c', c' ≤ c ∧ (d.after os).ClosesChapter o e c' := by
  obtain ⟨r, rfl, hphase, hc⟩ := exists_written_of_findsEnded hfinds
  have hmarked : r.tracker.isChapterEnded c = false := by
    rwa [← Bool.not_eq_true, r.isChapterEnded_iff hd]
  obtain ⟨c', hle, htask⟩ := Tracker.exists_closeChapter r.task_eq hphase
    (r.hasChapters hd h hbloom rfl) (Almanac.isAscending_of_current r.found_eq) hc hmarked
  exact ⟨c', hle, r.closesChapter htask⟩

/-- A chapter that more cycles that wrote in the midst of the event found ended than there are
chapters before it that have ended was closed by one of them. -/
theorem hasClosed_of_countP_lt {s : Snapshot} (hs : (d.after os).found o = .ok (some s))
    (hid : s.eventId = e)
    (hcount : s.chapters.countP (fun p => p.phase = .ended && p.character < c)
      < (d.steps os).countP (findsEnded e c)) : d.HasClosed os e c := by
  by_contra hopen
  let before := s.chapters.filter fun p => p.phase = .ended && p.character < c
  -- As the chapter stays open, each of these cycles closes one of the chapters before it.
  have hcloses : ∀ x ∈ d.steps os, findsEnded e c x = true →
      ∃ c' ∈ (before.map (·.character)).toFinset, x.1.ClosesChapter x.2 e c' := by
    rintro ⟨d', o'⟩ hx hfinds
    obtain ⟨os₁, os₂, hos, rfl⟩ := mem_steps_iff.1 hx
    have h₁ : Orderly files (os₁ ++ [o']) := by
      have hsplit : os ++ [o] = (os₁ ++ [o']) ++ (os₂ ++ [o]) := by simp [hos]
      exact (hsplit ▸ h).init
    have hopen₁ : ¬ d.HasClosed os₁ e c := fun hclosed => hopen (hos ▸ hclosed.mono)
    obtain ⟨c', hle, hcloses⟩ := exists_closesChapter hd h₁ hbloom hopen₁ hfinds
    have hne : c' ≠ c := by
      rintro rfl
      exact hopen ⟨_, hx, hcloses⟩
    obtain ⟨s', hs', hid', -, hc'⟩ := hcloses.ended
    have hended := ended_of_mem_steps h hx hs' hs (hid.trans hid'.symm)
      (hasChapters_of_found h hbloom hs hid) hc'
    have hlt : c' < c := by omega
    refine ⟨c', ?_, hcloses⟩
    simp only [before, List.mem_toFinset, List.mem_map, List.mem_filter]
    exact ⟨_, ⟨hended, by simpa using hlt⟩, rfl⟩
  have hle := countP_le_card hcloses
  have hcard := List.toFinset_card_le (before.map (·.character))
  rw [List.length_map, ← List.countP_eq_length_filter] at hcard
  omega

end Bloom

end Idle

end Run

/-- Along every run of a daemon that follows nothing at first, over calendars that stay as they are,
with a clock that does not go back, and for every event of which the calendars tell only as of one
with chapters, whatever they tell of others: a chapter that has ended when its event is closed

* is written as ended by some cycle of the run just if a cycle before has closed it, or no chapter
  before it is ongoing, or has ended without a cycle that closed it;
* has been closed by a cycle before if more cycles that wrote in the midst of the event found it
  ended than there are chapters before it that have ended. -/
theorem ended_chapters_written {d : Daemon} (hd : d.tracker = none) {files : CalendarFiles}
    {os : List Occasion} {o : Occasion} (h : Orderly files (os ++ [o]))
    {e c : Int} (hbloom : d.almanac.TellsBloom files e) {s : Snapshot}
    (hcloses : (d.after os).Closes o e) (hs : (d.after os).found o = .ok (some s))
    (hc : ⟨c, .ended⟩ ∈ s.chapters) :
    ((∃ x ∈ d.steps (os ++ [o]), x.1.WritesEnded x.2 e c) ↔
      d.HasClosed os e c ∨ ∀ p ∈ s.chapters, p.character < c →
        ¬ (p.phase = .ongoing ∨ p.phase = .ended ∧ ¬ d.HasClosed os e p.character))
    ∧ (s.chapters.countP (fun p => p.phase = .ended && p.character < c)
        < (d.steps os).countP (findsEnded e c) → d.HasClosed os e c) := by
  have hlast := hcloses.writesEnded_iff hd hs hc fun r => r.hasChapters hd h hbloom
  refine ⟨⟨?_, ?_⟩, ?_⟩
  · rintro ⟨x, hx, hwrites⟩
    rw [steps_append, List.mem_append] at hx
    rcases hx with hx | hx
    · -- No cycle before closes the event, so this one closes the chapter.
      rcases hwrites.closes with hevent | hchapter
      · exact absurd hevent (hcloses.not_closes hx)
      · exact Or.inl ⟨x, hx, hchapter⟩
    · obtain rfl := List.mem_singleton.1 hx
      exact Or.inr (hlast.1 hwrites).2
  · intro hturn
    rw [steps_append]
    by_cases hclosed : d.HasClosed os e c
    · obtain ⟨x, hx, hchapter⟩ := hclosed
      exact ⟨x, List.mem_append_left _ hx, hchapter.writesEnded⟩
    · exact ⟨(d.after os, o), List.mem_append_right _ (List.mem_singleton_self _),
        hlast.2 ⟨hclosed, hturn.resolve_left hclosed⟩⟩
  · obtain ⟨r, -, hid⟩ := hcloses.exists_written
    obtain rfl := r.snapshot_eq hs
    exact hasClosed_of_countP_lt hd h hbloom hs (r.eventId_eq.trans hid)

/-! ### Two chapters that end while the results settle -/

/-- The calendars of an event with two chapters that end after its scores are frozen. -/
def lateChapters : CalendarFiles where
  events := some (Bytes.ofText "[[1,\"world_bloom\",0,10000,20000,\"e\"]]")
  chapters := some (Bytes.ofText "[[1,5,0,9000,12000],[1,7,0,9000,12000]]")

def lateOccasion (sink : Sink) (now : Int) : Occasion where
  files := lateChapters
  feed := fun _ => .ok
    { standings := [⟨"u", 1, 60, "U", none, none⟩]
      chapters := [⟨5, [⟨"u", 1, 60, "U", none, some 5⟩]⟩, ⟨7, [⟨"v", 1, 50, "V", none, some 7⟩]⟩] }
  sink := sink
  now := now

def beforeEnd : Occasion := lateOccasion ⟨{}, .empty 60⟩ 5000

def afterEnd : Occasion := lateOccasion ((idle .jp).meet beforeEnd).sink 25000

theorem orderly_late : Orderly lateChapters ([beforeEnd] ++ [afterEnd]) := by
  refine ⟨?_, by simp [beforeEnd, afterEnd, lateOccasion]⟩
  intro o ho
  simp only [List.cons_append, List.nil_append, List.mem_cons, List.not_mem_nil, or_false] at ho
  rcases ho with rfl | rfl <;> rfl

theorem tellsBlooms_late : (idle .jp).almanac.TellsBlooms lateChapters := by
  refine Almanac.tellsBlooms_of_names fun entries hentries v hv event hevent => ?_
  have hnames : (((idle .jp).almanac.events.load lateChapters.events).1.toOption.getD []).all
      (fun v => (CalendarEvent.ofValue? v).all (·.kindName = EventKind.worldBloom.name)) = true := by
    decide +kernel
  rw [hentries] at hnames
  have hall := List.all_eq_true.1 hnames v hv
  rw [hevent] at hall
  simpa using hall

theorem beforeEnd_outcome : ((idle .jp).meet beforeEnd).outcome = .recorded ⟨5, 1, 1, some 5⟩ := by
  decide +kernel

theorem afterEnd_outcome :
    (((idle .jp).after [beforeEnd]).meet afterEnd).outcome = .eventFinalized ⟨25, 1, 1, some 5⟩ := by
  decide +kernel

theorem found_afterEnd : ∃ s, ((idle .jp).after [beforeEnd]).found afterEnd = .ok (some s)
    ∧ s.eventId = 1 ∧ s.chapters = [⟨5, .ended⟩, ⟨7, .ended⟩] := by
  have hchapters : (((idle .jp).after [beforeEnd]).found afterEnd).toOption.join.map
      (fun s => (s.eventId, s.chapters)) = some (1, [⟨5, .ended⟩, ⟨7, .ended⟩]) := by
    decide +kernel
  obtain ⟨s, hs, hcs⟩ := Option.map_eq_some_iff.1 hchapters
  refine ⟨s, ?_, Prod.mk.inj hcs⟩
  cases hfound : ((idle .jp).after [beforeEnd]).found afterEnd with
  | error why =>
      rw [hfound] at hs
      cases hs
  | ok found =>
      rw [hfound] at hs
      rw [show found = some s from hs]

theorem closes_afterEnd : ((idle .jp).after [beforeEnd]).Closes afterEnd 1 := by
  refine ⟨⟨_, afterEnd_outcome⟩, ?_⟩
  obtain ⟨s, hs, hid, -⟩ := found_afterEnd
  have hsummary := congrArg CycleOutcome.summary? afterEnd_outcome
  obtain ⟨r, -⟩ := exists_written hsummary
  obtain rfl := r.snapshot_eq hs
  rw [r.followed_eq, ← r.eventId_eq, hid]

theorem not_hasClosed_beforeEnd (c : Int) : ¬ (idle .jp).HasClosed [beforeEnd] 1 c := by
  rintro ⟨x, hx, ⟨summary, hout⟩, -⟩
  obtain rfl := List.mem_singleton.1 hx
  rw [beforeEnd_outcome] at hout
  cases hout

/-- When the event is closed, the first of the two chapters is written, and the second is not. -/
theorem ended_chapters_written_late :
    (idle .jp).tracker = none ∧ Orderly lateChapters ([beforeEnd] ++ [afterEnd])
      ∧ (idle .jp).almanac.TellsBloom lateChapters 1
      ∧ ((idle .jp).after [beforeEnd]).Closes afterEnd 1
      ∧ (∃ x ∈ (idle .jp).steps ([beforeEnd] ++ [afterEnd]), x.1.WritesEnded x.2 1 5)
      ∧ ¬ ∃ x ∈ (idle .jp).steps ([beforeEnd] ++ [afterEnd]), x.1.WritesEnded x.2 1 7 := by
  obtain ⟨s, hs, -, hchapters⟩ := found_afterEnd
  have hbloom := tellsBlooms_late.tellsBloom 1
  have hfive := (ended_chapters_written (d := idle .jp) (c := 5) rfl orderly_late hbloom
    closes_afterEnd hs (by simp [hchapters])).1
  have hseven := (ended_chapters_written (d := idle .jp) (c := 7) rfl orderly_late hbloom
    closes_afterEnd hs (by simp [hchapters])).1
  refine ⟨rfl, orderly_late, hbloom, closes_afterEnd, hfive.2 (Or.inr ?_), fun hwrites => ?_⟩
  · simp [hchapters]
  · rcases hseven.1 hwrites with hclosed | hfirst
    · exact not_hasClosed_beforeEnd 7 hclosed
    · exact hfirst ⟨5, .ended⟩ (by simp [hchapters]) (by decide)
        (Or.inr ⟨rfl, not_hasClosed_beforeEnd 5⟩)

/-- Not every chapter that has ended by the close of its event is written as ended, although every
look at the feed is answered and no cycle fails. -/
theorem ended_chapter_missed :
    ¬ ∀ (d : Daemon) (files : CalendarFiles) (os : List Occasion) (o : Occasion) (e c : Int)
        (s : Snapshot), d.tracker = none → Orderly files (os ++ [o]) →
      d.almanac.TellsBlooms files →
      (∀ x ∈ d.steps (os ++ [o]), (∀ q f, x.2.feed q ≠ .error f)
        ∧ ∀ why, (x.1.meet x.2).outcome ≠ .failed why) →
      (d.after os).Closes o e → (d.after os).found o = .ok (some s) → ⟨c, .ended⟩ ∈ s.chapters →
        ∃ x ∈ d.steps (os ++ [o]), x.1.WritesEnded x.2 e c := by
  intro hclaim
  obtain ⟨s, hs, -, hchapters⟩ := found_afterEnd
  have hsteps : ∀ x ∈ (idle .jp).steps ([beforeEnd] ++ [afterEnd]),
      x = (idle .jp, beforeEnd) ∨ x = ((idle .jp).after [beforeEnd], afterEnd) := by
    intro x hx
    rw [steps_append, List.mem_append] at hx
    exact hx.imp List.mem_singleton.1 List.mem_singleton.1
  have hsmooth : ∀ x ∈ (idle .jp).steps ([beforeEnd] ++ [afterEnd]),
      (∀ q f, x.2.feed q ≠ .error f) ∧ ∀ why, (x.1.meet x.2).outcome ≠ .failed why := by
    intro x hx
    rcases hsteps x hx with rfl | rfl
    · refine ⟨fun q f hf => (nomatch hf), fun why hwhy => ?_⟩
      cases beforeEnd_outcome.symm.trans hwhy
    · refine ⟨fun q f hf => (nomatch hf), fun why hwhy => ?_⟩
      cases afterEnd_outcome.symm.trans hwhy
  obtain ⟨x, hx, s', summary, -, -, -, hsummary, hcharacter⟩ :=
    hclaim (idle .jp) lateChapters [beforeEnd] afterEnd 1 7 s rfl orderly_late tellsBlooms_late
      hsmooth closes_afterEnd hs (by simp [hchapters])
  -- Both cycles write the first chapter.
  rcases hsteps x hx with rfl | rfl
  · rw [beforeEnd_outcome] at hsummary
    obtain rfl := Option.some.inj hsummary
    simp at hcharacter
  · rw [afterEnd_outcome] at hsummary
    obtain rfl := Option.some.inj hsummary
    simp at hcharacter

end Daemon

end RankLedger
