import RankLedger.Proofs.Ranking.Shown
import RankLedger.Proofs.Tracking.Chapters
import RankLedger.Proofs.Tracking.Recording

set_option autoImplicit false

/-! # Rows of chapters, from payload to table

The rows of all chapters of an event share a table, so a row has to tell which chapter it is of. It
does so from the payload on: what a payload shows of a chapter belongs to it, what is merged of two
payloads does, and so do the rows written. `Tracker.record_of_payloads` says this of a recording.
For the cycle that closes a chapter, `Daemon.closed_chapter_has_rows` says which items have a row
for good: those of the block that is shown, and no others. -/

namespace RankLedger

namespace BoardViews

variable {v : BoardViews} {l : BorderLedger} {p : Standing}

theorem mem_of_mem_merged (hp : p ∈ v.merged l) : p ∈ v.top ∨ p ∈ v.border := by
  unfold merged at hp
  split at hp
  · exact (List.mem_append.1 hp).imp_right List.mem_of_mem_filter
  · exact Or.inl hp

/-- The best hundred are merged, changed border or not. -/
theorem mem_merged (hp : p ∈ v.top) : p ∈ v.merged l := by
  unfold merged
  split
  · exact List.mem_append_left _ hp
  · exact hp

end BoardViews

namespace Tracker

/-! ## A recording -/

/-- What a recording does about the chapters of a store. -/
structure WritesChapter (t : Tracker) (top border : Board) (summary : RecordSummary)
    (s s' : Store) : Prop where
  /-- All that is merged belongs to the chapter whose turn it is. -/
  carried : ∀ p ∈ t.merged (t.chapterViews top border summary.character),
    p.character.isSome ∧ p.character = summary.character
  /-- None of it is left out, but for players who come twice. -/
  rows : s'.chapterRows t.eventId = offerAll Database.chapterKey (s.chapterRows t.eventId)
    ((firstBy (fun p => (p.userId, p.character))
      (t.merged (t.chapterViews top border summary.character))).map
        (Standing.chapterRow summary.recordedAt))
  count : summary.chapters = (firstBy (fun p => (p.userId, p.character))
    (t.merged (t.chapterViews top border summary.character))).length
  /-- A row that is new belongs to the chapter and the second that are told. -/
  new : ∀ r ∈ s'.chapterRows t.eventId, r ∈ s.chapterRows t.eventId
    ∨ r.character.isSome ∧ r.character = summary.character ∧ r.timestamp = summary.recordedAt
  /-- Where no chapter is told, no row is written. -/
  quiet : summary.character = none →
    summary.chapters = 0 ∧ s'.chapterRows t.eventId = s.chapterRows t.eventId
  others : ∀ e, e ≠ t.eventId → s'.chapterRows e = s.chapterRows e

section Payloads

variable {t : Tracker} {s : Snapshot} {scope : Scope} {now : Int} {top border : Payload}
  {store store' : Store} {w : WriteSummary}

/-- What is merged of a chapter, as two payloads show it, belongs to the chapter. -/
theorem character_of_mem_merged {character : Option Int} {p : Standing}
    (hp : p ∈ t.merged (t.chapterViews top.board border.board character)) :
    p.character.isSome ∧ p.character = character := by
  cases character with
  | none => cases hp
  | some c =>
      have hcharacter : p.character = some c := by
        rcases BoardViews.mem_of_mem_merged hp with htop | hborder
        · exact top.character_of_mem_chapter c htop
        · exact border.character_of_mem_chapter c hborder
      exact ⟨by rw [hcharacter]; rfl, hcharacter⟩

/-- As all that is merged of a chapter has a character, nothing of it is sorted out. -/
theorem filter_chapterMerge (character : Option Int) :
    (t.chapterMerge top.board border.board character).standings.filter (·.character.isSome)
      = t.merged (t.chapterViews top.board border.board character) := by
  rw [chapterMerge_eq]
  exact List.filter_eq_self.2 fun p hp => (character_of_mem_merged hp).1

theorem writesChapter_of_record (hw : store.record t.eventId
      (t.plan s scope now top.board border.board).batch = (.ok w, store')) :
    t.WritesChapter top.board border.board
      ((t.plan s scope now top.board border.board).summary w) store store' := by
  have hcarried : ∀ p ∈ t.merged (t.chapterViews top.board border.board (t.chapterOf s scope)),
      p.character.isSome ∧ p.character = t.chapterOf s scope :=
    fun p hp => character_of_mem_merged hp
  have hrows := Store.chapterRows_record hw
  rw [chapters_plan, filter_chapterMerge] at hrows
  have hcount : ((t.plan s scope now top.board border.board).summary w).chapters =
      (firstBy (fun p => (p.userId, p.character))
        (t.merged (t.chapterViews top.board border.board (t.chapterOf s scope)))).length := by
    rw [← filter_chapterMerge]
    simp [Plan.summary, Store.summary_of_record hw, plan, Batch.project]
  refine ⟨hcarried, hrows, hcount, fun r hr => ?new, fun hnone => ?quiet, fun e he => ?others⟩
  case new =>
    rw [hrows, mem_offerAll] at hr
    rcases hr with hheld | ⟨-, hfind⟩
    · exact Or.inl hheld
    · obtain ⟨p, hp, rfl⟩ := List.mem_map.1 (List.mem_of_find?_eq_some hfind)
      obtain ⟨hsome, hcharacter⟩ := hcarried p (List.mem_of_find?_eq_some (mem_firstBy.1 hp))
      exact Or.inr ⟨hsome, hcharacter, rfl⟩
  case quiet =>
    have hturn : t.chapterOf s scope = none := hnone
    rw [hturn] at hrows hcount
    exact ⟨hcount, hrows⟩
  case others =>
    rw [Store.chapterRows_eq, Store.chapterRows_eq, Store.content_record hw, if_neg he.symm]

/-- Of the chapter whose turn it is, each of the best hundred has a row afterwards. -/
theorem WritesChapter.exists_row {top border : Board} {summary : RecordSummary} {c : Int}
    (h : t.WritesChapter top border summary store store') (hc : summary.character = some c)
    {p : Standing} (hp : p ∈ top.chapter c) :
    ∃ r ∈ store'.chapterRows t.eventId,
      r.character = some c ∧ r.timestamp = summary.recordedAt ∧ r.userId = p.userId := by
  have hmerged : p ∈ t.merged (t.chapterViews top border summary.character) := by
    rw [hc]
    exact BoardViews.mem_merged hp
  obtain ⟨q, hq, hqp⟩ := exists_mem_firstBy (fun p => (p.userId, p.character)) hmerged
  obtain ⟨huser, hcharacter⟩ := Prod.mk.inj hqp
  have hoffered := List.mem_map_of_mem (f := Standing.chapterRow summary.recordedAt) hq
  obtain ⟨r, hr, hkey⟩ :=
    exists_mem_offerAll Database.chapterKey (store.chapterRows t.eventId) hoffered
  rw [← h.rows] at hr
  obtain ⟨htimestamp, hrest⟩ := Prod.mk.inj hkey
  obtain ⟨hruser, hrcharacter⟩ := Prod.mk.inj hrest
  refine ⟨r, hr, ?_, htimestamp, hruser.trans huser⟩
  exact hrcharacter.trans (hcharacter.trans ((h.carried p hmerged).2.trans hc))

end Payloads

/-- Whatever fields two payloads lack, and however their blocks repeat or are marked, what they show
is told by their items:

* an item is shown just if it has a user, a name, a place and a score, in its order and as it is, on
  the main board without a chapter, on a chapter's board with that chapter;
* a chapter's board shows the items of the first block of the chapter that is not marked as
  aggregated, or none.

A recording of the two that fails leaves all tables. One that goes well merges these boards of the
chapter whose turn it is, and writes all that it merges of them as rows of the chapter that it
tells; where it tells of none, it writes no such row. -/
theorem record_of_payloads (t : Tracker) (feed : Feed) (sink : Sink) (s : Snapshot) (scope : Scope)
    (now : Int) (top border : Payload) (htop : feed t.topFetch = .ok top.board)
    (hborder : feed t.borderFetch = .ok border.board) :
    (∀ p ∈ [top, border],
      List.Forall₂ (Item.Shows none) (p.items.filter Item.IsComplete) p.board.standings
      ∧ ∀ c, List.Forall₂ (Item.Shows (some c)) ((p.chapterItems c).filter Item.IsComplete)
        (p.board.chapter c))
    ∧ (∀ f, (t.record feed sink s scope now).outcome = .error f →
      (t.record feed sink s scope now).sink.store.database = sink.store.database)
    ∧ ∀ summary, (t.record feed sink s scope now).outcome = .ok summary →
      summary.recordedAt = now.fdiv 1000
      ∧ summary.character = t.chapterOf s scope
      ∧ t.WritesChapter top.board border.board summary sink.store
        (t.record feed sink s scope now).sink.store := by
  refine ⟨fun p _ => ⟨Item.forall₂_shown none p.items, fun c => ?chapter⟩, ?recording⟩
  case chapter =>
    rw [p.chapter_board]
    exact Item.forall₂_shown (some c) (p.chapterItems c)
  case recording =>
    have hc := t.recordCourse feed sink s scope now
    generalize t.record feed sink s scope now = r at hc ⊢
    cases hc with
    | noTop f hf => exact ⟨fun _ _ => rfl, nofun⟩
    | noBorder top' f htop' hf => exact ⟨fun _ _ => rfl, nofun⟩
    | unwritten top' border' f store htop' hborder' hf =>
        exact ⟨fun _ _ => Store.database_record_of_error hf, nofun⟩
    | written top' border' w store htop' hborder' hw =>
        obtain rfl := Except.ok.inj (htop'.symm.trans htop)
        obtain rfl := Except.ok.inj (hborder'.symm.trans hborder)
        refine ⟨nofun, fun summary hsummary => ?_⟩
        obtain rfl := Except.ok.inj hsummary
        exact ⟨rfl, rfl, writesChapter_of_record hw⟩

/-- A feed that sends two payloads. -/
def payloadFeed (top border : Payload) : Feed := fun q =>
  .ok <| match q.view with
    | .top => top.board
    | .border => border.board

/-- A payload with items that lack a name or a place, and blocks of a chapter that are marked,
without a character, or not the first. -/
def holedTop : Payload where
  items := [⟨some 1, some "U", some 1, some 60, none⟩, ⟨some 2, none, some 2, some 50, none⟩]
  blocks := [⟨some 5, some true, [⟨some 9, some "X", some 1, some 99, none⟩]⟩,
    ⟨none, none, [⟨some 8, some "Y", some 1, some 98, none⟩]⟩,
    ⟨some 5, none, [⟨some 1, some "U", some 1, some 60, some 2⟩,
      ⟨some 3, some "W", none, some 10, none⟩]⟩,
    ⟨some 5, some false, [⟨some 4, some "Z", some 3, some 9, none⟩]⟩]

def holedBorder : Payload where
  items := [⟨some 7, some "V", some 500, some 40, none⟩]
  blocks := [⟨some 5, none, [⟨some 7, some "V", some 500, some 30, none⟩]⟩]

def holedRecording : Recording :=
  bloomTracker.record (payloadFeed holedTop holedBorder) bloomSink bloomSnapshot .full 1000

/-- One block of each payload is merged, and of it the items that have all it takes. -/
theorem record_of_payloads_holed :
    holedRecording.outcome = .ok ⟨1, 2, 2, some 5⟩
      ∧ bloomTracker.WritesChapter holedTop.board holedBorder.board ⟨1, 2, 2, some 5⟩
        bloomSink.store holedRecording.sink.store
      ∧ holedRecording.sink.store.chapterRows 1
        = [⟨1, "1", 60, 1, some 5⟩, ⟨1, "7", 30, 500, some 5⟩] := by
  have hok : holedRecording.outcome = .ok ⟨1, 2, 2, some 5⟩ := by decide +kernel
  obtain ⟨-, -, hwrites⟩ := record_of_payloads bloomTracker (payloadFeed holedTop holedBorder)
    bloomSink bloomSnapshot .full 1000 holedTop holedBorder rfl rfl
  exact ⟨hok, (hwrites _ hok).2.2, by decide +kernel⟩

end Tracker

/-! ## The cycle that closes a chapter -/

namespace Daemon

section Step

variable {d : Daemon} {o : Occasion}

/-- A cycle that writes does about the chapters what a recording does. -/
theorem Written.writesChapter (r : d.Written o) (top border : Payload)
    (htop : o.feed r.tracker.topFetch = .ok top.board)
    (hborder : o.feed r.tracker.borderFetch = .ok border.board) :
    r.tracker.WritesChapter top.board border.board (r.plan.summary r.written) r.store
      (d.meet o).sink.store := by
  have hplan : r.plan = r.tracker.plan r.snapshot r.task.scope o.now top.board border.board := by
    rw [r.plan_eq, Except.ok.inj (r.top_eq.symm.trans htop),
      Except.ok.inj (r.border_eq.symm.trans hborder)]
  have hrecord := r.record_eq
  rw [hplan] at hrecord ⊢
  exact Tracker.writesChapter_of_record hrecord

/-- It is the turn of a chapter that is closed. -/
theorem Written.character_of_closeChapter (r : d.Written o) {c : Int}
    (h : r.task = .closeChapter c) : (r.plan.summary r.written).character = some c := by
  rw [r.character_eq, Tracker.chapterOf_eq_some_iff, h]
  exact ⟨(Tracker.find?_of_closeChapter (h ▸ r.task_eq)).2.1, rfl⟩

end Step

/-- After a cycle that closes a chapter, whatever daemon comes to it: in the block that is shown of
the chapter among the best hundred that the cycle has looked at, each item that has all it takes has
a row of the chapter and of the cycle's second. -/
theorem closed_chapter_has_rows (d : Daemon) (o : Occasion) (c : Int) (summary : RecordSummary)
    (h : (d.meet o).outcome = .chapterFinalized c summary) :
    ∃ t, (d.meet o).daemon.tracker = some t
      ∧ ∀ top border : Payload, o.feed t.topFetch = .ok top.board →
        o.feed t.borderFetch = .ok border.board →
        ∀ item ∈ top.chapterItems c, item.IsComplete →
          ∃ row ∈ (d.meet o).sink.store.chapterRows t.eventId, row.character = some c
            ∧ row.timestamp = o.now.fdiv 1000 ∧ item.userId.map toString = some row.userId := by
  have hout : (d.meet o).outcome = (Task.closeChapter c).outcome summary := h
  obtain ⟨r, -⟩ := exists_written (congrArg CycleOutcome.summary? hout)
  have htask : r.task = .closeChapter c := (Task.outcome_inj (r.outcome_eq.symm.trans hout)).1
  refine ⟨_, r.tracker_eq, fun top border htop hborder item hitem hcomplete => ?_⟩
  -- With its borders committed and the chapter marked, it is a tracker of the same event.
  have hwrites := r.writesChapter top border
    (by simpa [Tracker.topFetch, Tracker.committed] using htop)
    (by simpa [Tracker.borderFetch, Tracker.committed] using hborder)
  obtain ⟨p, hp, hshows⟩ := Item.exists_shown (some c) hitem hcomplete
  rw [← top.chapter_board] at hp
  obtain ⟨row, hrow, hcharacter, htimestamp, huser⟩ :=
    hwrites.exists_row (r.character_of_closeChapter htask) hp
  have hsecond : (r.plan.summary r.written).recordedAt = o.now.fdiv 1000 := by
    rw [r.plan_eq]
    rfl
  refine ⟨row, by simpa [Tracker.committed] using hrow, hcharacter, htimestamp.trans hsecond, ?_⟩
  rw [hshows.user, huser]

/-- A cycle after the end of both chapters that is sent blocks. -/
def closingBlocks (blocks : List ChapterBlock) : Occasion :=
  { chaptersEnded 3000 with feed := Tracker.payloadFeed ⟨[], blocks⟩ ⟨[], []⟩ }

/-- A cycle that is sent a block marked as aggregated before one that is not. -/
def closingShown : Occasion := closingBlocks
  [⟨some 5, some true, []⟩, ⟨some 5, none, [⟨some 1, some "U", some 1, some 60, none⟩]⟩]

/-- A block that is marked as aggregated does not hide the one that comes after it. -/
theorem closed_chapter_has_rows_shown :
    ((idle .jp).meet closingShown).outcome = .chapterFinalized 5 ⟨3, 0, 1, some 5⟩
      ∧ ∃ row ∈ ((idle .jp).meet closingShown).sink.store.chapterRows 1,
        row.character = some 5 ∧ row.timestamp = 3 ∧ row.userId = "1" := by
  have hout : ((idle .jp).meet closingShown).outcome = .chapterFinalized 5 ⟨3, 0, 1, some 5⟩ := by
    decide +kernel
  have hfollowed : ((idle .jp).meet closingShown).daemon.followed = some 1 := by decide +kernel
  obtain ⟨t, ht, hrows⟩ := closed_chapter_has_rows (idle .jp) closingShown 5 ⟨3, 0, 1, some 5⟩ hout
  obtain ⟨row, hrow, hcharacter, htimestamp, huser⟩ := hrows _ _ rfl rfl
    ⟨some 1, some "U", some 1, some 60, none⟩ (by decide) (by decide)
  have hid : t.eventId = 1 := by simpa [followed, ht] using hfollowed
  exact ⟨hout, row, hid ▸ hrow, hcharacter, htimestamp, (Option.some.inj huser).symm⟩

/-- The item of a player is in a block that is marked as aggregated. -/
def markedBlocks : List ChapterBlock :=
  [⟨some 5, some true, [⟨some 1, some "U", some 1, some 60, none⟩]⟩]

/-- The item of a player is in a block that is not the first. -/
def laterBlocks : List ChapterBlock :=
  [⟨some 5, none, []⟩, ⟨some 5, none, [⟨some 1, some "U", some 1, some 60, none⟩]⟩]

/-- A chapter may be closed without any row, though items that have all it takes were sent. -/
theorem closed_chapter_without_rows :
    ((∃ block ∈ markedBlocks, block.character = some 5 ∧ ∃ item ∈ block.items, item.IsComplete)
      ∧ ((idle .jp).meet (closingBlocks markedBlocks)).outcome
        = .chapterFinalized 5 ⟨3, 0, 0, some 5⟩
      ∧ ((idle .jp).meet (closingBlocks markedBlocks)).sink.store.chapterRows 1 = [])
    ∧ (∃ block ∈ laterBlocks, block.character = some 5 ∧ ∃ item ∈ block.items, item.IsComplete)
      ∧ ((idle .jp).meet (closingBlocks laterBlocks)).outcome
        = .chapterFinalized 5 ⟨3, 0, 0, some 5⟩
      ∧ ((idle .jp).meet (closingBlocks laterBlocks)).sink.store.chapterRows 1 = [] := by
  decide +kernel

end Daemon

end RankLedger
