import Mathlib.Data.List.Induction
import Mathlib.Data.List.Nodup
import RankLedger.Proofs.Tracking.Plan

set_option autoImplicit false

/-! # Borders left out as unchanged

A tracker leaves out the border of its main board where places and scores are those that it took in
last. What it took in then is still there: rows are never lost, and the digest that a tracker holds
is that of a border taken in by an earlier cycle whose rows are in the table
(`Desk.shows_of_digest?`). But not all of a border is written when it is taken in: the places that
the best hundred of that cycle settle are not, nor standings of players who come earlier in the same
cycle. -/

namespace RankLedger

/-- What a cycle of a tracker works on, where the feed gives both views. -/
structure Turn where
  snapshot : Snapshot
  scope : Scope
  now : Int
  top : Board
  border : Board

namespace Turn

/-- The feed that gives the two views. -/
def feed (v : Turn) : Feed := fun q =>
  match q.view with
  | .top => .ok v.top
  | .border => .ok v.border

/-- The second that rows are stamped with. -/
def second (v : Turn) : Int := v.now.fdiv 1000

/-- What is merged for the main board where the border is taken in. -/
def merged (v : Turn) : List Standing :=
  v.top.standings ++ BorderLedger.below v.top.standings v.border.standings

/-- A standing of the border counts if the best hundred do not settle its place, and neither they nor
the border before it have its player. -/
theorem find?_merged {v : Turn} {i : Nat} {s : Standing} (hs : v.border.standings[i]? = some s)
    (hrank : s.rank ≠ boundaryRank) (htop : s.rank ∉ v.top.standings.map (·.rank))
    (hfirst : ∀ q ∈ v.top.standings
      ++ BorderLedger.below v.top.standings (v.border.standings.take i), q.userId ≠ s.userId) :
    v.merged.find? (·.userId = s.userId) = some s := by
  obtain ⟨hi, rfl⟩ := List.getElem?_eq_some_iff.1 hs
  have hsplit : v.border.standings = v.border.standings.take i
      ++ v.border.standings[i] :: v.border.standings.drop (i + 1) := by
    rw [← List.drop_eq_getElem_cons hi, List.take_append_drop]
  have hbelow : BorderLedger.below v.top.standings v.border.standings =
      BorderLedger.below v.top.standings (v.border.standings.take i)
        ++ v.border.standings[i]
          :: BorderLedger.below v.top.standings (v.border.standings.drop (i + 1)) := by
    conv_lhs => rw [hsplit]
    unfold BorderLedger.below
    rw [List.filter_append, List.filter_cons_of_pos]
    simpa [hrank] using htop
  unfold merged
  rw [hbelow, ← List.append_assoc, List.find?_append, List.find?_eq_none.2, Option.none_or,
    List.find?_cons_of_pos]
  · simp
  · intro q hq
    simpa using hfirst q hq

end Turn

/-- A tracker, and where it writes. -/
structure Desk where
  tracker : Tracker
  sink : Sink

namespace Desk

def recording (k : Desk) (v : Turn) : Tracker.Recording :=
  k.tracker.record v.feed k.sink v.snapshot v.scope v.now

def next (k : Desk) (v : Turn) : Desk := ⟨(k.recording v).tracker, (k.recording v).sink⟩

def after (k : Desk) (vs : List Turn) : Desk := vs.foldl next k

@[simp] theorem after_nil (k : Desk) : k.after [] = k := rfl

@[simp] theorem after_append (k : Desk) (vs vs' : List Turn) :
    k.after (vs ++ vs') = (k.after vs).after vs' := List.foldl_append

@[simp] theorem after_singleton (k : Desk) (v : Turn) : k.after [v] = k.next v := rfl

def rows (k : Desk) : List RankRow := k.sink.store.mainRows k.tracker.eventId

/-- The digest held for the main board of the event. -/
def digest? (k : Desk) : Option String :=
  k.tracker.borders.digests.get? (Border.mainKey k.tracker.region k.tracker.eventId)

/-- The cycle leaves the border out of the main board, as unchanged. -/
def LeavesOut (k : Desk) (v : Turn) : Prop :=
  v.scope = .full ∧ (k.tracker.mainMerge v.top v.border v.scope).staged = none

/-- The rows that a cycle writes when it takes its border in are there, but for players who had a row
of its second before. -/
def Shows (k : Desk) (held : List RankRow) (v : Turn) : Prop :=
  ∀ s, v.merged.find? (·.userId = s.userId) = some s →
    hasKey Database.mainKey held (v.second, s.userId) = false → s.mainRow v.second ∈ k.rows

/-! ## One cycle -/

section Step

variable (k : Desk) (v : Turn)

/-- A cycle offers rows of its second; it holds another digest for the main board afterwards only if
it has taken its border in. -/
theorem next_cases :
    ∃ new, (∀ row ∈ new, row.timestamp = v.second)
      ∧ (k.next v).rows = offerAll Database.mainKey k.rows new
      ∧ ((k.next v).digest? = k.digest?
        ∨ v.scope = .full ∧ (k.next v).digest? = some (Border.digest v.border.standings)
          ∧ new = (firstBy (·.userId) v.merged).map (Standing.mainRow v.second)) := by
  have hc := k.tracker.recordCourse v.feed k.sink v.snapshot v.scope v.now
  unfold next recording
  generalize k.tracker.record v.feed k.sink v.snapshot v.scope v.now = r at hc ⊢
  cases hc with
  | noTop f hf => cases hf
  | noBorder top f htop hf => cases hf
  | unwritten top border f store htop hborder hf =>
      refine ⟨[], by simp, ?_, Or.inl rfl⟩
      unfold rows Store.mainRows Store.rowsFor
      rw [Store.database_record_of_error hf]
      rfl
  | written top border w store htop hborder hw =>
      obtain rfl : v.top = top := Except.ok.inj htop
      obtain rfl : v.border = border := Except.ok.inj hborder
      refine ⟨(firstBy (·.userId) (k.tracker.mainMerge v.top v.border v.scope).standings).map
        (Standing.mainRow v.second), ?_, ?_, ?_⟩
      · intro row hrow
        obtain ⟨s, -, rfl⟩ := List.mem_map.1 hrow
        rfl
      · have hrows := Store.mainRows_record hw
        rw [Tracker.rankings_plan] at hrows
        exact hrows
      · have hdigest := k.tracker.get?_committed_plan v.snapshot v.scope v.now v.top v.border
        rcases k.tracker.mainMerge_cases v.scope v.top v.border with hnone | ⟨hfull, hmerge⟩
        · rw [hnone] at hdigest
          exact Or.inl hdigest
        · rw [hmerge] at hdigest ⊢
          exact Or.inr ⟨hfull, hdigest.trans (Keyed.get?_put_self _ _ _), rfl⟩

theorem mem_rows_next {row : RankRow} (h : row ∈ k.rows) : row ∈ (k.next v).rows := by
  obtain ⟨new, -, hrows, -⟩ := k.next_cases v
  rw [hrows, mem_offerAll]
  exact Or.inl h

theorem Shows.next {k : Desk} {held : List RankRow} {u : Turn} (h : k.Shows held u) (v : Turn) :
    (k.next v).Shows held u :=
  fun s hs hfree => k.mem_rows_next v (h s hs hfree)

theorem timestamp_next {row : RankRow} (h : row ∈ (k.next v).rows) :
    row ∈ k.rows ∨ row.timestamp = v.second := by
  obtain ⟨new, hnew, hrows, -⟩ := k.next_cases v
  rw [hrows, mem_offerAll] at h
  exact h.imp_right fun ⟨_, hfind⟩ => hnew row (List.mem_of_find?_eq_some hfind)

/-- The digest held for the main board stays, or it is that of the border taken in. Where only the
rows of before are of its second, all that is merged for players who have none is then written. -/
theorem digest?_next {held : List RankRow}
    (hrows : ∀ row ∈ k.rows, row ∈ held ∨ row.timestamp ≠ v.second) :
    (k.next v).digest? = k.digest?
      ∨ v.scope = .full ∧ (k.next v).digest? = some (Border.digest v.border.standings)
        ∧ (k.next v).Shows held v := by
  obtain ⟨new, -, hnext, hdigest⟩ := k.next_cases v
  refine hdigest.imp_right fun ⟨hfull, hheld, hnew⟩ => ⟨hfull, hheld, fun s hs hfree => ?_⟩
  rw [hnext, mem_offerAll]
  refine Or.inr ⟨?_, ?_⟩
  · rw [Bool.eq_false_iff] at hfree ⊢
    intro hkey
    obtain ⟨row, hrow, hrowkey⟩ := List.mem_map.1 (hasKey_iff.1 hkey)
    rcases hrows row hrow with hmem | hsecond
    · exact hfree (hasKey_iff.2 (List.mem_map.2 ⟨row, hmem, hrowkey⟩))
    · exact hsecond (congrArg Prod.fst hrowkey)
  · -- In what is offered each player comes once.
    have hkeys : (new.map Database.mainKey).Nodup := by
      have husers := nodup_firstBy (fun s : Standing => s.userId) v.merged
      have hmap : new.map Database.mainKey =
          ((firstBy (·.userId) v.merged).map (·.userId)).map fun user => (v.second, user) := by
        rw [hnew]
        simp [Database.mainKey, Standing.mainRow]
      rw [hmap]
      exact husers.map fun user user' heq => (Prod.mk.inj heq).2
    refine find?_eq_some_of_nodup hkeys ?_
    rw [hnew]
    exact List.mem_map_of_mem (mem_firstBy.2 hs)

theorem LeavesOut.digest?_eq {k : Desk} {v : Turn} (h : k.LeavesOut v) :
    k.digest? = some (Border.digest v.border.standings) := by
  obtain ⟨hfull, hstaged⟩ := h
  rw [hfull] at hstaged
  unfold Tracker.mainMerge at hstaged
  rcases k.tracker.borders.stage_cases v.top.standings v.border.standings
    (Border.mainKey k.tracker.region k.tracker.eventId) with ⟨hunchanged, -⟩ | ⟨-, heq⟩
  · exact of_decide_eq_true hunchanged
  · rw [heq] at hstaged
    cases hstaged

end Step

/-! ## Whole runs -/

section Run

variable {k : Desk}

/-- The rows after a run are those of before, and rows of its seconds. -/
theorem timestamp_after (vs : List Turn) :
    ∀ row ∈ (k.after vs).rows, row ∈ k.rows ∨ row.timestamp ∈ vs.map Turn.second := by
  induction vs using List.reverseRecOn with
  | nil => exact fun row hrow => Or.inl hrow
  | append_singleton vs v ih =>
      intro row hrow
      rw [after_append, after_singleton] at hrow
      rw [List.map_append, List.mem_append]
      rcases (k.after vs).timestamp_next v hrow with hrow | hsecond
      · exact (ih row hrow).imp_right Or.inl
      · exact Or.inr (Or.inr (by simp [hsecond]))

/-- After cycles at different seconds, the digest held for the main board is that of a border that
one of them took in, and what it wrote then is there. -/
theorem shows_of_digest? (hnew : k.digest? = none) {vs : List Turn}
    (hseconds : (vs.map Turn.second).Nodup) {digest : String}
    (h : (k.after vs).digest? = some digest) :
    ∃ u ∈ vs, u.scope = .full ∧ Border.digest u.border.standings = digest
      ∧ (k.after vs).Shows k.rows u := by
  induction vs using List.reverseRecOn with
  | nil =>
      rw [after_nil, hnew] at h
      cases h
  | append_singleton vs v ih =>
      rw [after_append, after_singleton] at h ⊢
      rw [List.map_append, List.nodup_append] at hseconds
      obtain ⟨hseconds, -, hlast⟩ := hseconds
      -- When the last cycle comes, its second has no rows but those of before the run.
      have hrows : ∀ row ∈ (k.after vs).rows, row ∈ k.rows ∨ row.timestamp ≠ v.second := by
        intro row hrow
        refine (timestamp_after vs row hrow).imp_right fun hmem hsecond => ?_
        exact hlast _ hmem _ (List.mem_singleton_self _) hsecond
      rcases (k.after vs).digest?_next v hrows with hsame | ⟨hfull, hheld, hshows⟩
      · obtain ⟨u, hu, hfull, hdigest, hshows⟩ := ih hseconds (hsame.symm.trans h)
        exact ⟨u, List.mem_append_left _ hu, hfull, hdigest, hshows.next v⟩
      · exact ⟨v, List.mem_append_right _ (List.mem_singleton_self v), hfull,
          Option.some.inj (hheld.symm.trans h), hshows⟩

/-- Along every run of cycles of a new tracker at different seconds, whatever the two views show:
where a cycle leaves its border out as unchanged, an earlier cycle has taken in a border with the
same places and scores, unless the digests of two borders of the run are the same by chance; and
each standing of the border is written with its place and score, if in that earlier cycle

* the best hundred did not settle its place, nor did they or the border before it have the player
  who stood there then;
* that player had no row of that second from before the run. -/
theorem left_out_border_written (hnew : k.tracker.borders = {}) {vs : List Turn} {v : Turn}
    (hseconds : (vs.map Turn.second).Nodup)
    (hdigests : ∀ u ∈ vs,
      Border.digest u.border.standings = Border.digest v.border.standings →
        Border.canonical u.border.standings = Border.canonical v.border.standings)
    (hout : (k.after vs).LeavesOut v) :
    ∃ u ∈ vs, u.scope = .full
      ∧ Border.places u.border.standings = Border.places v.border.standings
      ∧ ∀ (i : Nat) (x : Standing), v.border.standings[i]? = some x →
        ∃ y, u.border.standings[i]? = some y ∧ y.rank = x.rank ∧ y.score = x.score
          ∧ (x.rank ≠ boundaryRank → x.rank ∉ u.top.standings.map (·.rank) →
            (∀ s ∈ u.top.standings
              ++ BorderLedger.below u.top.standings (u.border.standings.take i),
                s.userId ≠ y.userId) →
            (∀ row ∈ k.rows, row.timestamp = u.second → row.userId ≠ y.userId) →
            ∃ row ∈ (k.after (vs ++ [v])).rows, row.timestamp = u.second
              ∧ row.userId = y.userId ∧ row.rank = x.rank ∧ row.score = x.score) := by
  have hempty : k.digest? = none := by
    unfold digest?
    rw [hnew]
    rfl
  obtain ⟨u, hu, hfull, hdigest, hshows⟩ :=
    shows_of_digest? hempty hseconds hout.digest?_eq
  have hplaces := Border.canonical_eq_iff.1 (hdigests u hu hdigest)
  refine ⟨u, hu, hfull, hplaces, fun i x hx => ?_⟩
  have hplace : (u.border.standings[i]?).map (fun s => (s.rank, s.score))
      = some (x.rank, x.score) := by
    have hlists := congrArg (fun ps : List (Int × Int) => ps[i]?) hplaces
    simpa [Border.places, hx] using hlists
  obtain ⟨y, hy, hyx⟩ := Option.map_eq_some_iff.1 hplace
  obtain ⟨hrank, hscore⟩ := Prod.mk.inj hyx
  refine ⟨y, hy, hrank, hscore, fun hboundary htop hfirst hfree => ?_⟩
  have hcounts := Turn.find?_merged hy (hrank ▸ hboundary) (hrank ▸ htop) hfirst
  have hkey : hasKey Database.mainKey k.rows (u.second, y.userId) = false := by
    rw [Bool.eq_false_iff]
    intro hkey
    obtain ⟨row, hrow, hrowkey⟩ := List.mem_map.1 (hasKey_iff.1 hkey)
    exact hfree row hrow (congrArg Prod.fst hrowkey) (congrArg Prod.snd hrowkey)
  rw [after_append, after_singleton]
  exact ⟨y.mainRow u.second, (hshows.next v) y hcounts hkey, rfl, rfl, hrank, hscore⟩

end Run

/-! ### Borders of one standing -/

/-- A new tracker for an event whose tables have just been made. -/
def newDesk : Desk where
  tracker := { region := .jp, eventId := 1, kind := .marathon }
  sink := ⟨(Store.provision {} 1 .marathon).2, .empty 60⟩

/-- A cycle in the midst of that event. -/
def plainTurn (now : Int) (top border : List Standing) : Turn where
  snapshot := { (default : Snapshot) with eventId := 1, phase := .ongoing }
  scope := .full
  now := now
  top := { standings := top }
  border := { standings := border }

/-- The first of two cycles, with a best hundred and a border of one standing each. -/
def firstTurn (top : Standing) : Turn :=
  plainTurn 1000 [top] [⟨"b", 500, 70, "B", none, none⟩]

/-- The second, a second later: another player holds the place of the border. -/
def secondTurn : Turn := plainTurn 2000 [] [⟨"c", 500, 70, "C", none, none⟩]

/-- The first turn of a player who is in both views. -/
def climbed : Turn := firstTurn ⟨"b", 1, 90, "B", none, none⟩

/-- The first turn where the best hundred have the place of the border with another score. -/
def overlapping : Turn := firstTurn ⟨"a", 500, 50, "A", none, none⟩

/-- The first turn of views that have nothing in common. -/
def apart : Turn := firstTurn ⟨"a", 1, 90, "A", none, none⟩

theorem rows_newDesk : newDesk.rows = [] := by decide +kernel

/-- A border that is left out was written, where the views of the first cycle had nothing in
common. -/
theorem left_out_border_written_apart :
    newDesk.tracker.borders = {} ∧ ([apart].map Turn.second).Nodup
      ∧ Border.canonical apart.border.standings = Border.canonical secondTurn.border.standings
      ∧ (newDesk.after [apart]).LeavesOut secondTurn
      ∧ ∃ row ∈ (newDesk.after ([apart] ++ [secondTurn])).rows, row.rank = 500 ∧ row.score = 70 := by
  have hcanonical : Border.canonical apart.border.standings =
      Border.canonical secondTurn.border.standings := by
    decide +kernel
  have hseconds : ([apart].map Turn.second).Nodup := List.nodup_singleton _
  have hout : (newDesk.after [apart]).LeavesOut secondTurn := ⟨rfl, by decide +kernel⟩
  have hdigests : ∀ w ∈ [apart],
      Border.digest w.border.standings = Border.digest secondTurn.border.standings →
        Border.canonical w.border.standings = Border.canonical secondTurn.border.standings := by
    intro w hw _
    rw [List.mem_singleton.1 hw]
    exact hcanonical
  obtain ⟨w, hw, -, -, hwritten⟩ :=
    left_out_border_written (k := newDesk) rfl hseconds hdigests hout
  obtain rfl := List.mem_singleton.1 hw
  obtain ⟨y, hy, -, -, hrow⟩ := hwritten 0 ⟨"c", 500, 70, "C", none, none⟩ rfl
  obtain rfl := Option.some.inj hy
  obtain ⟨row, hrow, -, -, hrank, hscore⟩ :=
    hrow (by decide) (by decide) (by decide) (by rw [rows_newDesk]; simp)
  exact ⟨rfl, hseconds, hcanonical, hout, row, hrow, hrank, hscore⟩

/-- Two cycles of a new tracker go well at different seconds, and the second leaves out a border as
unchanged, one of whose standings is not written, although it is not the last of the best hundred,
nor do these have its place in the second cycle. -/
def Misses (k : Desk) (u v : Turn) : Prop :=
  k.tracker.borders = {} ∧ u.scope = .full ∧ u.second ≠ v.second
    ∧ (k.recording u).outcome.isOk = true ∧ ((k.after [u]).recording v).outcome.isOk = true
    ∧ (k.after [u]).LeavesOut v
    ∧ ∃ x ∈ v.border.standings, x.rank ≠ boundaryRank ∧ x.rank ∉ v.top.standings.map (·.rank)
      ∧ ∀ row ∈ (k.after [u, v]).rows, row.rank = x.rank → row.score ≠ x.score

/-- What has to be computed for two such cycles to miss the standing. -/
theorem misses_of_run {k : Desk} {u : Turn} (hnew : k.tracker.borders = {})
    (hturn : u.scope = .full ∧ u.second ≠ secondTurn.second)
    (hrun : (k.recording u).outcome.isOk = true
      ∧ ((k.after [u]).recording secondTurn).outcome.isOk = true
      ∧ ((k.after [u]).tracker.mainMerge secondTurn.top secondTurn.border .full).staged = none
      ∧ ∀ row ∈ (k.after [u, secondTurn]).rows, row.rank = 500 → row.score ≠ 70) :
    k.Misses u secondTurn := by
  obtain ⟨hfirst, hsecond, hstaged, hrows⟩ := hrun
  exact ⟨hnew, hturn.1, hturn.2, hfirst, hsecond, ⟨rfl, hstaged⟩, ⟨"c", 500, 70, "C", none, none⟩,
    List.mem_singleton_self _, by decide, by decide, hrows⟩

/-- The tables with a row of a player of the border, written at the second of the first cycle before
the tracker came. -/
def heldDesk : Desk where
  tracker := newDesk.tracker
  sink := { newDesk.sink with
    store := (newDesk.sink.store.record 1 { rankings := [⟨1, "b", 60, 600, none⟩] }).2 }

/-- A border that is left out need not have been written: not where its player had climbed into the
best hundred between the two looks, nor where these had its place with another score, nor where the
player had a row of that second already. -/
theorem left_out_border_missed :
    newDesk.Misses climbed secondTurn ∧ newDesk.Misses overlapping secondTurn
      ∧ heldDesk.Misses apart secondTurn := by
  have hclimbed : newDesk.Misses climbed secondTurn :=
    misses_of_run rfl ⟨rfl, by decide⟩ (by decide +kernel)
  have hoverlapping : newDesk.Misses overlapping secondTurn :=
    misses_of_run rfl ⟨rfl, by decide⟩ (by decide +kernel)
  have hheld : heldDesk.Misses apart secondTurn :=
    misses_of_run rfl ⟨rfl, by decide⟩ (by decide +kernel)
  exact ⟨hclimbed, hoverlapping, hheld⟩

end Desk

end RankLedger
