import RankLedger.Proofs.Store.Reads

set_option autoImplicit false

/-! # Growth between the ends of a window

How a score has grown at a place is told from two rows at different places of the history, one of
the earliest second of a window and one of its latest (`Span.IsOf`). Several rows may share such a
second, and scores may be any integers of the range, so one thing can go wrong: a difference that
leaves the range. Then the whole plan ends there, without any growth told (`Store.growth_told`). -/

namespace RankLedger

/-! ## The ends of rows -/

/-- Two rows between which growth is told. -/
structure Span where
  earlier : RankRow
  latest : RankRow
  deriving DecidableEq, Repr, Inhabited

namespace Span

/-- By how much the score has grown. -/
def rise (ends : Span) : Int := ends.latest.score - ends.earlier.score

/-- What is told of the growth at a place. -/
def growth (ends : Span) (rank : Int) : Growth :=
  ⟨rank, ends.earlier.timestamp, ends.earlier.score, ends.latest.timestamp, ends.latest.score,
    ends.rise⟩

/-- The rows stand at different places of a list, one of its earliest second and one of its
latest. -/
structure IsOf (ends : Span) (rows : List RankRow) : Prop where
  apart : ∃ others, rows.Perm (ends.earlier :: ends.latest :: others)
  least : ∀ r ∈ rows, ends.earlier.timestamp ≤ r.timestamp
  greatest : ∀ r ∈ rows, r.timestamp ≤ ends.latest.timestamp

variable {ends : Span} {rows rows' : List RankRow}

theorem IsOf.of_perm (h : ends.IsOf rows) (hperm : rows'.Perm rows) : ends.IsOf rows' where
  apart := by
    obtain ⟨others, hothers⟩ := h.apart
    exact ⟨others, hperm.trans hothers⟩
  least r hr := h.least r (hperm.mem_iff.1 hr)
  greatest r hr := h.greatest r (hperm.mem_iff.1 hr)

theorem IsOf.mem (h : ends.IsOf rows) : ends.earlier ∈ rows ∧ ends.latest ∈ rows := by
  obtain ⟨others, hothers⟩ := h.apart
  exact ⟨hothers.mem_iff.2 (by simp), hothers.mem_iff.2 (by simp)⟩

theorem IsOf.ne (h : ends.IsOf rows) (hrows : rows.Nodup) : ends.earlier ≠ ends.latest := by
  obtain ⟨others, hothers⟩ := h.apart
  have hnodup := hothers.nodup_iff.1 hrows
  intro heq
  simp [heq] at hnodup

/-- Of two rows of different seconds the earlier is one end and the later the other. -/
theorem IsOf.eq_of_pair {a b : RankRow} (h : ends.IsOf [a, b]) (hab : a.timestamp < b.timestamp) :
    ends = ⟨a, b⟩ := by
  obtain ⟨earlier, latest⟩ := ends
  have hearlier : earlier = a := by
    have hleast := h.least a (by simp)
    rcases List.mem_pair.1 h.mem.1 with heq | rfl
    · exact heq
    · exact absurd hab (Int.not_lt.2 hleast)
  have hlatest : latest = b := by
    have hgreatest := h.greatest b (by simp)
    rcases List.mem_pair.1 h.mem.2 with rfl | heq
    · exact absurd hab (Int.not_lt.2 hgreatest)
    · exact heq
  rw [hearlier, hlatest]

/-- The first and the last of rows in order of time are their ends. -/
theorem isOf_of_ordered {earlier next latest : RankRow}
    (h : (earlier :: next :: rows).Pairwise fun a b => a.timestamp ≤ b.timestamp)
    (hlast : (next :: rows).getLast? = some latest) :
    (Span.mk earlier latest).IsOf (earlier :: next :: rows) := by
  obtain ⟨before, hbefore⟩ := List.getLast?_eq_some_iff.1 hlast
  rw [hbefore] at h ⊢
  obtain ⟨hfirst, hrest⟩ := List.pairwise_cons.1 h
  refine ⟨⟨before, ?apart⟩, fun r hr => ?least, fun r hr => ?greatest⟩
  case apart => exact (List.perm_append_singleton latest before).cons earlier
  case least =>
    rcases List.mem_cons.1 hr with rfl | hr
    · exact Int.le_refl _
    · exact hfirst r hr
  case greatest =>
    rcases List.mem_cons.1 hr with rfl | hr
    · exact hfirst latest (by simp)
    · rcases List.mem_append.1 hr with hr | hr
      · exact (List.pairwise_append.1 hrest).2.2 r hr latest (by simp)
      · obtain rfl := List.mem_singleton.1 hr
        exact Int.le_refl _

/-- The difference of two scores of the range leaves it only if one of them is negative. -/
theorem fits_rise (hearlier : 0 ≤ ends.earlier.score ∧ Word.Fits ends.earlier.score)
    (hlatest : 0 ≤ ends.latest.score ∧ Word.Fits ends.latest.score) : Word.Fits ends.rise := by
  unfold Word.Fits Word.least Word.greatest at *
  unfold rise
  omega

end Span

/-- Rows in order of time tell of growth just if there are two of them: between their ends, unless
the difference leaves the range. -/
theorem ReadPlan.growthOf_cases (rank : Int) {rows : List RankRow}
    (h : rows.Pairwise fun a b => a.timestamp ≤ b.timestamp) :
    (rows.length < 2 ∧ growthOf rank rows = .ok none)
      ∨ ∃ ends : Span, 2 ≤ rows.length ∧ ends.IsOf rows ∧ growthOf rank rows =
        if Word.Fits ends.rise then .ok (some (ends.growth rank)) else .error .overflow := by
  match rows with
  | [] => exact Or.inl ⟨by simp, rfl⟩
  | [_] => exact Or.inl ⟨by simp, rfl⟩
  | earlier :: next :: rows =>
      obtain ⟨latest, hlast⟩ : ∃ latest, (next :: rows).getLast? = some latest :=
        ⟨_, List.getLast?_eq_some_getLast (List.cons_ne_nil next rows)⟩
      have hlast' : (earlier :: next :: rows).getLast? = some latest := by
        rw [List.getLast?_cons_cons, hlast]
      refine Or.inr ⟨⟨earlier, latest⟩, by simp, Span.isOf_of_ordered h hlast, ?_⟩
      by_cases hfits : Word.Fits (Span.mk earlier latest).rise
      · simp only [growthOf, hlast', if_pos hfits, Word.sub?_eq_some_iff.2 ⟨hfits, rfl⟩]
        rfl
      · simp only [growthOf, hlast', if_neg hfits, Word.sub?_eq_none_iff.2 hfits]

namespace Store

/-! ## Windows -/

section Places

variable (s : Store) (e : Int) (character : Option Int) (since : Int)

/-- The rows at a place of a board that are no older than a second. -/
def window (rank : Int) : List RankRow :=
  (s.table e character).filter fun r =>
    r.rank = rank ∧ (character = none ∨ r.character = character) ∧ since ≤ r.timestamp

/-- The places whose window has at least two rows, in order. -/
def grown (ranks : List Int) : List Int :=
  ranks.filter fun rank => 2 ≤ (s.window e character since rank).length

/-- What is read at a place is its window, in order of time. -/
theorem perm_window (rank : Int) : (s.window e character since rank).Perm
    (s.history e { rank := some rank, character := character, since := some since }) := by
  -- Sorting permutes the rows that are admitted, which are those of the window.
  refine .trans (.of_eq (List.filter_congr fun r _ => ?_)) (RowFilter.perm_history _ _).symm
  rw [Bool.eq_iff_iff, decide_eq_true_eq, RowFilter.admits_iff]
  constructor
  · rintro ⟨hrank, hcharacter, hsince⟩
    refine ⟨nofun, fun _ h => ?rank, fun c h => ?character, fun _ h => ?since⟩
    case rank => exact hrank.trans (Option.some.inj h)
    case character =>
      have hc : character = some c := h
      rcases hcharacter with hnone | hsome
      · cases hnone.symm.trans hc
      · exact hsome.trans hc
    case since => exact Option.some.inj h ▸ hsince
  · intro hasks
    refine ⟨hasks.rank rank rfl, ?_, hasks.since since rfl⟩
    cases hc : character with
    | none => exact Or.inl rfl
    | some c => exact Or.inr (hasks.character c hc)

/-- There are rows between which growth is told at a place, if its window has two. -/
theorem exists_span (rank : Int) : ∃ ends : Span,
    (2 ≤ (s.window e character since rank).length → ends.IsOf (s.window e character since rank))
    ∧ ReadPlan.growthOf rank
        (s.history e { rank := some rank, character := character, since := some since }) =
      if 2 ≤ (s.window e character since rank).length then
        if Word.Fits ends.rise then .ok (some (ends.growth rank)) else .error .overflow
      else .ok none := by
  have hperm := s.perm_window e character since rank
  have hordered : (s.history e { rank := some rank, character := character, since := some since
      }).Pairwise fun a b => a.timestamp ≤ b.timestamp := RowFilter.ordered_history _ _
  rcases ReadPlan.growthOf_cases rank hordered with
    ⟨hlength, hgrowth⟩ | ⟨ends, hlength, hends, hgrowth⟩
  · rw [← hperm.length_eq] at hlength
    refine ⟨default, fun h => ?_, ?_⟩
    · omega
    · rw [if_neg (by omega), hgrowth]
  · refine ⟨ends, fun _ => hends.of_perm hperm, ?_⟩
    rw [hperm.length_eq, if_pos hlength, hgrowth]

end Places

/-! ## Many places -/

section Run

variable {s : Store} {e : Int} {character : Option Int} {since : Int}

theorem run_growth_of_closed (hclosed : s.isOpen = false) {ranks : List Int} (hranks : ranks ≠ []) :
    (s.run (ReadPlan.growth e character since ranks)).1 = .error closed := by
  obtain ⟨rank, ranks, rfl⟩ := List.exists_cons_of_ne_nil hranks
  refine run_bind_of_error (p := ReadPlan.readHistory e _) ?_
  simp [ReadPlan.readHistory, run, rankings_of_closed hclosed]

theorem run_growth_of_error (hopen : s.isOpen = true) {rank : Int} {ranks : List Int} {why : Halt}
    (h : ReadPlan.growthOf rank (s.history e
      { rank := some rank, character := character, since := some since }) = .error why) :
    (s.run (ReadPlan.growth e character since (rank :: ranks))).1 = .error why := by
  refine (run_bind_of_ok (run_readHistory hopen _)).trans ?_
  simp only [h]
  rfl

theorem run_growth_of_ok (hopen : s.isOpen = true) {rank : Int} {ranks : List Int}
    {told : Option Growth} (h : ReadPlan.growthOf rank (s.history e
      { rank := some rank, character := character, since := some since }) = .ok told) :
    (s.run (ReadPlan.growth e character since (rank :: ranks))).1 =
      (s.run (ReadPlan.growth e character since ranks)).1.map fun rest => told.toList ++ rest := by
  refine (run_bind_of_ok (run_readHistory hopen _)).trans ?_
  simp only [h]
  refine (s.run_bind _ _).trans ?_
  cases (s.run (ReadPlan.growth e character since ranks)).1 <;> rfl

/-- Growth is told at all places that have it, in order, or else at none. -/
theorem run_growth (hopen : s.isOpen = true) {ends : Int → Span}
    (hends : ∀ rank, ReadPlan.growthOf rank
        (s.history e { rank := some rank, character := character, since := some since }) =
      if 2 ≤ (s.window e character since rank).length then
        if Word.Fits (ends rank).rise then .ok (some ((ends rank).growth rank))
        else .error .overflow
      else .ok none) (ranks : List Int) :
    (s.run (ReadPlan.growth e character since ranks)).1 =
      if ∀ rank ∈ s.grown e character since ranks, Word.Fits (ends rank).rise then
        .ok ((s.grown e character since ranks).map fun rank => (ends rank).growth rank)
      else .error .overflow := by
  induction ranks with
  | nil => rfl
  | cons rank ranks ih =>
      have hone := hends rank
      by_cases hlength : 2 ≤ (s.window e character since rank).length
      · have hgrown : s.grown e character since (rank :: ranks) =
            rank :: s.grown e character since ranks :=
          List.filter_cons_of_pos (decide_eq_true hlength)
        rw [if_pos hlength] at hone
        rw [hgrown]
        by_cases hfits : Word.Fits (ends rank).rise
        · rw [if_pos hfits] at hone
          rw [run_growth_of_ok hopen hone, ih]
          simp only [List.forall_mem_cons, hfits, true_and]
          split <;> rfl
        · -- The plan ends here, so what comes after this place does not count.
          rw [if_neg hfits] at hone
          rw [run_growth_of_error hopen hone, if_neg fun h => hfits (h rank List.mem_cons_self)]
      · have hgrown : s.grown e character since (rank :: ranks) = s.grown e character since ranks :=
          List.filter_cons_of_neg (by simpa using hlength)
        rw [if_neg hlength] at hone
        rw [run_growth_of_ok hopen hone, ih, hgrown]
        split <;> rfl

end Run

/-- In any store, of any board and window, there are two rows for each place whose window has two,
at different places of the window (and different rows, if the store may come about), one of its
earliest second and one of its latest, such that the growth at places, in an open store:

* overflows just if somewhere the difference of their scores leaves the range;
* otherwise is that between these two rows, at the places whose window has two, in their order;
* and so it never overflows if the scores of the board are in the range and none is negative.

A closed store refuses. -/
theorem growth_told (s : Store) (e : Int) (character : Option Int) (since : Int) :
    ∃ ends : Int → Span,
      (∀ rank, 2 ≤ (s.window e character since rank).length →
        (ends rank).IsOf (s.window e character since rank)
          ∧ (Reached s → (ends rank).earlier ≠ (ends rank).latest))
      ∧ (s.isOpen = true → ∀ ranks,
        ((s.run (ReadPlan.growth e character since ranks)).1 = .error .overflow ↔
          ∃ rank ∈ s.grown e character since ranks, ¬ Word.Fits (ends rank).rise)
        ∧ ((∀ rank ∈ s.grown e character since ranks, Word.Fits (ends rank).rise) →
          (s.run (ReadPlan.growth e character since ranks)).1 =
            .ok ((s.grown e character since ranks).map fun rank => (ends rank).growth rank))
        ∧ ((∀ r ∈ s.table e character, 0 ≤ r.score ∧ Word.Fits r.score) →
          (s.run (ReadPlan.growth e character since ranks)).1 ≠ .error .overflow))
      ∧ (s.isOpen = false → ∀ ranks, ranks ≠ [] →
        (s.run (ReadPlan.growth e character since ranks)).1 = .error closed) := by
  choose ends hspan hgrowth using s.exists_span e character since
  have hoverflow : s.isOpen = true → ∀ ranks,
      ((s.run (ReadPlan.growth e character since ranks)).1 = .error .overflow ↔
        ∃ rank ∈ s.grown e character since ranks, ¬ Word.Fits (ends rank).rise) := by
    intro hopen ranks
    rw [run_growth hopen hgrowth]
    split
    · rename_i hall
      exact iff_of_false nofun fun ⟨rank, hrank, hfits⟩ => hfits (hall rank hrank)
    · rename_i hall
      exact iff_of_true rfl (by simpa using hall)
  refine ⟨ends, fun rank hlength => ⟨hspan rank hlength, fun h => ?differ⟩,
    fun hopen ranks => ⟨hoverflow hopen ranks, fun hall => ?told, fun hscores hrun => ?never⟩,
    fun hclosed ranks => run_growth_of_closed hclosed⟩
  case differ => exact (hspan rank hlength).ne ((h.keepsKeys.nodup_table character).filter _)
  case told => rw [run_growth hopen hgrowth, if_pos hall]
  case never =>
    obtain ⟨rank, hrank, hfits⟩ := (hoverflow hopen ranks).1 hrun
    have hlength := of_decide_eq_true (List.mem_filter.1 hrank).2
    obtain ⟨hearlier, hlatest⟩ := (hspan rank hlength).mem
    exact hfits (Span.fits_rise (hscores _ (List.mem_filter.1 hearlier).1)
      (hscores _ (List.mem_filter.1 hlatest).1))

/-- A store with two rows at two places each, of which one starts from the least score of all. -/
def outgrown : Store := after [.provision 7 .marathon,
  .record 7 { rankings := [⟨5, "u", Word.least, 1, none⟩, ⟨5, "v", 10, 2, none⟩] },
  .record 7 { rankings := [⟨6, "u", 1, 1, none⟩, ⟨6, "v", 30, 2, none⟩, ⟨6, "w", 20, 3, none⟩] }]

/-- Growth is told at a place with two rows, and not at one with one; no growth is told at all if
one of the places has outgrown the range. -/
theorem growth_told_outgrown :
    (outgrown.run (ReadPlan.growth 7 none 5 [3, 2])).1 = .ok [⟨2, 5, 10, 6, 30, 20⟩]
      ∧ (outgrown.run (ReadPlan.growth 7 none 5 [2, 1])).1 = .error .overflow := by
  obtain ⟨ends, hends, hrun, -⟩ := growth_told outgrown 7 none 5
  have hopen : outgrown.isOpen = true := (isOpen_after _).2 (by simp)
  have hfirst : ends 1 = ⟨⟨5, "u", Word.least, 1, none⟩, ⟨6, "u", 1, 1, none⟩⟩ := by
    have hwindow : outgrown.window 7 none 5 1 =
        [⟨5, "u", Word.least, 1, none⟩, ⟨6, "u", 1, 1, none⟩] := by
      decide +kernel
    have hspan := (hends 1 (by rw [hwindow]; decide)).1
    rw [hwindow] at hspan
    exact hspan.eq_of_pair (by decide)
  have hsecond : ends 2 = ⟨⟨5, "v", 10, 2, none⟩, ⟨6, "v", 30, 2, none⟩⟩ := by
    have hwindow : outgrown.window 7 none 5 2 = [⟨5, "v", 10, 2, none⟩, ⟨6, "v", 30, 2, none⟩] := by
      decide +kernel
    have hspan := (hends 2 (by rw [hwindow]; decide)).1
    rw [hwindow] at hspan
    exact hspan.eq_of_pair (by decide)
  have htold : outgrown.grown 7 none 5 [3, 2] = [2] := by decide +kernel
  have hall : outgrown.grown 7 none 5 [2, 1] = [2, 1] := by decide +kernel
  refine ⟨?_, ?_⟩
  · rw [(hrun hopen [3, 2]).2.1, htold]
    · simp [hsecond, Span.growth, Span.rise]
    · rw [htold]
      simp only [List.mem_singleton, forall_eq, hsecond]
      decide
  · refine (hrun hopen [2, 1]).1.2 ⟨1, by rw [hall]; decide, ?_⟩
    rw [hfirst]
    decide

end Store

end RankLedger
