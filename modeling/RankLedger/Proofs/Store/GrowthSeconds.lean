import RankLedger.Proofs.Store.Growth

set_option autoImplicit false

/-! # The seconds that growth is told between

Growth is told between two rows at a place, not between two cycles: several players may share a
place, so the two rows may be of one second. What can be said is `Store.growth_between_seconds`: the
second of the later row is never less, and it is greater just if the window has rows of different
seconds, as it does where no two players are told at one place and second. -/

namespace RankLedger

namespace Span

variable {ends : Span} {rows : List RankRow}

theorem IsOf.le (h : ends.IsOf rows) : ends.earlier.timestamp ≤ ends.latest.timestamp :=
  h.greatest _ h.mem.1

/-- The ends of rows are of different seconds just if the rows are not all of one. -/
theorem IsOf.lt_iff (h : ends.IsOf rows) : ends.earlier.timestamp < ends.latest.timestamp ↔
    ∃ a ∈ rows, ∃ b ∈ rows, a.timestamp ≠ b.timestamp := by
  constructor
  · intro hlt
    exact ⟨_, h.mem.1, _, h.mem.2, Int.ne_of_lt hlt⟩
  · rintro ⟨a, ha, b, hb, hne⟩
    have hleast := h.least a ha
    have hleast' := h.least b hb
    have hgreatest := h.greatest a ha
    have hgreatest' := h.greatest b hb
    omega

end Span

/-- The rows that a batch brings to a place of the main board, or of a character's chapter if one is
given. -/
def Batch.rowsAt (b : Batch) (character : Option Int) (rank : Int) : List RankRow :=
  (if character.isSome then b.chapterRows else b.mainRows).filter fun r =>
    r.rank = rank ∧ (character = none ∨ r.character = character)

namespace Store

/-! ## Rows of one second -/

section Window

variable {s : Store} {e : Int} {character : Option Int} {since rank : Int} {r a b : RankRow}

theorem mem_window : r ∈ s.window e character since rank ↔ r ∈ s.table e character
    ∧ r.rank = rank ∧ (character = none ∨ r.character = character) ∧ since ≤ r.timestamp := by
  rw [window, List.mem_filter, decide_eq_true_eq]

/-- Different rows at one place and second are of different players. -/
theorem KeepsKeys.userId_ne (h : s.KeepsKeys) (ha : a ∈ s.window e character since rank)
    (hb : b ∈ s.window e character since rank) (hne : a ≠ b) (hsecond : a.timestamp = b.timestamp) :
    a.userId ≠ b.userId := by
  intro huser
  -- With the player to look for, a second tells the rows of a board.
  let f : RowFilter := { user := some a.userId, character := character }
  have hasks : ∀ r ∈ s.window e character since rank, r.userId = a.userId →
      r ∈ s.history e f := by
    intro r hr hruser
    obtain ⟨htable, -, hcharacter, -⟩ := mem_window.1 hr
    refine RowFilter.mem_history.2 ⟨htable, ⟨?user, nofun, ?character, nofun⟩⟩
    case user => exact fun user heq => hruser.trans (Option.some.inj heq)
    case character =>
      intro c hc
      have hc : character = some c := hc
      rcases hcharacter with hnone | hsome
      · cases hnone.symm.trans hc
      · exact hsome.trans hc
  exact hne (h.eq_of_timestamp_eq (f := f) rfl (hasks a ha rfl) (hasks b hb huser.symm) hsecond)

/-- Growth is told between the ends of the window at its place. -/
theorem exists_span_of_mem {ranks : List Int} {told : List Growth}
    (h : (s.run (ReadPlan.growth e character since ranks)).1 = .ok told) {g : Growth}
    (hg : g ∈ told) :
    ∃ ends : Span, ends.IsOf (s.window e character since g.rank) ∧ g = ends.growth g.rank := by
  cases hopen : s.isOpen with
  | false =>
      by_cases hranks : ranks = []
      · subst hranks
        obtain rfl := Except.ok.inj h
        cases hg
      · rw [run_growth_of_closed hopen hranks] at h
        cases h
  | true =>
      choose ends hspan hgrowth using s.exists_span e character since
      rw [run_growth hopen hgrowth] at h
      split at h
      · obtain rfl := Except.ok.inj h
        obtain ⟨rank, hrank, rfl⟩ := List.mem_map.1 hg
        have hlength := of_decide_eq_true (List.mem_filter.1 hrank).2
        exact ⟨ends rank, hspan rank hlength, rfl⟩
      · cases h

end Window

/-! ## Rows as they are offered -/

section Offered

variable (calls : List Call) (e : Int) (character : Option Int) (since : Int)

/-- No row comes to a place but those that calls have brought to it. -/
theorem mem_rowsAt_of_mem_window {rank : Int} {r : RankRow}
    (h : r ∈ (after calls).window e character since rank) :
    r ∈ (offered e (wellDone calls)).rowsAt character rank := by
  obtain ⟨htable, hrank, hcharacter, -⟩ := mem_window.1 h
  refine List.mem_filter.2 ⟨?_, decide_eq_true ⟨hrank, hcharacter⟩⟩
  unfold table at htable
  split
  · rw [if_pos ‹_›, chapterRows_after, mem_firstBy] at htable
    exact List.mem_of_find?_eq_some htable
  · rw [if_neg ‹_›, mainRows_after, mem_firstBy] at htable
    exact List.mem_of_find?_eq_some htable

/-- After any calls, on any board and window, of the two seconds between which growth is told at a
place:

* the first is never the later one;
* they differ just if not all rows of the window at that place are of one second;
* if they are one second, different players have rows of that second at that place;
* and so they differ where no two players were brought to that place of the board in one second. -/
theorem growth_between_seconds (ranks : List Int) (told : List Growth)
    (h : ((after calls).run (ReadPlan.growth e character since ranks)).1 = .ok told) :
    ∀ g ∈ told,
      g.timestampEarlier ≤ g.timestampLatest
      ∧ (g.timestampEarlier < g.timestampLatest ↔
        ∃ a ∈ (after calls).window e character since g.rank,
          ∃ b ∈ (after calls).window e character since g.rank, a.timestamp ≠ b.timestamp)
      ∧ (g.timestampEarlier = g.timestampLatest →
        ∃ a ∈ (after calls).window e character since g.rank,
          ∃ b ∈ (after calls).window e character since g.rank, a.userId ≠ b.userId
            ∧ a.timestamp = g.timestampEarlier ∧ b.timestamp = g.timestampEarlier)
      ∧ ((∀ a ∈ (offered e (wellDone calls)).rowsAt character g.rank,
          ∀ b ∈ (offered e (wellDone calls)).rowsAt character g.rank,
            a.timestamp = b.timestamp → a.userId = b.userId) →
        g.timestampEarlier < g.timestampLatest) := by
  intro g hg
  obtain ⟨ends, hends, hgrowth⟩ := exists_span_of_mem h hg
  have hearlier : g.timestampEarlier = ends.earlier.timestamp := by rw [hgrowth]; rfl
  have hlatest : g.timestampLatest = ends.latest.timestamp := by rw [hgrowth]; rfl
  rw [hearlier, hlatest]
  have hkeys : (after calls).KeepsKeys := (Reached.new.performAll calls).keepsKeys
  have hne := hends.ne ((hkeys.nodup_table character).filter _)
  -- Different rows of one place can only share a second if different players have them.
  have hplayers := hkeys.userId_ne hends.mem.1 hends.mem.2 hne
  refine ⟨hends.le, hends.lt_iff, fun hsecond => ?share, fun halone => ?alone⟩
  case share => exact ⟨_, hends.mem.1, _, hends.mem.2, hplayers hsecond, rfl, hsecond.symm⟩
  case alone =>
    refine Int.lt_iff_le_and_ne.2 ⟨hends.le, fun hsecond => hplayers hsecond ?_⟩
    exact halone _ (mem_rowsAt_of_mem_window calls e character since hends.mem.1)
      _ (mem_rowsAt_of_mem_window calls e character since hends.mem.2) hsecond

end Offered

/-- Calls that bring one player to the first place in each of two seconds, and two players to the
second place in one. -/
def levelCalls : List Call := [.provision 7 .marathon,
  .record 7 (Batch.project 5 [⟨"u", 1, 10, "U", none, none⟩, ⟨"x", 2, 8, "X", none, none⟩,
    ⟨"y", 2, 8, "Y", none, none⟩] []),
  .record 7 (Batch.project 6 [⟨"u", 1, 30, "U", none, none⟩] [])]

theorem run_growth_levelCalls : ((after levelCalls).run (ReadPlan.growth 7 none 0 [1, 2])).1 =
    .ok [⟨1, 5, 10, 6, 30, 20⟩, ⟨2, 5, 8, 5, 8, 0⟩] := by
  have hopen : (after levelCalls).isOpen = true := (isOpen_after _).2 (by simp [levelCalls])
  choose ends hspan hgrowth using (after levelCalls).exists_span 7 none 0
  have hfirst : ends 1 = ⟨⟨5, "u", 10, 1, none⟩, ⟨6, "u", 30, 1, none⟩⟩ := by
    have hwindow : (after levelCalls).window 7 none 0 1 =
        [⟨5, "u", 10, 1, none⟩, ⟨6, "u", 30, 1, none⟩] := by
      decide +kernel
    have hends := hspan 1 (by rw [hwindow]; decide)
    rw [hwindow] at hends
    exact hends.eq_of_pair (by decide)
  have hsecond : (ends 2).rise = 0 ∧ (ends 2).growth 2 = ⟨2, 5, 8, 5, 8, 0⟩ := by
    -- It is left open which of the two is taken for the earlier, but they have the same score.
    have hsame : ∀ r ∈ (after levelCalls).window 7 none 0 2, r.timestamp = 5 ∧ r.score = 8 := by
      decide +kernel
    have hends := hspan 2 (by decide +kernel)
    obtain ⟨hearlier, hscore⟩ := hsame _ hends.mem.1
    obtain ⟨hlatest, hscore'⟩ := hsame _ hends.mem.2
    simp [Span.growth, Span.rise, hearlier, hscore, hlatest, hscore']
  have hgrown : (after levelCalls).grown 7 none 0 [1, 2] = [1, 2] := by decide +kernel
  have hfits : ∀ rank ∈ [1, 2], Word.Fits (ends rank).rise := by
    intro rank hrank
    rcases List.mem_pair.1 hrank with rfl | rfl
    · rw [hfirst]
      decide
    · rw [hsecond.1]
      decide
  rw [run_growth hopen hgrowth, hgrown, if_pos hfits, List.map_cons, List.map_singleton,
    hsecond.2, hfirst]
  rfl

/-- The second place has rows of one second only, and they are of different players; the first has
rows of two. -/
theorem growth_between_seconds_level :
    ((after levelCalls).run (ReadPlan.growth 7 none 0 [1, 2])).1 =
      .ok [⟨1, 5, 10, 6, 30, 20⟩, ⟨2, 5, 8, 5, 8, 0⟩]
    ∧ (∃ a ∈ (after levelCalls).window 7 none 0 1,
      ∃ b ∈ (after levelCalls).window 7 none 0 1, a.timestamp ≠ b.timestamp)
    ∧ ∃ a ∈ (after levelCalls).window 7 none 0 2,
      ∃ b ∈ (after levelCalls).window 7 none 0 2, a.userId ≠ b.userId
        ∧ a.timestamp = 5 ∧ b.timestamp = 5 := by
  have hseconds := growth_between_seconds levelCalls 7 none 0 [1, 2] _ run_growth_levelCalls
  have hfirst := hseconds ⟨1, 5, 10, 6, 30, 20⟩ (by simp)
  have hsecond := hseconds ⟨2, 5, 8, 5, 8, 0⟩ (by simp)
  exact ⟨run_growth_levelCalls, hfirst.2.1.1 (by decide), hsecond.2.2.1 rfl⟩

/-- Growth may be told within one second. -/
theorem growth_within_second : ∃ told,
    ((after levelCalls).run (ReadPlan.growth 7 none 0 [1, 2])).1 = .ok told
      ∧ ¬ ∀ g ∈ told, g.timestampEarlier < g.timestampLatest :=
  ⟨_, run_growth_levelCalls, by decide⟩

end Store

end RankLedger
