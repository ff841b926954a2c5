import RankLedger.Proofs.Store.TableName
import RankLedger.Tracking.Border

set_option autoImplicit false

/-! # What a ledger of borders knows

The text that a border is known by tells its places and scores and nothing else
(`Border.canonical_eq_iff`): numerals have neither of the two signs that part them, so the text is
read back from the left. The key of a board tells the board (`BoardId.key_inj`), although a dash may
part two numerals and be the sign of either. So what a ledger knows about a board changes only where
the border of that board is committed. -/

namespace RankLedger

/-- Lists that part at the first place of a sign are equal in both parts. -/
theorem append_cons_inj {α : Type} {a : α} {xs xs' ys ys' : List α} (h : a ∉ xs) (h' : a ∉ xs')
    (heq : xs ++ a :: ys = xs' ++ a :: ys') : xs = xs' ∧ ys = ys' := by
  induction xs generalizing xs' with
  | nil =>
      cases xs' with
      | nil => exact ⟨rfl, (List.cons.inj heq).2⟩
      | cons x' xs' => exact absurd ((List.cons.inj heq).1 ▸ List.mem_cons_self) h'
  | cons x xs ih =>
      cases xs' with
      | nil => exact absurd ((List.cons.inj heq).1 ▸ List.mem_cons_self) h
      | cons x' xs' =>
          obtain ⟨rfl, hrest⟩ := List.cons.inj heq
          obtain ⟨rfl, hys⟩ := ih (fun hx => h (List.mem_cons_of_mem _ hx))
            (fun hx => h' (List.mem_cons_of_mem _ hx)) hrest
          exact ⟨rfl, hys⟩

namespace Border

/-! ## Texts -/

/-- The places and scores of a border in order. -/
def places (border : List Standing) : List (Int × Int) := border.map fun s => (s.rank, s.score)

theorem toList_canonical_cons (s : Standing) (border : List Standing) :
    (canonical (s :: border)).toList = (toString s.rank).toList ++
      ':' :: ((toString s.score).toList ++ ';' :: (canonical border).toList) := by
  simp [canonical, standingText, String.join_cons]

/-- Borders are known by one text just if they have the same places and scores in order. -/
theorem canonical_eq_iff {border border' : List Standing} :
    canonical border = canonical border' ↔ places border = places border' := by
  constructor
  · intro h
    have hlists := congrArg String.toList h
    clear h
    induction border generalizing border' with
    | nil =>
        cases border' with
        | nil => rfl
        | cons s' border' =>
            rw [toList_canonical_cons] at hlists
            simp [canonical] at hlists
    | cons s border ih =>
        cases border' with
        | nil =>
            rw [toList_canonical_cons] at hlists
            simp [canonical] at hlists
        | cons s' border' =>
            rw [toList_canonical_cons, toList_canonical_cons] at hlists
            have hcolon := fun n => not_mem_toString (c := ':') (by decide) (by decide) n
            have hsemicolon := fun n => not_mem_toString (c := ';') (by decide) (by decide) n
            obtain ⟨hrank, hlists⟩ := append_cons_inj (hcolon _) (hcolon _) hlists
            obtain ⟨hscore, hlists⟩ := append_cons_inj (hsemicolon _) (hsemicolon _) hlists
            have hrank := toString_int_inj (String.toList_injective hrank)
            have hscore := toString_int_inj (String.toList_injective hscore)
            have hrest := ih hlists
            unfold places at hrest ⊢
            rw [List.map_cons, List.map_cons, hrest, hrank, hscore]
  · intro h
    have htexts : ∀ b : List Standing, b.map standingText =
        (places b).map fun p => toString p.1 ++ ":" ++ toString p.2 ++ ";" := by
      intro b
      simp [places, standingText]
    unfold canonical
    rw [htexts, htexts, h]

theorem digest_eq_of_places {border border' : List Standing} (h : places border = places border') :
    digest border = digest border' := by
  unfold digest
  rw [canonical_eq_iff.2 h]

end Border

/-! ## Keys -/

/-- A board whose border is watched: the main board of an event, or that of one of its chapters. -/
structure BoardId where
  region : Region
  eventId : Int
  character : Option Int
  deriving DecidableEq, Repr

/-- The key of a board. -/
def BoardId.key (i : BoardId) : String :=
  match i.character with
  | none => Border.mainKey i.region i.eventId
  | some c => Border.chapterKey i.region i.eventId c

/-- What a key says after the number of the event. -/
def BoardId.ending (i : BoardId) : List Char :=
  match i.character with
  | none => "main-border".toList
  | some c => (toString c).toList ++ "-border".toList

theorem BoardId.toList_key (i : BoardId) : i.key.toList = i.region.name.toList
    ++ ("-event-".toList ++ ((toString i.eventId).toList ++ '-' :: i.ending)) := by
  unfold key ending
  cases i.character with
  | none => simp [Border.mainKey]
  | some c => simp [Border.chapterKey]

/-- A numeral that a dash follows is read back, although a dash may also be its sign. -/
theorem toString_append_dash_inj {m n : Int} {xs ys : List Char}
    (h : (toString m).toList ++ '-' :: xs = (toString n).toList ++ '-' :: ys) :
    m = n ∧ xs = ys := by
  have hdash : ∀ k : Nat, '-' ∉ Nat.toDigits 10 k := not_mem_toDigits (by decide)
  -- Digits do not begin like a number below zero.
  have hsign : ∀ (k : Nat) (us vs : List Char), Nat.toDigits 10 k ++ us ≠ '-' :: vs := by
    intro k us vs heq
    cases hdigits : Nat.toDigits 10 k with
    | nil => exact Nat.toDigits_ne_nil hdigits
    | cons d ds =>
        rw [hdigits] at heq
        have hd : d = '-' := (List.cons.inj heq).1
        exact hdash k (hdigits ▸ hd ▸ List.mem_cons_self)
  have hnumeral : (toString m).toList = (toString n).toList ∧ xs = ys := by
    rw [toList_toString, toList_toString] at h ⊢
    by_cases hm : 0 ≤ m
    · by_cases hn : 0 ≤ n
      · rw [if_pos hm, if_pos hn] at h ⊢
        exact append_cons_inj (hdash _) (hdash _) h
      · rw [if_pos hm, if_neg hn] at h
        exact absurd h (hsign _ _ _)
    · by_cases hn : 0 ≤ n
      · rw [if_neg hm, if_pos hn] at h
        exact absurd h.symm (hsign _ _ _)
      · rw [if_neg hm, if_neg hn] at h ⊢
        obtain ⟨hdigits, hrest⟩ :=
          append_cons_inj (hdash _) (hdash _) (List.cons.inj h).2
        exact ⟨congrArg _ hdigits, hrest⟩
  exact ⟨toString_int_inj (String.toList_injective hnumeral.1), hnumeral.2⟩

/-- A numeral is no word, so the ending of a main board is none of a chapter's board. -/
theorem BoardId.ending_inj {i j : BoardId} (h : i.ending = j.ending) :
    i.character = j.character := by
  have hword : ∀ c : Int, (toString c).toList ++ "-border".toList ≠ "main-border".toList := by
    intro c heq
    have hm : 'm' ∉ (toString c).toList := not_mem_toString (by decide) (by decide) c
    cases hnumeral : (toString c).toList with
    | nil =>
        rw [hnumeral] at heq
        exact absurd heq (by decide)
    | cons d ds =>
        rw [hnumeral] at heq hm
        have hd : d = 'm' := (List.cons.inj heq).1
        exact hm (hd ▸ List.mem_cons_self)
  unfold ending at h
  cases hi : i.character with
  | none =>
      cases hj : j.character with
      | none => rfl
      | some c =>
          simp only [hi, hj] at h
          exact absurd h.symm (hword c)
  | some c =>
      cases hj : j.character with
      | none =>
          simp only [hi, hj] at h
          exact absurd h (hword c)
      | some c' =>
          simp only [hi, hj] at h
          have hnumeral := String.toList_injective (List.append_cancel_right h)
          rw [toString_int_inj hnumeral]

/-- Boards with one key are one board. -/
theorem BoardId.key_inj {i j : BoardId} (h : i.key = j.key) : i = j := by
  have hlists := congrArg String.toList h
  rw [toList_key, toList_key] at hlists
  have htwo : ∀ r : Region, r.name.toList.length = 2 := by
    intro r
    cases r <;> rfl
  obtain ⟨hname, hrest⟩ :=
    List.append_inj hlists ((htwo i.region).trans (htwo j.region).symm)
  obtain ⟨hevent, hending⟩ := toString_append_dash_inj (List.append_cancel_left hrest)
  have hregion := Region.name_inj (String.toList_injective hname)
  cases i
  cases j
  cases hregion
  cases hevent
  cases BoardId.ending_inj hending
  rfl

theorem Border.mainKey_ne_chapterKey (region : Region) (e character : Int) :
    mainKey region e ≠ chapterKey region e character := by
  intro h
  have hsame : (⟨region, e, none⟩ : BoardId) = ⟨region, e, some character⟩ :=
    BoardId.key_inj h
  cases hsame

namespace BorderLedger

/-! ## Ledgers -/

/-- The ledger has the digest committed last under a key. -/
theorem get?_commitAll (l : BorderLedger) (ss : List StagedBorder) (key : String) :
    (l.commitAll ss).digests.get? key =
      ((ss.filter (·.key = key)).getLast?.map (·.digest)).or (l.digests.get? key) := by
  have hputs : (l.commitAll ss).digests =
      ss.foldl (fun m s => m.put s.key s.digest) l.digests := by
    induction ss generalizing l with
    | nil => rfl
    | cons s ss ih => exact ih (l.commit s)
  rw [hputs, Keyed.get?_foldl_put]

theorem get?_commitAll_of_ne {l : BorderLedger} {ss : List StagedBorder} {key : String}
    (h : ∀ s ∈ ss, s.key ≠ key) : (l.commitAll ss).digests.get? key = l.digests.get? key := by
  have hnone : ss.filter (·.key = key) = [] :=
    List.filter_eq_nil_iff.2 fun s hs => by simpa using h s hs
  rw [get?_commitAll, hnone]
  rfl

theorem commitAll_append (l : BorderLedger) (ss ss' : List StagedBorder) :
    l.commitAll (ss ++ ss') = (l.commitAll ss).commitAll ss' := List.foldl_append

/-- What the best hundred do not settle is all but the place where they end and the places that they
have. -/
theorem below_eq (top border : List Standing) : below top border =
    border.filter fun s => s.rank ≠ boundaryRank ∧ ∀ p ∈ top, p.rank ≠ s.rank := by
  unfold below
  congr 1
  funext s
  rw [Bool.eq_iff_iff]
  simp

/-- A border is left out where its digest was the last committed; otherwise what the best hundred do
not settle is taken in, and the digest is to be committed. -/
theorem stage_cases (l : BorderLedger) (top border : List Standing) (key : String) :
    l.isUnchanged key (Border.digest border) = true ∧ l.stage top border key = ⟨top, none⟩
      ∨ l.isUnchanged key (Border.digest border) = false
        ∧ l.stage top border key = ⟨top ++ below top border, some ⟨key, Border.digest border⟩⟩ := by
  unfold stage
  cases l.isUnchanged key (Border.digest border) with
  | true => exact Or.inl ⟨rfl, rfl⟩
  | false => exact Or.inr ⟨rfl, rfl⟩

theorem key_of_stage {l : BorderLedger} {top border : List Standing} {key : String}
    {s : StagedBorder} (h : s ∈ (l.stage top border key).staged.toList) : s.key = key := by
  rcases l.stage_cases top border key with ⟨-, heq⟩ | ⟨-, heq⟩
  · rw [heq] at h
    cases h
  · rw [heq] at h
    obtain rfl := List.mem_singleton.1 h
    rfl

end BorderLedger

end RankLedger
