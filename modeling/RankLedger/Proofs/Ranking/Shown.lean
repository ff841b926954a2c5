import Mathlib.Data.List.Forall2
import RankLedger.Ranking.Payload

set_option autoImplicit false

/-! # What payloads show

A payload may lack any field, and may have several blocks for one chapter, or blocks that are marked
as aggregated. Its boards are told item by item: the items that have all it takes are shown, in
their order and as they are (`Item.forall₂_shown`), and the board of a chapter is made of the items
of one block, the first of the chapter that is not marked (`Payload.chapter_board`). -/

namespace RankLedger

/-! ## Items -/

namespace Item

/-- A player, a name, a place and a score are told. -/
def IsComplete (item : Item) : Prop :=
  item.userId.isSome ∧ item.name.isSome ∧ item.rank.isSome ∧ item.score.isSome

instance : DecidablePred IsComplete := fun item =>
  inferInstanceAs (Decidable
    (item.userId.isSome ∧ item.name.isSome ∧ item.rank.isSome ∧ item.score.isSome))

/-- A standing tells what an item does, on a chapter's board or on the main one. -/
structure Shows (character : Option Int) (item : Item) (s : Standing) : Prop where
  user : item.userId.map toString = some s.userId
  name : item.name = some s.name
  rank : item.rank = some s.rank
  score : item.score = some s.score
  team : item.team = s.team
  character : s.character = character

section Standing

variable {item : Item} {character : Option Int} {s : Standing}

theorem standing?_eq_some_iff : item.standing? character = some s ↔ item.Shows character s := by
  constructor
  · intro h
    simp only [standing?, Option.bind_eq_bind, Option.bind_eq_some_iff] at h
    obtain ⟨user, huser, rank, hrank, score, hscore, name, hname, hs⟩ := h
    obtain rfl := Option.some.inj hs
    exact ⟨by rw [huser]; rfl, hname, hrank, hscore, rfl, rfl⟩
  · intro h
    obtain ⟨user, huser, hs⟩ := Option.map_eq_some_iff.1 h.user
    obtain ⟨_, rank, score, name, team, c⟩ := s
    obtain rfl := hs
    obtain rfl := h.character
    simp only [standing?, huser, h.rank, h.score, h.name, h.team]
    rfl

end Standing

variable (character : Option Int)

/-- An item that has all it takes is shown, and no other. -/
theorem isSome_standing? (item : Item) :
    (item.standing? character).isSome = decide item.IsComplete := by
  obtain ⟨_ | userId, _ | name, _ | rank, _ | score, team⟩ := item <;> rfl

/-- The items that have all it takes are shown, in their order. -/
theorem forall₂_shown (items : List Item) :
    List.Forall₂ (Shows character) (items.filter IsComplete)
      (items.filterMap (standing? character)) := by
  induction items with
  | nil => exact .nil
  | cons item items ih =>
      have hcomplete := item.isSome_standing? character
      cases hshown : item.standing? character with
      | none =>
          rw [hshown] at hcomplete
          rw [List.filterMap_cons_none hshown, List.filter_cons_of_neg (by simp [← hcomplete])]
          exact ih
      | some s =>
          rw [hshown] at hcomplete
          rw [List.filterMap_cons_some hshown, List.filter_cons_of_pos (by simp [← hcomplete])]
          exact .cons (standing?_eq_some_iff.1 hshown) ih

/-- An item that has all it takes has its standing among those that are shown. -/
theorem exists_shown {items : List Item} {item : Item} (hitem : item ∈ items)
    (h : item.IsComplete) :
    ∃ s ∈ items.filterMap (standing? character), item.Shows character s := by
  have hsome : (item.standing? character).isSome = true := by
    rw [isSome_standing?]
    exact decide_eq_true h
  obtain ⟨s, hs⟩ := Option.isSome_iff_exists.1 hsome
  exact ⟨s, List.mem_filterMap.2 ⟨item, hitem, hs⟩, standing?_eq_some_iff.1 hs⟩

end Item

/-! ## Chapters -/

namespace Payload

variable (p : Payload) (c : Int)

/-- The first block of a chapter that is not marked as aggregated. -/
def block? : Option ChapterBlock :=
  p.blocks.find? fun block => block.character = some c ∧ block.aggregated ≠ some true

/-- The items of that block; none without one. -/
def chapterItems : List Item := (p.block? c).elim [] (·.items)

/-- The board of a chapter shows the items of one block. -/
theorem chapter_board :
    p.board.chapter c = (p.chapterItems c).filterMap (Item.standing? (some c)) := by
  have hblock : ∀ block : ChapterBlock, (block.board?.any fun b => b.character = c) =
      decide (block.character = some c ∧ block.aggregated ≠ some true) := by
    intro block
    unfold ChapterBlock.board?
    split
    · simp [*]
    · rename_i hmarked
      cases block.character <;> simp [hmarked]
  have hfind : p.board.chapters.find? (·.character = c) =
      (p.block? c).bind ChapterBlock.board? := by
    rw [board, block?, List.find?_filterMap]
    simp only [hblock]
  unfold Board.chapter chapterItems
  rw [hfind]
  cases hb : p.block? c with
  | none => rfl
  | some block =>
      have hfound := List.find?_some (p := fun block : ChapterBlock =>
        decide (block.character = some c ∧ block.aggregated ≠ some true)) hb
      obtain ⟨hcharacter, hmarked⟩ := of_decide_eq_true hfound
      simp [ChapterBlock.board?, hcharacter, hmarked]

theorem character_of_mem_chapter {s : Standing} (hs : s ∈ p.board.chapter c) :
    s.character = some c := by
  rw [chapter_board] at hs
  obtain ⟨item, -, hshown⟩ := List.mem_filterMap.1 hs
  exact (Item.standing?_eq_some_iff.1 hshown).character

end Payload

end RankLedger
