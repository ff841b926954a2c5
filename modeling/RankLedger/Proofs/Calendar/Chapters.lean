import Mathlib.Data.List.Forall2
import Mathlib.Data.Finset.Card
import RankLedger.Calendar.Entry

set_option autoImplicit false

/-! # The chapters of an event

The chapters that a calendar gives an event stand in strictly ascending order of characters
(`isAscending_chapterPhases`). Which characters they are does not depend on the instant, and as time
goes on the phase of each goes up (`chapterPhases_later`), whatever the order of the times in an
entry. -/

namespace RankLedger

open Json (Value)

/-! ## Windows -/

theorem ChapterWindow.phaseAt_mono (w : ChapterWindow) {now now' : Int} (h : now ≤ now') :
    w.phaseAt now ≤ w.phaseAt now' := by
  rw [Phase.le_iff]
  unfold ChapterWindow.phaseAt
  by_cases hfinish : w.finish ≤ now'
  · rw [if_pos hfinish]
    split_ifs <;> decide
  · -- What has not come later has not come earlier.
    have hfinish' : ¬ w.finish ≤ now := by omega
    rw [if_neg hfinish, if_neg hfinish']
    by_cases haggregate : w.aggregate ≤ now'
    · rw [if_pos haggregate]
      split_ifs <;> decide
    · have haggregate' : ¬ w.aggregate ≤ now := by omega
      rw [if_neg haggregate, if_neg haggregate']
      by_cases hstart : w.start ≤ now'
      · rw [if_pos hstart]
        split_ifs <;> decide
      · have hstart' : ¬ w.start ≤ now := by omega
        rw [if_neg hstart, if_neg hstart']

theorem Phase.eq_ended_of_le {p : Phase} (h : Phase.ended ≤ p) : p = .ended := by
  cases p with
  | ended => rfl
  | notStarted => exact absurd h (by decide)
  | ongoing => exact absurd h (by decide)
  | aggregating => exact absurd h (by decide)

namespace ChapterPhase

/-! ## Placing a chapter -/

/-- Chapters in strictly ascending order of characters. -/
def IsAscending (cs : List ChapterPhase) : Prop := cs.Pairwise fun c d => c.character < d.character

/-- The same chapter later on. -/
def Later (c d : ChapterPhase) : Prop := d.character = c.character ∧ c.phase ≤ d.phase

theorem mem_of_mem_place {c d : ChapterPhase} {ds : List ChapterPhase} (h : d ∈ place c ds) :
    d = c ∨ d ∈ ds := by
  induction ds with
  | nil => exact Or.inl (List.mem_singleton.1 h)
  | cons e ds ih =>
      unfold place at h
      split at h
      · exact List.mem_cons.1 h
      · split at h
        · rcases List.mem_cons.1 h with h | h
          · exact Or.inl h
          · exact Or.inr (List.mem_cons_of_mem _ h)
        · rcases List.mem_cons.1 h with h | h
          · exact Or.inr (h ▸ List.mem_cons_self)
          · exact (ih h).imp_right (List.mem_cons_of_mem _)

theorem IsAscending.place {c : ChapterPhase} {ds : List ChapterPhase} (h : IsAscending ds) :
    IsAscending (place c ds) := by
  induction ds with
  | nil => exact List.pairwise_singleton _ c
  | cons d ds ih =>
      obtain ⟨hd, hds⟩ := List.pairwise_cons.1 h
      unfold ChapterPhase.place
      split
      · rename_i hlt
        refine List.pairwise_cons.2 ⟨fun e he => ?_, h⟩
        rcases List.mem_cons.1 he with rfl | he
        · exact hlt
        · exact Int.lt_trans hlt (hd e he)
      · split
        · rename_i heq
          exact List.pairwise_cons.2 ⟨fun e he => heq ▸ hd e he, hds⟩
        · rename_i hlt hne
          refine List.pairwise_cons.2 ⟨fun e he => ?_, ih hds⟩
          rcases mem_of_mem_place he with rfl | he
          · omega
          · exact hd e he

theorem Later.place {c c' : ChapterPhase} {ds ds' : List ChapterPhase} (hc : c.Later c')
    (h : List.Forall₂ Later ds ds') : List.Forall₂ Later (place c ds) (place c' ds') := by
  induction h with
  | nil => exact .cons hc .nil
  | cons hd h ih =>
      unfold ChapterPhase.place
      rw [hc.1, hd.1]
      split_ifs
      · exact .cons hc (.cons hd h)
      · exact .cons hc h
      · exact .cons hd ih

theorem IsAscending.eq_of_character {cs : List ChapterPhase} (h : IsAscending cs)
    {c d : ChapterPhase} (hc : c ∈ cs) (hd : d ∈ cs) (hcd : c.character = d.character) : c = d := by
  induction cs with
  | nil => cases hc
  | cons e cs ih =>
      obtain ⟨he, hcs⟩ := List.pairwise_cons.1 h
      rcases List.mem_cons.1 hc with hc | hc <;> rcases List.mem_cons.1 hd with hd | hd
      · rw [hc, hd]
      · have hlt := he d hd
        rw [← hc] at hlt
        omega
      · have hlt := he c hc
        rw [← hd] at hlt
        omega
      · exact ih hcs hc hd

/-- The first chapter of its kind is the one with the smallest character. -/
theorem IsAscending.not_of_find? {cs : List ChapterPhase} (h : IsAscending cs)
    {p : ChapterPhase → Bool} {c d : ChapterPhase} (hc : cs.find? p = some c) (hd : d ∈ cs)
    (hlt : d.character < c.character) : p d = false := by
  induction cs with
  | nil => cases hd
  | cons e cs ih =>
      obtain ⟨he, hcs⟩ := List.pairwise_cons.1 h
      by_cases hp : p e = true
      · rw [List.find?_cons_of_pos hp] at hc
        obtain rfl := Option.some.inj hc
        rcases List.mem_cons.1 hd with rfl | hd
        · exact absurd hlt (by omega)
        · exact absurd (he d hd) (by omega)
      · rw [List.find?_cons_of_neg hp] at hc
        rcases List.mem_cons.1 hd with rfl | hd
        · simpa using hp
        · exact ih hcs hc hd

theorem IsAscending.find?_eq_some_iff {cs : List ChapterPhase} (h : IsAscending cs)
    {p : ChapterPhase → Bool} {c : ChapterPhase} (hc : c ∈ cs) :
    cs.find? p = some c ↔
      p c = true ∧ ∀ d ∈ cs, d.character < c.character → p d = false := by
  constructor
  · intro hfind
    exact ⟨List.find?_some hfind, fun d hd hlt => h.not_of_find? hfind hd hlt⟩
  · rintro ⟨hpc, hfirst⟩
    cases hfind : cs.find? p with
    | none => exact absurd hpc (List.find?_eq_none.1 hfind c hc)
    | some d =>
        have hd := List.mem_of_find?_eq_some hfind
        rcases Int.lt_trichotomy d.character c.character with hlt | heq | hgt
        · have hpd := List.find?_some hfind
          rw [hfirst d hd hlt] at hpd
          cases hpd
        · rw [h.eq_of_character hd hc heq]
        · have hpc' := h.not_of_find? hfind hc hgt
          rw [hpc] at hpc'
          cases hpc'

end ChapterPhase

/-! ## The chapters of a calendar -/

/-- The characters with a chapter in an event. -/
def chapterCharacters (eventId : Int) (entries : List Value) : Finset Int :=
  (((entries.filterMap CalendarChapter.ofValue?).filter (·.eventId = eventId)).map
    (·.character)).toFinset

open ChapterPhase

theorem isAscending_chapterPhases (eventId now : Int) (entries : List Value) :
    IsAscending (chapterPhases eventId now entries) := by
  have hfold : ∀ (cs : List CalendarChapter) (ds : List ChapterPhase), IsAscending ds →
      IsAscending (cs.foldl (fun ds c => place ⟨c.character, c.window.phaseAt now⟩ ds) ds) := by
    intro cs
    induction cs with
    | nil => exact fun ds hds => hds
    | cons c cs ih => exact fun ds hds => ih _ hds.place
  exact hfold _ [] List.Pairwise.nil

theorem chapterPhases_later (eventId : Int) {now now' : Int} (h : now ≤ now')
    (entries : List Value) :
    List.Forall₂ Later (chapterPhases eventId now entries)
      (chapterPhases eventId now' entries) := by
  have hfold : ∀ (cs : List CalendarChapter) (ds ds' : List ChapterPhase),
      List.Forall₂ Later ds ds' → List.Forall₂ Later
        (cs.foldl (fun ds c => place ⟨c.character, c.window.phaseAt now⟩ ds) ds)
        (cs.foldl (fun ds c => place ⟨c.character, c.window.phaseAt now'⟩ ds) ds') := by
    intro cs
    induction cs with
    | nil => exact fun ds ds' hds => hds
    | cons c cs ih =>
        intro ds ds' hds
        have hc : Later ⟨c.character, c.window.phaseAt now⟩ ⟨c.character, c.window.phaseAt now'⟩ :=
          ⟨rfl, c.window.phaseAt_mono h⟩
        exact ih _ _ (hc.place hds)
  exact hfold _ [] [] .nil

theorem ended_chapterPhases {eventId now now' character : Int} (h : now ≤ now')
    {entries : List Value} (hc : ⟨character, .ended⟩ ∈ chapterPhases eventId now entries) :
    ⟨character, .ended⟩ ∈ chapterPhases eventId now' entries := by
  have hlater := chapterPhases_later eventId h entries
  generalize chapterPhases eventId now entries = cs at hc hlater
  generalize chapterPhases eventId now' entries = ds at hlater
  induction hlater with
  | nil => cases hc
  | @cons c d cs ds hcd hcs ih =>
      rcases List.mem_cons.1 hc with rfl | hc
      · have hended : d = ⟨character, .ended⟩ := by
          obtain ⟨hcharacter, hphase⟩ := hcd
          cases d
          exact congrArg₂ ChapterPhase.mk hcharacter (Phase.eq_ended_of_le hphase)
        exact hended ▸ List.mem_cons_self
      · exact List.mem_cons_of_mem _ (ih hc)

theorem mem_chapterCharacters {eventId now : Int} {entries : List Value} {c : ChapterPhase}
    (hc : c ∈ chapterPhases eventId now entries) :
    c.character ∈ chapterCharacters eventId entries := by
  have hfold : ∀ (cs : List CalendarChapter) (ds : List ChapterPhase),
      c ∈ cs.foldl (fun ds c => place ⟨c.character, c.window.phaseAt now⟩ ds) ds →
        c ∈ ds ∨ c.character ∈ cs.map (·.character) := by
    intro cs
    induction cs with
    | nil => exact fun ds h => Or.inl h
    | cons e cs ih =>
        intro ds h
        rcases ih _ h with h | h
        · rcases mem_of_mem_place h with rfl | h
          · exact Or.inr List.mem_cons_self
          · exact Or.inl h
        · exact Or.inr (List.mem_cons_of_mem _ h)
  rcases hfold _ [] hc with h | h
  · cases h
  · exact List.mem_toFinset.2 h

end RankLedger
