import RankLedger.Api.Reply

set_option autoImplicit false

/-! # What answers are kept

What `get` finds was put, what `put` adds is the one answer offered, and what `invalidate` leaves of
a namespace is its next generation. `Fleet.compute_eq` says in one equation what becomes of a
request that is answered from the store. -/

namespace RankLedger

namespace ResponseCache

variable {α : Type} (c : ResponseCache α) (now : Nat) (ns key : String)

/-- An answer that is found is kept under its key. -/
theorem mem_answers_of_get {value : α} (h : c.get now ns key = some value) :
    ∃ since, (key, ⟨value, since⟩) ∈ (c.space ns).answers := by
  unfold get at h
  obtain ⟨a, hfound, rfl⟩ := Option.map_eq_some_iff.1 h
  exact ⟨a.since, Keyed.mem_of_get? (Option.filter_eq_some_iff.1 hfound).1⟩

@[simp] theorem generation_put (value : α) (generation : UInt64) (ns' : String) :
    (c.put now ns key value generation).2.generation ns' = c.generation ns' := by
  simp only [put]
  split
  · unfold ResponseCache.generation
    rw [space_putSpace]
    split
    · rename_i hns
      rw [hns]
    · rfl
  · rfl

/-- What is kept after an offer was kept before, or is what was offered under the generation. -/
theorem mem_answers_put {value : α} {generation : UInt64} {p : String × KeptAnswer α}
    (h : p ∈ ((c.put now ns key value generation).2.space ns).answers) :
    p ∈ (c.space ns).answers ∨ p = (key, ⟨value, now⟩) ∧ c.generation ns = generation := by
  simp only [put] at h
  split at h
  · rename_i hgeneration
    rw [space_putSpace, if_pos rfl] at h
    rcases Database.mem_of_mem_put h with rfl | hp
    · exact Or.inr ⟨rfl, hgeneration⟩
    · exact Or.inl (List.mem_filter.1 hp).1
  · exact Or.inl h

theorem generation_invalidate :
    (c.invalidate ns).2.generation ns = c.generation ns + 1 := by
  rw [ResponseCache.generation, space_invalidate, if_pos rfl]

theorem answers_invalidate : ((c.invalidate ns).2.space ns).answers = [] := by
  rw [space_invalidate, if_pos rfl]

/-- Two counts of drops that give one generation are the same, if they are less than a round
apart. -/
theorem ofNat_inj_of_lt {n m : Nat} (h : UInt64.ofNat n = UInt64.ofNat m) (hle : n ≤ m)
    (hlt : m < n + UInt64.size) : n = m := by
  have hmod := congrArg UInt64.toNat h
  have hsize : UInt64.size = 18446744073709551616 := rfl
  simp only [UInt64.toNat_ofNat'] at hmod
  omega

end ResponseCache

/-! ## Answers from the store -/

namespace Fleet

open Api
open Json (Value)

/-- What a request is told that has come to a result. -/
def told : Except Halt Value → Option Reply
  | .ok body => some (.ok body)
  | .error (.failure f) => some (.ofFailure f)
  | .error .overflow => none

/-- What is kept when a request has come to a result. -/
def keeping (c : ResponseCache Value) (now : Nat) (ns key : String) (generation : UInt64) :
    Except Halt Value → ResponseCache Value
  | .ok body => (c.put now ns key body generation).2
  | .error _ => c

theorem compute_eq (f : Fleet) (region : Region) (p : Post) (now : Instant) (key : String)
    (question : ReadPlan Value) :
    f.compute region p now key question =
      (told (p.store.run question).1,
        { f.putPost region { p with store := (p.store.run question).2 } with
          cache := keeping f.cache now.ticks region.name key (f.cache.generation region.name)
            (p.store.run question).1 }) := by
  simp only [compute]
  rcases p.store.run question with ⟨why | body, store⟩
  · cases why with
    | failure e => rfl
    | overflow => rfl
  · rfl

end Fleet

end RankLedger
