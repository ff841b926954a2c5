import Mathlib.Data.Finset.Card
import Mathlib.Data.List.DropRight
import RankLedger.Proofs.Answers.Kept

set_option autoImplicit false

/-! # What calls on a cache come to

A cache is called about any namespaces, in any order, and through any number of handles: these all
share it, so it makes no difference which of them a call goes through. What a call is answered is
told by the calls before it about the same namespace and their answers
(`ResponseCache.answers_told_by_past`), as long as nothing that is held outlives its lifetime and no
namespace runs out of generations. A namespace holds what was taken in since it was last invalidated
(`ResponseCache.Remembers`), and calls about others leave it alone
(`ResponseCache.filter_exchanges`). -/

namespace RankLedger

namespace ResponseCache

variable {α : Type}

/-! ## Calls -/

/-- What is asked of a namespace. -/
inductive Query (α : Type) where
  | generation
  | get (key : String)
  | put (key : String) (value : α) (generation : UInt64)
  | invalidate
  | count

/-- A call on a cache. -/
structure Call (α : Type) where
  ns : String
  now : Nat
  query : Query α

/-- What a call is answered. -/
inductive Answer (α : Type) where
  /-- A generation, or how many answers there are, or how many went. -/
  | number (n : Nat)
  | found (value : Option α)
  | taken (isTaken : Bool)
  deriving DecidableEq, Repr

/-- Answer a call: the answer, and the cache after it. -/
def perform (c : ResponseCache α) (call : Call α) : Answer α × ResponseCache α :=
  match call.query with
  | .generation => (.number (c.generation call.ns).toNat, c)
  | .get key => (.found (c.get call.now call.ns key), c)
  | .put key value generation =>
      (.taken (c.put call.now call.ns key value generation).1,
        (c.put call.now call.ns key value generation).2)
  | .invalidate => (.number (c.invalidate call.ns).1, (c.invalidate call.ns).2)
  | .count => (.number (c.count call.now call.ns), c)

/-- A call and its answer. -/
structure Exchange (α : Type) where
  call : Call α
  answer : Answer α

/-- The cache after calls. -/
def after (c : ResponseCache α) (calls : List (Call α)) : ResponseCache α :=
  calls.foldl (fun c call => (c.perform call).2) c

/-- Calls and what they are answered, one after another. -/
def exchanges (c : ResponseCache α) : List (Call α) → List (Exchange α)
  | [] => []
  | call :: calls => ⟨call, (c.perform call).1⟩ :: (c.perform call).2.exchanges calls

/-! ## What the past tells -/

namespace Exchange

/-- A namespace was invalidated. -/
def invalidates (ns : String) (x : Exchange α) : Bool :=
  x.call.ns = ns && x.call.query matches .invalidate

/-- What a namespace has taken in: a key, and what was put under it. -/
def takes? (ns : String) (x : Exchange α) : Option (String × KeptAnswer α) :=
  match x.call.query, x.answer with
  | .put key value _, .taken true =>
      if x.call.ns = ns then some (key, ⟨value, x.call.now⟩) else none
  | _, _ => none

end Exchange

/-- How often a namespace was invalidated. -/
def invalidations (ns : String) (past : List (Exchange α)) : Nat := past.countP (·.invalidates ns)

/-- What a namespace has taken in since it was last invalidated. -/
def takenSince (ns : String) (past : List (Exchange α)) : List (String × KeptAnswer α) :=
  (past.rtakeWhile (!·.invalidates ns)).filterMap (·.takes? ns)

/-- What a call is to be answered, by the past:

* a generation is the number of invalidations;
* what is put is taken in if its generation is that number;
* what is found was taken in last under the key, since the last invalidation;
* and the keys are counted under which something was taken in since then. -/
def answerAfter (past : List (Exchange α)) (call : Call α) : Answer α :=
  match call.query with
  | .generation => .number (invalidations call.ns past)
  | .put _ _ generation => .taken (generation.toNat = invalidations call.ns past)
  | .get key =>
      .found (((takenSince call.ns past).filter (·.1 = key)).getLast?.map (·.2.value))
  | .count => .number ((takenSince call.ns past).map (·.1)).toFinset.card
  | .invalidate => .number ((takenSince call.ns past).map (·.1)).toFinset.card

/-- Whatever its namespace has taken in is still fresh when a call comes. -/
def InTime (lifetime : Nat) (past : List (Exchange α)) (call : Call α) : Prop :=
  ∀ p ∈ takenSince call.ns past, call.now - p.2.since < lifetime * 1000000000

/-- In a new cache, nothing is held beyond its lifetime when a call comes. -/
def NothingExpires (lifetime : Nat) (calls : List (Call α)) : Prop :=
  ∀ before call rest, calls = before ++ call :: rest →
    InTime lifetime ((empty lifetime).exchanges before) call

section Past

variable (ns : String) (past : List (Exchange α)) (x : Exchange α)

theorem invalidations_concat :
    invalidations ns (past ++ [x]) =
      invalidations ns past + if x.invalidates ns then 1 else 0 := by
  simp [invalidations, List.countP_append, List.countP_singleton]

theorem takenSince_concat :
    takenSince ns (past ++ [x]) =
      if x.invalidates ns then [] else takenSince ns past ++ (x.takes? ns).toList := by
  unfold takenSince
  rw [List.rtakeWhile_concat]
  cases x.invalidates ns with
  | true => rfl
  | false =>
      rw [if_neg Bool.false_ne_true, Bool.not_false, if_pos rfl, List.filterMap_append]
      cases hx : x.takes? ns <;> simp [hx]

/-- What was taken in was put at its instant. -/
theorem exists_of_mem_takenSince {past : List (Exchange α)} {p : String × KeptAnswer α}
    (h : p ∈ takenSince ns past) : ∃ x ∈ past, x.call.now = p.2.since := by
  obtain ⟨x, hx, htakes⟩ := List.mem_filterMap.1 h
  refine ⟨x, (List.rtakeWhile_suffix _ past).subset hx, ?_⟩
  unfold Exchange.takes? at htakes
  split at htakes
  · split at htakes
    · obtain rfl := Option.some.inj htakes
      rfl
    · cases htakes
  · cases htakes

end Past

section Runs

variable (c : ResponseCache α) (calls : List (Call α)) (call : Call α)

theorem after_concat : c.after (calls ++ [call]) = ((c.after calls).perform call).2 := by
  simp [after]

theorem exchanges_concat : c.exchanges (calls ++ [call]) =
    c.exchanges calls ++ [⟨call, ((c.after calls).perform call).1⟩] := by
  induction calls generalizing c with
  | nil => rfl
  | cons first calls ih => simp only [List.cons_append, exchanges, ih, after, List.foldl_cons]

theorem map_call_exchanges : (c.exchanges calls).map (·.call) = calls := by
  induction calls generalizing c with
  | nil => rfl
  | cons call calls ih => simp only [exchanges, List.map_cons, ih]

end Runs

/-- Nothing expires in less time than the lifetime. -/
theorem nothingExpires_of_brief {lifetime : Nat} {calls : List (Call α)}
    (h : ∀ a ∈ calls, ∀ b ∈ calls, b.now - a.now < lifetime * 1000000000) :
    NothingExpires lifetime calls := by
  rintro before call rest rfl p hp
  obtain ⟨x, hx, hnow⟩ := exists_of_mem_takenSince _ hp
  have hbefore : x.call ∈ before := map_call_exchanges _ before ▸ List.mem_map_of_mem hx
  rw [← hnow]
  exact h x.call (List.mem_append_left _ hbefore) call (by simp)

/-! ## Namespaces are apart -/

section Apart

variable (c : ResponseCache α) (call : Call α)

theorem lifetime_perform : (c.perform call).2.lifetime = c.lifetime := by
  unfold perform
  cases call.query with
  | put key value generation =>
      simp only [put]
      split <;> rfl
  | _ => rfl

/-- A call leaves other namespaces alone. -/
theorem space_perform_of_ne {ns : String} (h : call.ns ≠ ns) :
    (c.perform call).2.space ns = c.space ns := by
  unfold perform
  cases call.query with
  | put key value generation => exact c.space_put_of_ne call.now key value generation h
  | invalidate => simp only [space_invalidate, if_neg h]
  | _ => rfl

variable {c} {c' : ResponseCache α}

/-- Only the namespace of a call counts for its answer, and for what the namespace comes to hold. -/
theorem perform_congr (hlifetime : c'.lifetime = c.lifetime)
    (hspace : c'.space call.ns = c.space call.ns) :
    (c'.perform call).1 = (c.perform call).1
      ∧ (c'.perform call).2.space call.ns = (c.perform call).2.space call.ns := by
  have hfresh : c'.isFresh = c.isFresh := by
    funext now a
    simp only [isFresh, hlifetime]
  unfold perform
  cases call.query with
  | generation => exact ⟨by simp only [ResponseCache.generation, hspace], hspace⟩
  | get key => exact ⟨by simp only [get, hspace, hfresh], hspace⟩
  | put key value generation =>
      simp only [put, hspace, hfresh]
      split
      · simp [space_putSpace]
      · exact ⟨rfl, hspace⟩
  | invalidate => simp [invalidate, hspace, space_putSpace]
  | count => exact ⟨by simp only [count, hspace, hfresh], hspace⟩

/-- Calls about other namespaces can as well be left out. -/
theorem filter_exchanges {ns : String} (hlifetime : c'.lifetime = c.lifetime)
    (hspace : c'.space ns = c.space ns) (calls : List (Call α)) :
    (c.exchanges calls).filter (·.call.ns = ns) = c'.exchanges (calls.filter (·.ns = ns)) := by
  induction calls generalizing c c' with
  | nil => rfl
  | cons call calls ih =>
      have hafter : (c.perform call).2.lifetime = c.lifetime := c.lifetime_perform call
      by_cases hns : call.ns = ns
      · subst hns
        obtain ⟨hanswer, hspace'⟩ := perform_congr call hlifetime hspace
        have hafter' : (c'.perform call).2.lifetime = c'.lifetime := c'.lifetime_perform call
        rw [List.filter_cons_of_pos (by simp), exchanges, exchanges,
          List.filter_cons_of_pos (by simp), hanswer,
          ih (hafter'.trans (hlifetime.trans hafter.symm)) hspace']
      · rw [List.filter_cons_of_neg (by simpa using hns), exchanges,
          List.filter_cons_of_neg (by simpa using hns)]
        exact ih (hlifetime.trans hafter.symm) (hspace.trans (c.space_perform_of_ne call hns).symm)

end Apart

/-! ## What a namespace holds -/

/-- What was taken in, one after another. -/
def holding (ps : List (String × KeptAnswer α)) : Keyed String (KeptAnswer α) :=
  ps.foldl (fun m p => m.put p.1 p.2) []

theorem get?_holding (ps : List (String × KeptAnswer α)) (key : String) :
    (holding ps).get? key = (ps.filter (·.1 = key)).getLast?.map (·.2) := by
  unfold holding
  rw [Keyed.get?_foldl_put]
  exact Option.or_none

theorem holding_concat (ps : List (String × KeptAnswer α)) (p : String × KeptAnswer α) :
    holding (ps ++ [p]) = Keyed.put (holding ps) p.1 p.2 := by
  simp [holding]

/-- Nothing is held that was not taken in. -/
theorem mem_of_mem_holding {ps : List (String × KeptAnswer α)} {p : String × KeptAnswer α}
    (h : p ∈ holding ps) : p ∈ ps := by
  induction ps using List.reverseRecOn with
  | nil => exact h
  | append_singleton ps q ih =>
      rw [holding_concat] at h
      rw [List.mem_append, List.mem_singleton]
      exact (Database.mem_of_mem_put h).symm.imp_left ih

/-- As many answers are held as there are keys. -/
theorem length_holding (ps : List (String × KeptAnswer α)) :
    (holding ps).length = (ps.map (·.1)).toFinset.card := by
  have hnodup : (Keyed.keys (holding ps)).Nodup :=
    Keyed.nodup_keys_foldl_put (m := []) List.nodup_nil ps
  have hkeys : (Keyed.keys (holding ps)).toFinset = (ps.map (·.1)).toFinset := by
    ext key
    rw [List.mem_toFinset, List.mem_toFinset, holding, Keyed.mem_keys_foldl_put]
    simp [Keyed.keys]
  rw [← hkeys, List.toFinset_card_of_nodup hnodup]
  simp [Keyed.keys]

/-- Each namespace holds what it has taken in since it was last invalidated, and its generation
counts the invalidations. -/
def Remembers (c : ResponseCache α) (past : List (Exchange α)) : Prop :=
  ∀ ns, c.space ns = ⟨UInt64.ofNat (invalidations ns past), holding (takenSince ns past)⟩

section Step

variable {c : ResponseCache α} {past : List (Exchange α)} {call : Call α}

/-- A call that neither puts nor invalidates is soon forgotten. -/
theorem Remembers.of_idle (h : c.Remembers past) {x : Exchange α}
    (hinvalidates : ∀ ns, x.invalidates ns = false) (htakes : ∀ ns, x.takes? ns = none) :
    c.Remembers (past ++ [x]) := by
  intro ns
  rw [h ns, invalidations_concat, takenSince_concat, hinvalidates, htakes]
  simp

/-- In time, all that a namespace holds is fresh. -/
theorem Remembers.filter_fresh (h : c.Remembers past) (htime : InTime c.lifetime past call) :
    ((c.space call.ns).answers.filter fun p => c.isFresh call.now p.2) =
      holding (takenSince call.ns past) := by
  rw [h call.ns, List.filter_eq_self]
  intro p hp
  exact decide_eq_true (htime p (mem_of_mem_holding hp))

theorem Remembers.put_fst (h : c.Remembers past)
    (hrounds : invalidations call.ns past < UInt64.size) (key : String) (value : α)
    (generation : UInt64) :
    (c.put call.now call.ns key value generation).1 =
      decide (generation.toNat = invalidations call.ns past) := by
  have hgeneration : (c.space call.ns).generation = generation ↔
      generation.toNat = invalidations call.ns past := by
    rw [h call.ns, ← UInt64.toNat_inj, UInt64.toNat_ofNat_of_lt' hrounds, eq_comm]
  simp only [put, hgeneration]
  split <;> simp [*]

/-- A call is answered by the past. -/
theorem Remembers.answer (h : c.Remembers past) (htime : InTime c.lifetime past call)
    (hrounds : invalidations call.ns past < UInt64.size) :
    (c.perform call).1 = answerAfter past call := by
  unfold perform answerAfter
  cases call.query with
  | generation =>
      show Answer.number _ = Answer.number _
      rw [ResponseCache.generation, h call.ns, UInt64.toNat_ofNat_of_lt' hrounds]
  | get key =>
      show Answer.found _ = Answer.found _
      have hfilter : ((holding (takenSince call.ns past)).get? key).filter (c.isFresh call.now) =
          (holding (takenSince call.ns past)).get? key := by
        cases hheld : (holding (takenSince call.ns past)).get? key with
        | none => rfl
        | some a =>
            have hfresh : c.isFresh call.now a = true :=
              decide_eq_true (htime _ (mem_of_mem_holding (Keyed.mem_of_get? hheld)))
            rw [Option.filter_some, if_pos hfresh]
      rw [get, h call.ns, hfilter, get?_holding, Option.map_map]
      rfl
  | put key value generation => exact congrArg Answer.taken (h.put_fst hrounds key value generation)
  | invalidate =>
      show Answer.number _ = Answer.number _
      rw [invalidate, h call.ns, length_holding]
  | count =>
      show Answer.number _ = Answer.number _
      rw [count, h.filter_fresh htime, length_holding]

/-- A call is remembered with its answer. -/
theorem Remembers.perform (h : c.Remembers past) (htime : InTime c.lifetime past call) :
    (c.perform call).2.Remembers (past ++ [⟨call, (c.perform call).1⟩]) := by
  rcases call with ⟨ns, now, query⟩
  cases query with
  | generation => exact h.of_idle (fun _ => by simp [Exchange.invalidates]) fun _ => rfl
  | get key => exact h.of_idle (fun _ => by simp [Exchange.invalidates]) fun _ => rfl
  | count => exact h.of_idle (fun _ => by simp [Exchange.invalidates]) fun _ => rfl
  | invalidate =>
      intro ns'
      rw [invalidations_concat, takenSince_concat]
      show (c.invalidate ns).2.space ns' = _
      rw [space_invalidate]
      by_cases hns : ns = ns'
      · subst hns
        simp [Exchange.invalidates, ResponseCache.generation, h ns, UInt64.ofNat_add, holding]
      · simp [Exchange.invalidates, Exchange.takes?, hns, h ns']
  | put key value generation =>
      have hfresh := h.filter_fresh htime
      by_cases hgeneration : (c.space ns).generation = generation
      · -- Taken in: it comes after all that is held, as nothing has expired.
        have hput : c.put now ns key value generation = (true, c.putSpace ns
            { c.space ns with
              answers := Keyed.put (holding (takenSince ns past)) key ⟨value, now⟩ }) := by
          simp only [put, if_pos hgeneration, hfresh]
        intro ns'
        rw [invalidations_concat, takenSince_concat]
        simp only [ResponseCache.perform, hput, space_putSpace]
        by_cases hns : ns = ns'
        · subst hns
          simp [Exchange.invalidates, Exchange.takes?, holding_concat, h ns]
        · simp [Exchange.invalidates, Exchange.takes?, hns, h ns']
      · have hput : c.put now ns key value generation = (false, c) := by
          simp only [put, if_neg hgeneration]
        simp only [ResponseCache.perform, hput]
        exact h.of_idle (fun _ => by simp [Exchange.invalidates]) fun _ => rfl

end Step

/-! ## Runs of a new cache -/

section New

variable {lifetime : Nat} {calls : List (Call α)}

theorem lifetime_after (c : ResponseCache α) (calls : List (Call α)) :
    (c.after calls).lifetime = c.lifetime := by
  induction calls generalizing c with
  | nil => rfl
  | cons call calls ih => exact (ih (c.perform call).2).trans (c.lifetime_perform call)

theorem NothingExpires.of_concat {call : Call α} (h : NothingExpires lifetime (calls ++ [call])) :
    NothingExpires lifetime calls ∧ InTime lifetime ((empty lifetime).exchanges calls) call := by
  refine ⟨fun before call' rest hsplit => h before call' (rest ++ [call]) ?_, h calls call [] rfl⟩
  rw [hsplit, List.append_assoc, List.cons_append]

theorem remembers_after (h : NothingExpires lifetime calls) :
    ((empty lifetime).after calls).Remembers ((empty lifetime).exchanges calls) := by
  induction calls using List.reverseRecOn with
  | nil => exact fun ns => rfl
  | append_singleton calls call ih =>
      obtain ⟨hbefore, htime⟩ := h.of_concat
      rw [after_concat, exchanges_concat]
      exact (ih hbefore).perform (by rwa [lifetime_after])

end New

/-- After any calls on a new cache, whose lifetime is such that nothing has expired, and with fewer
invalidations of the namespace than there are generations, the next call is answered as the calls
before it tell, with their answers. What is asked about a namespace is answered as if nothing else
were asked. -/
theorem answers_told_by_past (lifetime : Nat) (calls : List (Call α)) (call : Call α)
    (hlasts : NothingExpires lifetime (calls ++ [call]))
    (hrounds : invalidations call.ns ((empty lifetime).exchanges calls) < UInt64.size) :
    (((empty lifetime).after calls).perform call).1 =
        answerAfter ((empty lifetime).exchanges calls) call
      ∧ ∀ ns, ((empty lifetime).exchanges calls).filter (·.call.ns = ns) =
        (empty lifetime).exchanges (calls.filter (·.ns = ns)) := by
  obtain ⟨hbefore, htime⟩ := hlasts.of_concat
  refine ⟨(remembers_after hbefore).answer (by rwa [lifetime_after]) hrounds, fun ns => ?_⟩
  exact filter_exchanges rfl rfl calls

/-- An answer is put twice, its namespace is invalidated, and it comes once more with the generation
of before; another comes with the one of after. -/
def racedCalls : List (Call Nat) :=
  [⟨"jp", 0, .generation⟩, ⟨"jp", 1, .put "a" 10 0⟩, ⟨"en", 2, .put "a" 90 0⟩,
    ⟨"jp", 3, .put "a" 11 0⟩, ⟨"jp", 4, .invalidate⟩, ⟨"jp", 5, .put "a" 12 0⟩,
    ⟨"jp", 6, .put "b" 20 1⟩, ⟨"jp", 7, .put "b" 21 1⟩]

/-- What came too late is not found, of the other the last value is, and it counts once; the other
namespace is as if it were alone. -/
theorem answers_told_by_past_raced :
    (∀ query, NothingExpires 60 (racedCalls ++ [⟨"jp", 8, query⟩]))
      ∧ invalidations "jp" ((empty 60).exchanges racedCalls) < UInt64.size
      ∧ (((empty 60).after racedCalls).perform ⟨"jp", 8, .get "a"⟩).1 = .found none
      ∧ (((empty 60).after racedCalls).perform ⟨"jp", 8, .get "b"⟩).1 = .found (some 21)
      ∧ (((empty 60).after racedCalls).perform ⟨"jp", 8, .count⟩).1 = .number 1
      ∧ ((empty 60).exchanges racedCalls).filter (·.call.ns = "en") =
        (empty 60).exchanges [⟨"en", 2, .put "a" 90 0⟩] := by
  have hlasts : ∀ query, NothingExpires 60 (racedCalls ++ [⟨"jp", 8, query⟩]) := by
    refine fun query => nothingExpires_of_brief fun a ha b hb => ?_
    have hbrief : ∀ c ∈ racedCalls ++ [⟨"jp", 8, query⟩], c.now ≤ 8 := by
      simp [racedCalls]
    exact Nat.lt_of_le_of_lt (Nat.le_trans (Nat.sub_le _ _) (hbrief b hb)) (by decide)
  have hrounds : invalidations "jp" ((empty 60).exchanges racedCalls) < UInt64.size := by
    decide +kernel
  have htold := fun query =>
    answers_told_by_past 60 racedCalls ⟨"jp", 8, query⟩ (hlasts query) hrounds
  refine ⟨hlasts, hrounds, ?_, ?_, ?_, (htold .count).2 "en"⟩
  · rw [(htold (.get "a")).1]
    decide +kernel
  · rw [(htold (.get "b")).1]
    decide +kernel
  · rw [(htold .count).1]
    decide +kernel

end ResponseCache

end RankLedger
