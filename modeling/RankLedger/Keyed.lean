set_option autoImplicit false

/-! # Finite maps as lists of pairs

A `Keyed` map keeps its keys in the order in which they were first put, and each key once. Reading
after a `put` is settled by `get?_put`; `put` never moves a key and never makes a second copy. -/

namespace RankLedger

/-- A finite map from keys to values, in the order in which the keys first came. -/
abbrev Keyed (κ ν : Type) : Type := List (κ × ν)

namespace Keyed

variable {κ ν : Type} [DecidableEq κ]

/-- The value under a key. -/
def get? : Keyed κ ν → κ → Option ν
  | [], _ => none
  | p :: m, k => if p.1 = k then some p.2 else get? m k

/-- Replace the value under a key where the key stands, or add the key at the end. -/
def put : Keyed κ ν → κ → ν → Keyed κ ν
  | [], k, v => [(k, v)]
  | p :: m, k, v => if p.1 = k then (k, v) :: m else p :: put m k v

/-- Whether a key is present. -/
def has (m : Keyed κ ν) (k : κ) : Bool := (get? m k).isSome

/-- The keys in order. -/
def keys (m : Keyed κ ν) : List κ := m.map (·.1)

@[simp] theorem get?_nil (k : κ) : get? ([] : Keyed κ ν) k = none := rfl

theorem get?_put (m : Keyed κ ν) (k : κ) (v : ν) (k' : κ) :
    get? (put m k v) k' = if k = k' then some v else get? m k' := by
  induction m with
  | nil => simp [put, get?]
  | cons p m ih =>
      by_cases hp : p.1 = k
      · by_cases hk : k = k'
        · simp [put, get?, hp, hk]
        · simp [put, get?, hp, hk]
      · by_cases hk : p.1 = k'
        · have hne : k ≠ k' := fun h => hp (hk.trans h.symm)
          have hne' : k' ≠ k := fun h => hne h.symm
          simp [put, get?, hk, hne, hne']
        · simp [put, get?, hp, hk, ih]

@[simp] theorem get?_put_self (m : Keyed κ ν) (k : κ) (v : ν) : get? (put m k v) k = some v := by
  simp [get?_put]

/-- When things are put one after another, what is put last under a key counts. -/
theorem get?_foldl_put {α : Type} (key : α → κ) (value : α → ν) (m : Keyed κ ν) (xs : List α)
    (k : κ) : get? (xs.foldl (fun m x => put m (key x) (value x)) m) k =
      ((xs.filter (key · = k)).getLast?.map value).or (get? m k) := by
  induction xs generalizing m with
  | nil => rfl
  | cons x xs ih =>
      rw [List.foldl_cons, ih, get?_put]
      by_cases hx : key x = k
      · rw [if_pos hx, List.filter_cons_of_pos (by simpa using hx), List.getLast?_cons]
        cases (xs.filter (key · = k)).getLast? <;> rfl
      · rw [if_neg hx, List.filter_cons_of_neg (by simpa using hx)]

/-- The keys are those under which something is found. -/
theorem contains_keys (m : Keyed κ ν) (k : κ) : (keys m).contains k = (get? m k).isSome := by
  induction m with
  | nil => rfl
  | cons p m ih =>
      have hcons : (keys (p :: m)).contains k = (decide (k = p.1) || (keys m).contains k) := by
        rw [Bool.eq_iff_iff]
        simp [keys]
      rw [hcons, ih, get?]
      by_cases hp : p.1 = k
      · simp [hp]
      · simp [hp, Ne.symm hp]

theorem put_put (m : Keyed κ ν) (k : κ) (v v' : ν) : put (put m k v) k v' = put m k v' := by
  induction m with
  | nil => simp [put]
  | cons p m ih =>
      by_cases hp : p.1 = k
      · simp [put, hp]
      · simp [put, hp, ih]

theorem mem_keys_put {m : Keyed κ ν} {k : κ} {v : ν} {k' : κ} :
    k' ∈ keys (put m k v) ↔ k' = k ∨ k' ∈ keys m := by
  induction m with
  | nil => simp [put, keys]
  | cons p m ih =>
      unfold put
      split
      · rename_i hp
        subst hp
        simp [keys]
      · simp only [keys, List.map_cons, List.mem_cons] at ih ⊢
        rw [ih]
        exact or_left_comm

/-- No key comes to stand twice. -/
theorem nodup_keys_put {m : Keyed κ ν} (h : (keys m).Nodup) (k : κ) (v : ν) :
    (keys (put m k v)).Nodup := by
  induction m with
  | nil => simp [put, keys]
  | cons p m ih =>
      simp only [keys, List.map_cons, List.nodup_cons] at h
      unfold put
      split
      · rename_i hp
        simpa only [keys, List.map_cons, List.nodup_cons, ← hp] using h
      · rename_i hp
        have hnot : p.1 ∉ keys (put m k v) := by
          rw [mem_keys_put]
          exact fun hor => hor.elim hp h.1
        exact List.nodup_cons.2 ⟨hnot, ih h.2⟩

theorem mem_keys_foldl_put {α : Type} {key : α → κ} {value : α → ν} {m : Keyed κ ν} {xs : List α}
    {k : κ} : k ∈ keys (xs.foldl (fun m x => put m (key x) (value x)) m) ↔
      k ∈ keys m ∨ k ∈ xs.map key := by
  induction xs generalizing m with
  | nil => simp
  | cons x xs ih =>
      rw [List.foldl_cons, ih, mem_keys_put, List.map_cons, List.mem_cons, or_assoc]
      exact or_left_comm

theorem nodup_keys_foldl_put {α : Type} {key : α → κ} {value : α → ν} {m : Keyed κ ν}
    (h : (keys m).Nodup) (xs : List α) :
    (keys (xs.foldl (fun m x => put m (key x) (value x)) m)).Nodup := by
  induction xs generalizing m with
  | nil => exact h
  | cons x xs ih => exact ih (nodup_keys_put h (key x) (value x))

/-- Where no key stands twice, what is found under a key is all that stands there. -/
theorem filter_of_nodup_keys {m : Keyed κ ν} (h : (keys m).Nodup) (k : κ) :
    m.filter (·.1 = k) = (get? m k).toList.map fun v => (k, v) := by
  induction m with
  | nil => rfl
  | cons p m ih =>
      simp only [keys, List.map_cons, List.nodup_cons] at h
      unfold get?
      split
      · rename_i hp
        subst hp
        have hrest : m.filter (·.1 = p.1) = [] := by
          refine List.filter_eq_nil_iff.2 fun q hq hkey => h.1 ?_
          exact List.mem_map.2 ⟨q, hq, of_decide_eq_true hkey⟩
        simp [hrest]
      · rename_i hp
        rw [List.filter_cons_of_neg (by simpa using hp)]
        exact ih h.2

/-- What is found under a key was put there. -/
theorem mem_of_get? {m : Keyed κ ν} {k : κ} {v : ν} (h : get? m k = some v) : (k, v) ∈ m := by
  induction m with
  | nil => cases h
  | cons p m ih =>
      unfold get? at h
      split at h
      · rename_i hk
        obtain rfl := Option.some.inj h
        exact hk ▸ List.mem_cons_self
      · exact List.mem_cons_of_mem _ (ih h)

end Keyed

end RankLedger
