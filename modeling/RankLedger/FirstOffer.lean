set_option autoImplicit false

/-! # The first offer under a key wins

A list that takes in items one after another, and passes over one whose key it has. `offerAll` keeps
what the list held, keeps the order, and never holds a key twice if it did not before. -/

namespace RankLedger

variable {α κ : Type} [DecidableEq κ]

/-- Whether some item of a list has a key. -/
def hasKey (key : α → κ) (xs : List α) (k : κ) : Bool := xs.any (key · = k)

/-- Add an item at the end, unless its key is there. -/
def offer (key : α → κ) (xs : List α) (x : α) : List α :=
  if hasKey key xs (key x) then xs else xs ++ [x]

/-- Offer items one after another. -/
def offerAll (key : α → κ) (xs ys : List α) : List α := ys.foldl (offer key) xs

/-- The first item of each key, in order. -/
def firstBy (key : α → κ) (xs : List α) : List α := offerAll key [] xs

theorem hasKey_iff {key : α → κ} {xs : List α} {k : κ} :
    hasKey key xs k = true ↔ k ∈ xs.map key := by
  simp [hasKey]

@[simp] theorem offerAll_nil (key : α → κ) (xs : List α) : offerAll key xs [] = xs := rfl

@[simp] theorem offerAll_cons (key : α → κ) (xs : List α) (y : α) (ys : List α) :
    offerAll key xs (y :: ys) = offerAll key (offer key xs y) ys := rfl

theorem offerAll_append (key : α → κ) (xs ys zs : List α) :
    offerAll key xs (ys ++ zs) = offerAll key (offerAll key xs ys) zs := List.foldl_append

theorem hasKey_offerAll (key : α → κ) (xs ys : List α) (k : κ) :
    hasKey key (offerAll key xs ys) k = (hasKey key xs k || hasKey key ys k) := by
  induction ys generalizing xs with
  | nil => simp [hasKey]
  | cons y ys ih =>
      rw [offerAll_cons, ih]
      unfold offer
      split
      · rename_i hy
        by_cases hk : key y = k
        · subst hk
          simp [hy]
        · simp [hasKey, hk]
      · simp [hasKey, Bool.or_assoc]

/-- With each offer, its key is there. -/
theorem exists_mem_offerAll (key : α → κ) (xs : List α) {ys : List α} {y : α} (hy : y ∈ ys) :
    ∃ z ∈ offerAll key xs ys, key z = key y := by
  have hkey : hasKey key (offerAll key xs ys) (key y) = true := by
    rw [hasKey_offerAll, Bool.or_eq_true]
    exact Or.inr (hasKey_iff.2 (List.mem_map_of_mem hy))
  exact List.mem_map.1 (hasKey_iff.1 hkey)

/-- An item is taken in if its key was not there and no item with its key came before it. -/
theorem mem_offerAll {key : α → κ} {xs ys : List α} {x : α} :
    x ∈ offerAll key xs ys ↔
      x ∈ xs ∨ hasKey key xs (key x) = false ∧ ys.find? (key · = key x) = some x := by
  induction ys generalizing xs with
  | nil => simp
  | cons y ys ih =>
      rw [offerAll_cons, ih]
      unfold offer
      by_cases hy : hasKey key xs (key y) = true
      · rw [if_pos hy]
        by_cases hyx : key y = key x
        · simp [← hyx, hy]
        · simp [hyx]
      · rw [if_neg hy]
        by_cases hyx : key y = key x
        · have hx : hasKey key xs (key x) = false := by simpa [hyx] using hy
          have hlast : hasKey key (xs ++ [y]) (key x) = true := by simp [hasKey, hyx]
          simp [hx, hlast, hyx, eq_comm]
        · have hsame : hasKey key (xs ++ [y]) (key x) = hasKey key xs (key x) := by
            simp [hasKey, hyx]
          have hne : x ≠ y := fun h => hyx (h ▸ rfl)
          simp [hsame, hyx, hne]

/-- Under a key stands what was held there, or else the first offer. -/
theorem filter_offerAll {key : α → κ} {xs ys : List α} {k : κ} :
    (offerAll key xs ys).filter (key · = k) =
      if hasKey key xs k then xs.filter (key · = k) else (ys.find? (key · = k)).toList := by
  induction ys generalizing xs with
  | nil =>
      split
      · rfl
      · rename_i hk
        refine List.filter_eq_nil_iff.2 fun x hx hkey => hk ?_
        exact hasKey_iff.2 (List.mem_map.2 ⟨x, hx, of_decide_eq_true hkey⟩)
  | cons y ys ih =>
      rw [offerAll_cons, ih]
      unfold offer
      by_cases hy : hasKey key xs (key y) = true
      · rw [if_pos hy]
        by_cases hyk : key y = k
        · rw [if_pos (hyk ▸ hy), if_pos (hyk ▸ hy)]
        · rw [List.find?_cons_of_neg (by simpa using hyk)]
      · rw [if_neg hy]
        by_cases hyk : key y = k
        · subst hyk
          have hlast : hasKey key (xs ++ [y]) (key y) = true := by simp [hasKey]
          have hnone : xs.filter (key · = key y) = [] := by
            refine List.filter_eq_nil_iff.2 fun x hx hkey => hy ?_
            exact hasKey_iff.2 (List.mem_map.2 ⟨x, hx, of_decide_eq_true hkey⟩)
          rw [if_pos hlast, if_neg hy, List.filter_append, hnone]
          simp
        · have hsame : hasKey key (xs ++ [y]) k = hasKey key xs k := by simp [hasKey, hyk]
          rw [hsame, List.filter_append, List.find?_cons_of_neg (by simpa using hyk)]
          simp [hyk]

/-- What was held stays in its place, before all that is taken in. -/
theorem prefix_offerAll (key : α → κ) (xs ys : List α) : xs <+: offerAll key xs ys := by
  induction ys generalizing xs with
  | nil => exact List.prefix_refl xs
  | cons y ys ih =>
      have hstep : xs <+: offer key xs y := by
        unfold offer
        split
        · exact List.prefix_refl xs
        · exact List.prefix_append xs [y]
      exact hstep.trans (ih (offer key xs y))

theorem exists_mem_firstBy (key : α → κ) {xs : List α} {x : α} (hx : x ∈ xs) :
    ∃ y ∈ firstBy key xs, key y = key x := exists_mem_offerAll key [] hx

theorem mem_firstBy {key : α → κ} {xs : List α} {x : α} :
    x ∈ firstBy key xs ↔ xs.find? (key · = key x) = some x := by
  simp [firstBy, mem_offerAll, hasKey]

theorem filter_firstBy (key : α → κ) (xs : List α) (k : κ) :
    (firstBy key xs).filter (key · = k) = (xs.find? (key · = k)).toList := filter_offerAll

theorem nodup_offer {key : α → κ} {xs : List α} (x : α) (h : (xs.map key).Nodup) :
    ((offer key xs x).map key).Nodup := by
  unfold offer
  split
  · exact h
  · rename_i hx
    rw [hasKey_iff] at hx
    rw [List.map_append, List.map_singleton, List.nodup_append]
    refine ⟨h, by simp, fun a ha b hb hab => hx ?_⟩
    exact List.mem_singleton.1 hb ▸ hab ▸ ha

theorem nodup_offerAll {key : α → κ} {xs : List α} (ys : List α) (h : (xs.map key).Nodup) :
    ((offerAll key xs ys).map key).Nodup := by
  induction ys generalizing xs with
  | nil => exact h
  | cons y ys ih => exact ih (nodup_offer y h)

/-- Where no key comes twice, each item is the first with its key. -/
theorem find?_eq_some_of_nodup {key : α → κ} {xs : List α} (h : (xs.map key).Nodup) {x : α}
    (hx : x ∈ xs) : xs.find? (key · = key x) = some x := by
  induction xs with
  | nil => cases hx
  | cons y xs ih =>
      rw [List.map_cons, List.nodup_cons] at h
      rcases List.mem_cons.1 hx with rfl | hx
      · simp
      · have hne : key y ≠ key x := fun heq => h.1 (heq ▸ List.mem_map_of_mem hx)
        simpa [hne] using ih h.2 hx

theorem nodup_firstBy (key : α → κ) (xs : List α) : ((firstBy key xs).map key).Nodup :=
  nodup_offerAll xs List.nodup_nil

end RankLedger
