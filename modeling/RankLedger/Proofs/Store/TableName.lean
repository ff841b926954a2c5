import RankLedger.Store.Schema
import Std.Data.String.ToInt

set_option autoImplicit false

/-! # Names of tables

All tables of a store share one namespace. `TableKind.tableName_inj` says that a name tells both the
kind and the event of its table: a numeral is made of digits and a sign, so the ending of the
players' tables cannot be the end of another event's numeral. -/

namespace RankLedger

/-! ## Numerals -/

theorem not_mem_toDigits {c : Char} (h : c.isDigit = false) (n : Nat) :
    c ∉ Nat.toDigits 10 n := by
  intro hc
  rw [Nat.isDigit_of_mem_toDigits (by decide) (by decide) hc] at h
  cases h

/-- A numeral is digits, with a sign before them below zero. -/
theorem toList_toString (n : Int) : (toString n).toList =
    if 0 ≤ n then Nat.toDigits 10 n.toNat else '-' :: Nat.toDigits 10 (-n).toNat := by
  rw [Int.toString_eq_repr, Int.repr_eq_if]
  split <;> simp

/-- A numeral has no characters but digits and a sign. -/
theorem not_mem_toString {c : Char} (hdigit : c.isDigit = false) (hsign : c ≠ '-') (n : Int) :
    c ∉ (toString n).toList := by
  rw [toList_toString]
  split
  · exact not_mem_toDigits hdigit _
  · simp [hsign, not_mem_toDigits hdigit]

/-- No numeral ends like the names of the players' tables. -/
theorem toString_ne_append_users (m n : Int) : toString m ≠ toString n ++ "_users" := by
  intro h
  have hnot : '_' ∉ (toString m).toList := not_mem_toString (by decide) (by decide) m
  rw [h, String.toList_append] at hnot
  exact hnot (List.mem_append_right _ (by decide))

theorem toString_int_inj {m n : Int} (h : toString m = toString n) : m = n :=
  Int.repr_injective (by simpa only [Int.toString_eq_repr] using h)

/-! ## Names -/

namespace TableKind

/-- What a name says about the kind of its table. -/
theorem tableName_event (n : Int) :
    rankings.tableName n = "event_" ++ toString n
      ∧ identities.tableName n = "event_" ++ (toString n ++ "_users")
      ∧ chapters.tableName n = "wl_" ++ toString n := by
  refine ⟨rfl, ?_, rfl⟩
  rw [← String.append_assoc]
  rfl

/-- Names of chapters' tables begin unlike all others. -/
theorem event_append_ne_wl_append (s t : String) : "event_" ++ s ≠ "wl_" ++ t := by
  intro h
  have hlists := congrArg String.toList h
  rw [String.toList_append, String.toList_append] at hlists
  exact absurd (List.cons.inj hlists).1 (by decide)

/-- Tables of one name are of one kind and belong to one event. -/
theorem tableName_inj {kind kind' : TableKind} {m n : Int}
    (h : kind.tableName m = kind'.tableName n) : kind = kind' ∧ m = n := by
  obtain ⟨hr, hi, hc⟩ := tableName_event m
  obtain ⟨hr', hi', hc'⟩ := tableName_event n
  cases kind <;> cases kind' <;>
    simp only [hr, hi, hc, hr', hi', hc', String.append_right_inj] at h
  case rankings.rankings => exact ⟨rfl, toString_int_inj h⟩
  case rankings.identities => exact absurd h (toString_ne_append_users m n)
  case rankings.chapters => exact absurd h (event_append_ne_wl_append _ _)
  case identities.rankings => exact absurd h.symm (toString_ne_append_users n m)
  case identities.identities => exact ⟨rfl, toString_int_inj ((String.append_left_inj _).1 h)⟩
  case identities.chapters => exact absurd h (event_append_ne_wl_append _ _)
  case chapters.rankings => exact absurd h.symm (event_append_ne_wl_append _ _)
  case chapters.identities => exact absurd h.symm (event_append_ne_wl_append _ _)
  case chapters.chapters => exact ⟨rfl, toString_int_inj h⟩

end TableKind

end RankLedger
