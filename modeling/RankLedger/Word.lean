set_option autoImplicit false

/-! # Signed 64-bit range

Ids, ranks, scores and times are integers between `Word.least` and `Word.greatest`. Inside that
range the library computes with plain integers; the range shows in two places only: an addition that
stops at the ends (`Word.saturate`) and a difference that may have no 64-bit value (`Word.sub?`). -/

namespace RankLedger.Word

/-- The least signed 64-bit integer. -/
def least : Int := -9223372036854775808

/-- The greatest signed 64-bit integer. -/
def greatest : Int := 9223372036854775807

/-- The integer lies in the signed 64-bit range. -/
def Fits (n : Int) : Prop := least ≤ n ∧ n ≤ greatest

instance (n : Int) : Decidable (Fits n) := inferInstanceAs (Decidable (_ ∧ _))

/-- The integer of the range that is nearest to `n`. -/
def saturate (n : Int) : Int := max least (min n greatest)

/-- The difference, unless it leaves the range. -/
def sub? (a b : Int) : Option Int := if Fits (a - b) then some (a - b) else none

theorem saturate_of_fits {n : Int} (h : Fits n) : saturate n = n := by
  unfold Fits at h
  unfold saturate
  omega

theorem sub?_eq_some_iff {a b n : Int} : sub? a b = some n ↔ Fits (a - b) ∧ a - b = n := by
  unfold sub?
  split <;> simp_all

theorem sub?_eq_none_iff {a b : Int} : sub? a b = none ↔ ¬ Fits (a - b) := by
  unfold sub?
  split <;> simp_all

end RankLedger.Word
