import Mathlib.Data.List.SplitBy
import RankLedger.Event.RemainingLabel
import RankLedger.Keyed
import RankLedger.Text.Numeral

set_option autoImplicit false

/-! # What a label of the remaining time tells

A label is a row of counts, each before the word for its unit. In all regions the words have no
digits and differ (`isLegible_units`), so such a row can be read back, whichever counts it has
(`counts?_runs_write`). Days, hours and minutes are left out for reasons of their own, but none that
is not zero (`Span.leavesOutZeros_told`); so a label is read as the span it was written for
(`read?_render`), and `labels_tell_spans` says when two labels are one. -/

namespace RankLedger

/-! ## Runs of digits and of other characters -/

namespace Text

/-- The longest stretches that are all digits or all other characters, in order. -/
def runs (cs : List Char) : List (List Char) := cs.splitBy fun c d => c.isDigit == d.isDigit

/-- There is something, and all of it are digits, or none of it. -/
structure IsRun (digits : Bool) (cs : List Char) : Prop where
  ne_nil : cs ≠ []
  isDigit : ∀ c ∈ cs, c.isDigit = digits

/-- What begins with a run begins with a character of its kind. -/
theorem IsRun.isDigit_of_mem_head? {digits : Bool} {cs : List Char} (h : IsRun digits cs)
    (rest : List Char) : ∀ c ∈ (cs ++ rest).head?, c.isDigit = digits := by
  intro c hc
  rw [List.head?_append_of_ne_nil _ h.ne_nil] at hc
  exact h.isDigit c (List.mem_of_mem_head? hc)

/-- A run ends where the other kind of characters begins. -/
theorem runs_append {digits : Bool} {cs rest : List Char} (h : IsRun digits cs)
    (hrest : ∀ c ∈ rest.head?, c.isDigit = !digits) : runs (cs ++ rest) = cs :: runs rest := by
  have hends : ∀ c ∈ cs.getLast?, ∀ d ∈ rest.head?, (c.isDigit == d.isDigit) = false := by
    intro c hc d hd
    rw [h.isDigit c (List.mem_of_mem_getLast? hc), hrest d hd]
    cases digits <;> rfl
  have hsame : cs.IsChain fun c d => (c.isDigit == d.isDigit) = true := by
    refine List.Pairwise.isChain (List.pairwise_of_forall_mem_list fun c hc d hd => ?_)
    rw [h.isDigit c hc, h.isDigit d hd, beq_self_eq_true]
  unfold runs
  rw [List.splitBy_append hends, List.splitBy_of_isChain h.ne_nil hsame, List.singleton_append]

theorem isRun_toDigits (n : Nat) : IsRun true (Nat.toDigits 10 n) :=
  ⟨Nat.toDigits_ne_nil, fun _ hc => Nat.isDigit_of_mem_toDigits (by decide) (by decide) hc⟩

/-- The digits of a number are read as that number. -/
theorem digits?_toDigits (n : Nat) : digits? (Nat.toDigits 10 n) = some n := by
  have hall : (Nat.toDigits 10 n).all Char.isDigit = true :=
    List.all_eq_true.2 (isRun_toDigits n).isDigit
  simp [digits?, hall, Nat.toDigits_ne_nil, Nat.ofDigitChars_ten_toDigits]

end Text

namespace RemainingLabel

/-! ## Rows of counts -/

/-- Each count, a run of digits, belongs to the word after it. -/
def counts? : List (List Char) → Option (Keyed String Nat)
  | [] => some []
  | [_] => none
  | count :: word :: runs =>
      match Text.digits? count, counts? runs with
      | some n, some counts => some ((String.ofList word, n) :: counts)
      | _, _ => none

/-- A row of counts as it is written, each before its word. -/
def write (counts : Keyed String Nat) : List Char :=
  counts.flatMap fun p => Nat.toDigits 10 p.2 ++ p.1.toList

theorem write_cons (p : String × Nat) (counts : Keyed String Nat) :
    write (p :: counts) = Nat.toDigits 10 p.2 ++ (p.1.toList ++ write counts) := by
  rw [write, List.flatMap_cons, List.append_assoc]
  rfl

theorem write_append (counts counts' : Keyed String Nat) :
    write (counts ++ counts') = write counts ++ write counts' := List.flatMap_append

/-- A row of counts begins with a digit. -/
theorem isDigit_of_mem_head?_write (counts : Keyed String Nat) :
    ∀ c ∈ (write counts).head?, c.isDigit = true := by
  cases counts with
  | nil => simp [write]
  | cons p counts =>
      rw [write_cons]
      exact (Text.isRun_toDigits p.2).isDigit_of_mem_head? _

/-- A row of counts is read back, if no word could be taken for a part of a count. -/
theorem counts?_runs_write {counts : Keyed String Nat}
    (h : ∀ p ∈ counts, Text.IsRun false p.1.toList) :
    counts? (Text.runs (write counts)) = some counts := by
  induction counts with
  | nil => rfl
  | cons p counts ih =>
      rw [List.forall_mem_cons] at h
      have hword := h.1.isDigit_of_mem_head? (write counts)
      have hruns : Text.runs (write (p :: counts))
          = Nat.toDigits 10 p.2 :: p.1.toList :: Text.runs (write counts) := by
        rw [write_cons, Text.runs_append (Text.isRun_toDigits p.2) hword,
          Text.runs_append h.1 (isDigit_of_mem_head?_write counts)]
      simp only [hruns, counts?, Text.digits?_toDigits, ih h.2, String.ofList_toList]

/-- The first row is the second without some counts that are zero. -/
inductive LeavesOutZeros : Keyed String Nat → Keyed String Nat → Prop where
  | nil : LeavesOutZeros [] []
  | keep (p : String × Nat) {told counts : Keyed String Nat} (h : LeavesOutZeros told counts) :
      LeavesOutZeros (p :: told) (p :: counts)
  | leaveOut (word : String) {told counts : Keyed String Nat} (h : LeavesOutZeros told counts) :
      LeavesOutZeros told ((word, 0) :: counts)

namespace LeavesOutZeros

variable {told counts : Keyed String Nat}

theorem sublist (h : LeavesOutZeros told counts) : told.Sublist counts := by
  induction h with
  | nil => exact .slnil
  | keep p _ ih => exact ih.cons_cons p
  | leaveOut word _ ih => exact ih.cons (word, 0)

theorem keys (h : LeavesOutZeros told counts) : (Keyed.keys told).Sublist (Keyed.keys counts) :=
  h.sublist.map _

/-- A count that is left out is read as zero, which it is. -/
theorem getD_get? (h : LeavesOutZeros told counts) (hnodup : (Keyed.keys counts).Nodup)
    (word : String) : (Keyed.get? told word).getD 0 = (Keyed.get? counts word).getD 0 := by
  induction h with
  | nil => rfl
  | keep p _ ih =>
      rw [Keyed.get?, Keyed.get?]
      split
      · rfl
      · exact ih (List.nodup_cons.1 hnodup).2
  | @leaveOut word' told counts h ih =>
      obtain ⟨hnew, hnodup⟩ := List.nodup_cons.1 hnodup
      rw [Keyed.get?]
      split
      · rename_i hword
        obtain rfl : word' = word := hword
        -- The word is not told further on either.
        have hnone : Keyed.get? told word' = none := by
          rw [← Option.not_isSome_iff_eq_none, ← Keyed.contains_keys, List.contains_iff_mem]
          exact fun hmem => hnew (h.keys.subset hmem)
        rw [hnone]
        rfl
      · exact ih hnodup

/-- A count may be left out on a condition under which it is zero. -/
theorem ite_append {shown : Prop} [Decidable shown] {word : String} {n : Nat}
    (hzero : ¬ shown → n = 0) (h : LeavesOutZeros told counts) :
    LeavesOutZeros ((if shown then [(word, n)] else []) ++ told) ((word, n) :: counts) := by
  split
  · exact h.keep (word, n)
  · rename_i hnot
    obtain rfl := hzero hnot
    exact h.leaveOut word

end LeavesOutZeros

/-! ## Words of the units -/

/-- The words for the units, that of the greatest first. -/
def Units.words (u : Units) : List String := [u.day, u.hour, u.minute, u.second]

/-- The words can be told from counts and from one another. -/
structure Units.IsLegible (u : Units) : Prop where
  isRun : ∀ word ∈ u.words, Text.IsRun false word.toList
  nodup : u.words.Nodup

theorem isLegible_units (region : Region) : (units region).IsLegible := by
  have hruns : ((units region).words.all fun word =>
      !word.toList.isEmpty && word.toList.all fun c => c.isDigit == false) = true := by
    cases region <;> decide
  constructor
  case isRun =>
    intro word hword
    obtain ⟨hne, hdigit⟩ := Bool.and_eq_true_iff.1 (List.all_eq_true.1 hruns word hword)
    refine ⟨by simpa using hne, fun c hc => ?_⟩
    exact eq_of_beq (List.all_eq_true.1 hdigit c hc)
  case nodup => cases region <;> decide

/-! ## Spans of time -/

/-- So many days, hours, minutes and seconds. -/
structure Span where
  days : Nat
  hours : Nat
  minutes : Nat
  seconds : Nat
  deriving DecidableEq, Repr

namespace Span

/-- The seconds in all. -/
def total (s : Span) : Nat := 86400 * s.days + 3600 * s.hours + 60 * s.minutes + s.seconds

/-- So many seconds, with as many as possible made days, then hours, then minutes. -/
def ofSeconds (n : Nat) : Span where
  days := n / 86400
  hours := n % 86400 / 3600
  minutes := n % 3600 / 60
  seconds := n % 60

theorem ofSeconds_lt (n : Nat) :
    (ofSeconds n).hours < 24 ∧ (ofSeconds n).minutes < 60 ∧ (ofSeconds n).seconds < 60 := by
  simp only [ofSeconds]
  omega

@[simp] theorem total_ofSeconds (n : Nat) : (ofSeconds n).total = n := by
  simp only [total, ofSeconds]
  omega

theorem ofSeconds_inj {m n : Nat} (h : ofSeconds m = ofSeconds n) : m = n := by
  simpa using congrArg total h

variable (u : Units) (s : Span)

/-- The counts of all units. -/
def counts : Keyed String Nat :=
  [(u.day, s.days), (u.hour, s.hours), (u.minute, s.minutes), (u.second, s.seconds)]

/-- The counts that a label has of a span: days and hours if there are any, minutes unless seconds
are shown and nothing but days is above them, and seconds on request. -/
def told (showSeconds : Bool) : Keyed String Nat :=
  (if s.days > 0 then [(u.day, s.days)] else [])
    ++ ((if s.hours > 0 then [(u.hour, s.hours)] else [])
    ++ ((if s.hours > 0 ∨ s.minutes > 0 ∨ !showSeconds then [(u.minute, s.minutes)] else [])
    ++ if showSeconds then [(u.second, s.seconds)] else []))

/-- The span with these counts; a unit without a count has none. -/
def ofCounts (counts : Keyed String Nat) : Span where
  days := (Keyed.get? counts u.day).getD 0
  hours := (Keyed.get? counts u.hour).getD 0
  minutes := (Keyed.get? counts u.minute).getD 0
  seconds := (Keyed.get? counts u.second).getD 0

variable {u}

theorem ofCounts_counts (h : u.words.Nodup) : ofCounts u (s.counts u) = s := by
  simp only [Units.words, List.nodup_cons, List.mem_cons, not_or] at h
  obtain ⟨⟨hdayHour, hdayMinute, hdaySecond, -⟩, ⟨hhourMinute, hhourSecond, -⟩,
    ⟨hminuteSecond, -⟩, -⟩ := h
  simp [ofCounts, counts, Keyed.get?, hdayHour, hdayMinute, hdaySecond, hhourMinute, hhourSecond,
    hminuteSecond]

variable {s}

/-- All that a label leaves out of a span is zero, unless it has seconds that are not shown. -/
theorem leavesOutZeros_told {showSeconds : Bool} (h : showSeconds = false → s.seconds = 0) :
    LeavesOutZeros (s.told u showSeconds) (s.counts u) := by
  have hseconds : LeavesOutZeros (if showSeconds then [(u.second, s.seconds)] else [])
      [(u.second, s.seconds)] := by
    have hzero : ¬ showSeconds = true → s.seconds = 0 := by simpa using h
    simpa using LeavesOutZeros.ite_append hzero .nil
  refine .ite_append ?days (.ite_append ?hours (.ite_append ?minutes hseconds))
  all_goals omega

end Span

/-! ## Reading a label -/

/-- Read a label as the counts of a span. Its words are those of units, greater ones first and none
twice; units that are left out count as zero. -/
def read? (u : Units) (label : String) : Option Span :=
  match counts? (Text.runs label.toList) with
  | some counts =>
      if (Keyed.keys counts).Sublist u.words then some (Span.ofCounts u counts) else none
  | none => none

/-- A label is read as a span if it has the counts of the span, whichever zeros it leaves out. -/
theorem read?_of_leavesOutZeros {u : Units} (hu : u.IsLegible) {label : String} {s : Span}
    {told : Keyed String Nat} (hlabel : label.toList = write told)
    (h : LeavesOutZeros told (s.counts u)) : read? u label = some s := by
  have hkeys : (Keyed.keys told).Sublist u.words := h.keys
  have hcounts : counts? (Text.runs label.toList) = some told := by
    rw [hlabel]
    refine counts?_runs_write fun p hp => hu.isRun p.1 (hkeys.subset ?_)
    exact List.mem_map_of_mem hp
  have hspan : Span.ofCounts u told = s := by
    have hget := h.getD_get? hu.nodup
    calc Span.ofCounts u told = Span.ofCounts u (s.counts u) := by simp only [Span.ofCounts, hget]
      _ = s := Span.ofCounts_counts s hu.nodup
  simp only [read?, hcounts, if_pos hkeys, hspan]

example : (read? (units .en) "1d2m0s").map Span.total = some 86520 := by decide

/-- What a label is to tell: all seconds, or those of whole minutes. -/
def due (showSeconds : Bool) (n : Nat) : Nat := if showSeconds then n else n / 60 * 60

section Render

variable {region : Region} {showSeconds : Bool}

/-- A count that may be left out, with its word. -/
theorem toList_ite_part (shown : Prop) [Decidable shown] (n : Nat) (unit : String) :
    (if shown then part n unit else "").toList = write (if shown then [(unit, n)] else []) := by
  split
  · rw [part, String.toList_append, Nat.toString_eq_repr, Nat.toList_repr, write_cons]
    simp [write]
  · rfl

/-- A label has the counts of what it is to tell. -/
theorem toList_render (seconds : Int) : (render region showSeconds seconds).toList =
    write ((Span.ofSeconds (due showSeconds seconds.toNat)).told (units region) showSeconds) := by
  unfold render belowDay
  generalize seconds.toNat = n
  obtain ⟨hdays, hhours, hminutes⟩ : due showSeconds n / 86400 = n / 86400
      ∧ due showSeconds n % 86400 / 3600 = n % 86400 / 3600
      ∧ due showSeconds n % 3600 / 60 = n % 86400 % 3600 / 60 := by
    unfold due
    split <;> omega
  -- A minute or more below the days is some hours or some minutes.
  have hshown : (n % 86400 / 3600 > 0 ∨ n % 86400 % 3600 / 60 > 0 ∨ !showSeconds)
      ↔ (n % 86400 ≥ 60 ∨ !showSeconds) := by
    rw [← or_assoc]
    refine or_congr_left ?_
    omega
  have hseconds : (if showSeconds then [((units region).second, due showSeconds n % 60)] else [])
      = if showSeconds then [((units region).second, n % 86400 % 60)] else [] := by
    cases showSeconds
    · rfl
    · simp [due]
  simp only [String.toList_append, toList_ite_part, Span.told, write_append, List.append_assoc,
    Span.ofSeconds, hdays, hhours, hminutes, hshown, hseconds]

/-- A label is read as what it is to tell. -/
theorem read?_render (seconds : Int) : read? (units region) (render region showSeconds seconds)
    = some (Span.ofSeconds (due showSeconds seconds.toNat)) := by
  refine read?_of_leavesOutZeros (isLegible_units region) (toList_render seconds) ?_
  refine Span.leavesOutZeros_told fun hhidden => ?_
  simp [hhidden, due, Span.ofSeconds]

/-- Labels are the same just if they are to tell the same. -/
theorem render_eq_iff {a b : Int} : render region showSeconds a = render region showSeconds b ↔
    due showSeconds a.toNat = due showSeconds b.toNat := by
  constructor
  · intro h
    have hread := congrArg (read? (units region)) h
    rw [read?_render, read?_render] at hread
    exact Span.ofSeconds_inj (Option.some.inj hread)
  · intro h
    rw [← String.toList_inj, toList_render, toList_render, h]

end Render

/-- In every region, labels tell all that they are to tell:

* labels with seconds are the same just for the same time, those without just for the same whole
  minutes;
* a label is read, unit by unit, as days, less than 24 hours, less than 60 minutes and less than 60
  seconds, which are in all the time that is left, or its whole minutes;
* less than no time is told as no time. -/
theorem labels_tell_spans (region : Region) :
    (∀ a b : Int, 0 ≤ a → 0 ≤ b →
      (render region true a = render region true b ↔ a = b)
        ∧ (render region false a = render region false b ↔ a / 60 = b / 60))
    ∧ (∀ (showSeconds : Bool) (a : Int), 0 ≤ a →
      ∃ span, read? (units region) (render region showSeconds a) = some span
        ∧ span.hours < 24 ∧ span.minutes < 60 ∧ span.seconds < 60
        ∧ (span.total : Int) = if showSeconds then a else a / 60 * 60)
    ∧ ∀ (showSeconds : Bool) (a : Int), a < 0 →
      render region showSeconds a = render region showSeconds 0 := by
  refine ⟨?same, ?read, ?negative⟩
  case same =>
    intro a b ha hb
    constructor
    · rw [render_eq_iff]
      simp only [due, if_true]
      omega
    · rw [render_eq_iff]
      simp only [due, Bool.false_eq_true, if_false]
      omega
  case read =>
    intro showSeconds a ha
    obtain ⟨hhours, hminutes, hseconds⟩ := Span.ofSeconds_lt (due showSeconds a.toNat)
    refine ⟨_, read?_render a, hhours, hminutes, hseconds, ?_⟩
    rw [Span.total_ofSeconds]
    unfold due
    split <;> omega
  case negative =>
    intro showSeconds a ha
    have hzero : a.toNat = (0 : Int).toNat := by omega
    rw [render_eq_iff, hzero]

/-- A day and five seconds, where hours and minutes are left out; fifty seconds more show only where
seconds do. -/
theorem labels_tell_spans_one_day :
    read? (units .kr) (render .kr true 86405) = some ⟨1, 0, 0, 5⟩
      ∧ render .kr true 86405 ≠ render .kr true 86455
      ∧ render .kr false 86405 = render .kr false 86455
      ∧ render .kr true (-1) = render .kr true 0 := by
  obtain ⟨hsame, hread, hover⟩ := labels_tell_spans .kr
  obtain ⟨hexact, hminutes⟩ := hsame 86405 86455 (by decide) (by decide)
  refine ⟨?read, fun h => absurd (hexact.1 h) (by decide), hminutes.2 (by decide),
    hover true (-1) (by decide)⟩
  obtain ⟨⟨days, hours, minutes, seconds⟩, hspan, hhours, hminutes, hseconds, htotal⟩ :=
    hread true 86405 (by decide)
  rw [hspan]
  simp only [Span.total, if_true] at hhours hminutes hseconds htotal
  obtain ⟨rfl, rfl, rfl, rfl⟩ : days = 1 ∧ hours = 0 ∧ minutes = 0 ∧ seconds = 5 := by omega
  rfl

end RemainingLabel

end RankLedger
