import Mathlib.Logic.Basic
import RankLedger.Proofs.Store.Calls

set_option autoImplicit false

/-! # All or nothing

A batch is written by statements, one for each group of rows (`Database.statements`). They work on a
copy of the database, and the first that needs a table that is not there ends the attempt, however
much has been written into the copy by then (`Database.attempt_cases`). The store keeps the copy
only if all statements went well (`Store.record_all_or_nothing`), and then every row has been dealt
with: it is inserted, or its key was taken (`AccountsFor`). -/

namespace RankLedger

/-! ## What becomes of each row -/

/-- What becomes of an item that is offered. -/
inductive Fate where
  | inserted
  | ignored
  deriving DecidableEq, Repr

section Fates

variable {α κ : Type} [DecidableEq κ]

/-- Each item that was offered has been ignored, if its key was held or had come before it, or else
inserted; and besides the inserted ones nothing has come to what was held. -/
def AccountsFor (key : α → κ) (held offered after : List α) : Prop :=
  ∃ fates : List Fate, fates.length = offered.length
    ∧ (∀ (i : Nat) (x : α), offered[i]? = some x → fates[i]? = some
      (if hasKey key (held ++ offered.take i) (key x) then .ignored else .inserted))
    ∧ after = held ++ ((offered.zip fates).filter (·.2 = .inserted)).map (·.1)

theorem hasKey_offer (key : α → κ) (held : List α) (x : α) (xs : List α) (k : κ) :
    hasKey key (offer key held x ++ xs) k = hasKey key (held ++ x :: xs) k := by
  have hone : hasKey key (offer key held x) k = (hasKey key held k || hasKey key [x] k) :=
    hasKey_offerAll key held [x] k
  unfold hasKey at hone ⊢
  simp only [List.any_append, hone, List.any_cons, List.any_nil, Bool.or_false, Bool.or_assoc]

theorem accountsFor_offerAll (key : α → κ) (held offered : List α) :
    AccountsFor key held offered (offerAll key held offered) := by
  induction offered generalizing held with
  | nil => exact ⟨[], rfl, by simp, by simp⟩
  | cons x xs ih =>
      -- The items after the first are offered to what is held once the first has been.
      obtain ⟨fates, hlength, hfates, hafter⟩ := ih (offer key held x)
      have hrest : ∀ (i : Nat) (y : α), xs[i]? = some y → fates[i]? = some
          (if hasKey key (held ++ (x :: xs).take (i + 1)) (key y) then .ignored
            else .inserted) := by
        intro i y hy
        rw [hfates i y hy, hasKey_offer, List.take_succ_cons]
      refine ⟨(if hasKey key held (key x) then .ignored else .inserted) :: fates, ?_, ?_, ?_⟩
      · simp [hlength]
      · intro i y hy
        cases i with
        | zero =>
            obtain rfl : x = y := by simpa using hy
            simp
        | succ i => simpa using hrest i y (by simpa using hy)
      · rw [offerAll_cons, hafter]
        unfold offer
        by_cases hx : hasKey key held (key x) = true
        · simp [hx]
        · simp [hx]

end Fates

/-! ## Statements -/

namespace Database

/-- A statement writes a group of what a batch brings for one kind of table. -/
inductive Statement where
  | rankings (rows : List RankRow)
  | chapters (rows : List RankRow)
  | identities (players : List Identity)

namespace Statement

/-- The kind of table that a statement needs. -/
def kind : Statement → TableKind
  | .rankings _ => .rankings
  | .chapters _ => .chapters
  | .identities _ => .identities

/-- What a statement brings. -/
def batch : Statement → Batch
  | .rankings rows => { rankings := rows }
  | .chapters rows => { chapters := rows }
  | .identities players => { identities := players }

/-- Carry a statement out for an event. -/
def carryOut (db : Database) (e : Int) : Statement → Except TableKind Database
  | .rankings rows => writeRankings db e rows
  | .chapters rows => writeChapters db e rows
  | .identities players => writeIdentities db e players

/-- A statement has the table that it needs take in what it brings. -/
theorem carryOut_eq (db : Database) (e : Int) (st : Statement) : st.carryOut db e =
    match db.table? st.kind e with
    | some t => .ok (db.putTable e (t.absorb st.batch))
    | none => .error st.kind := by
  cases st with
  | rankings rows => exact fills_writeRankings.write_eq db e rows
  | chapters rows => exact fills_writeChapters.write_eq db e rows
  | identities players => exact fills_writeIdentities.write_eq db e players

end Statement

/-- The statements that write a batch, in their order. -/
def statements (b : Batch) : List Statement :=
  (groups b.rankings).map .rankings ++ (groups b.chapters).map .chapters
    ++ (groups b.identities).map .identities

/-- Carry statements out on a working copy, one after another until one fails: the copy as it is
then, and the kind of table that was missing. -/
def attempt (db : Database) (e : Int) : List Statement → Database × Option TableKind
  | [] => (db, none)
  | st :: sts =>
      match st.carryOut db e with
      | .ok db' => db'.attempt e sts
      | .error kind => (db, some kind)

/-- Every row and player of a batch is in one statement, in its order. -/
theorem flatMap_statements (b : Batch) :
    (statements b).flatMap (·.batch.rankings) = b.rankings
      ∧ (statements b).flatMap (·.batch.chapters) = b.chapters
      ∧ (statements b).flatMap (·.batch.identities) = b.identities := by
  have hown : ∀ {α : Type} (xs : List α), (groups xs).flatMap (fun g => g) = xs := by
    intro α xs
    exact List.flatten_eq_flatMap.symm.trans (flatten_groups xs)
  have hother : ∀ {α β : Type} (gs : List α), gs.flatMap (fun _ => ([] : List β)) = [] := by
    intro α β gs
    simp [List.flatMap_eq_nil_iff]
  refine ⟨?_, ?_, ?_⟩ <;> simp [statements, Statement.batch, List.flatMap_map, hown, hother]

section Attempt

variable (db : Database) (e : Int)

theorem foldlM_carryOut (sts : List Statement) :
    sts.foldlM (fun db st => st.carryOut db e) db =
      match db.attempt e sts with
      | (db', none) => .ok db'
      | (_, some kind) => .error kind := by
  induction sts generalizing db with
  | nil => rfl
  | cons st sts ih =>
      rw [List.foldlM_cons, attempt]
      cases st.carryOut db e with
      | ok db' => exact ih db'
      | error kind => rfl

/-- To write a batch is to attempt its statements, and to drop the working copy if one fails. -/
theorem write_eq_attempt (b : Batch) : db.write e b =
    match db.attempt e (statements b) with
    | (db', none) => .ok db'
    | (_, some kind) => .error kind := by
  rw [← foldlM_carryOut]
  simp only [write, writeAll, statements, List.foldlM_append, List.foldlM_map, Statement.carryOut,
    bind_assoc]

/-- An attempt fails at the first statement whose table is not there; those before it have been
carried out on the working copy. -/
theorem attempt_cases (sts : List Statement) :
    (∃ db', db.attempt e sts = (db', none))
      ∨ ∃ done st rest db', sts = done ++ st :: rest ∧ db.attempt e done = (db', none)
        ∧ db'.hasTable st.kind e = false ∧ db.attempt e sts = (db', some st.kind) := by
  induction sts generalizing db with
  | nil => exact Or.inl ⟨db, rfl⟩
  | cons st sts ih =>
      cases ht : db.table? st.kind e with
      | none =>
          have herror : st.carryOut db e = .error st.kind := by
            rw [Statement.carryOut_eq, ht]
          refine Or.inr ⟨[], st, sts, db, rfl, rfl, ?_, ?_⟩
          · simp [hasTable, ht]
          · simp only [attempt, herror]
      | some t =>
          have hok : st.carryOut db e = .ok (db.putTable e (t.absorb st.batch)) := by
            rw [Statement.carryOut_eq, ht]
          have hstep : ∀ sts', db.attempt e (st :: sts')
              = (db.putTable e (t.absorb st.batch)).attempt e sts' := by
            intro sts'
            simp only [attempt, hok]
          rcases ih (db.putTable e (t.absorb st.batch)) with
            ⟨db', hdb'⟩ | ⟨done, st', rest, db', rfl, hdone, hmissing, hfail⟩
          · exact Or.inl ⟨db', (hstep sts).trans hdb'⟩
          · exact Or.inr ⟨st :: done, st', rest, db', rfl, (hstep done).trans hdone, hmissing,
              (hstep _).trans hfail⟩

theorem attempt_of_write {b : Batch} {db' : Database} (h : db.write e b = .ok db') :
    db.attempt e (statements b) = (db', none) := by
  rw [write_eq_attempt] at h
  rcases hattempt : db.attempt e (statements b) with ⟨copy, missing⟩
  rw [hattempt] at h
  cases missing with
  | none =>
      obtain rfl := Except.ok.inj h
      rfl
  | some kind => cases h

/-- Where a writing fails, the statements before the failing one are on the working copy. -/
theorem attempt_of_write_error {b : Batch} {kind : TableKind} (h : db.write e b = .error kind) :
    ∃ done st rest copy, statements b = done ++ st :: rest ∧ st.kind = kind
      ∧ db.attempt e done = (copy, none) ∧ db.attempt e (statements b) = (copy, some kind) := by
  rw [write_eq_attempt] at h
  rcases db.attempt_cases e (statements b) with
    ⟨db', hok⟩ | ⟨done, st, rest, copy, hsplit, hdone, -, hfail⟩
  · rw [hok] at h
    cases h
  · rw [hfail] at h
    obtain rfl : st.kind = kind := Except.error.inj h
    exact ⟨done, st, rest, copy, hsplit, rfl, hdone, hfail⟩

end Attempt

end Database

namespace Store

/-! ## Whole batches -/

/-- What a store holds after it has taken a batch, and how it came to that: no table has come or
gone, those of other events are as before, each row has been inserted or ignored, and each player is
known as the batch last told. -/
structure HasTaken (s : Store) (e : Int) (b : Batch) (s' : Store) : Prop where
  hasTable : ∀ kind e', s'.database.hasTable kind e' = s.database.hasTable kind e'
  others : ∀ kind e', e' ≠ e → s'.database.table? kind e' = s.database.table? kind e'
  rankings : AccountsFor Database.mainKey (s.mainRows e) b.mainRows (s'.mainRows e)
  chapters : AccountsFor Database.chapterKey (s.chapterRows e) b.chapterRows (s'.chapterRows e)
  identities : ∀ user, (s'.players e).get? user =
    (b.identities.filter (·.userId = user)).getLast?.or ((s.players e).get? user)

section Record

variable {s s' : Store} {e : Int} {b : Batch}

theorem players_record {w : WriteSummary} (h : s.record e b = (.ok w, s')) :
    s'.players e = putPlayers (s.players e) b.identities := by
  rw [players_eq, players_eq, content_record h, if_pos rfl,
    Table.eq_identities (s.kind_content e .identities)]
  rfl

theorem hasTaken_of_record {w : WriteSummary} (h : s.record e b = (.ok w, s')) :
    s.HasTaken e b s' := by
  obtain ⟨-, -, htakes⟩ := record_ok h
  refine ⟨htakes.hasTable, ?_, ?_, ?_, ?_⟩
  · intro kind e' he
    rw [htakes, if_neg he.symm]
  · rw [mainRows_record h]
    exact accountsFor_offerAll _ _ _
  · rw [chapterRows_record h]
    exact accountsFor_offerAll _ _ _
  · intro user
    rw [players_record h, get?_putPlayers]

end Record

/-- A batch is written as a whole or not at all, however many statements it takes.

* It is refused just if the store is closed, or a table is missing for which the batch brings
  anything.
* A store that refuses has all its tables as before, also where statements have been carried out on
  the working copy. A closed store tells that it is closed; otherwise the failure names the first
  missing table, in the order of main board, chapters and players.
* Otherwise the store tells the lengths of the three lists and keeps the working copy, in which all
  rows of all statements have been dealt with. -/
theorem record_all_or_nothing (s : Store) (e : Int) (b : Batch) :
    ((s.record e b).1.isOk = false ↔
      s.isOpen = false ∨ ∃ kind, b.brings kind = true ∧ s.database.hasTable kind e = false)
    ∧ (match s.record e b with
      | (.error f, s') =>
          s'.database = s.database ∧
            if s.isOpen then ∃ done st rest copy,
              Database.statements b = done ++ st :: rest
                ∧ s.database.attempt e done = (copy, none)
                ∧ s.database.attempt e (Database.statements b) = (copy, some st.kind)
                ∧ Database.writingOrder.find? (s.database.lacks e b) = some st.kind
                ∧ f = databaseFailure 1 ("no such table: " ++ st.kind.tableName e)
            else f = closed
      | (.ok w, s') =>
          w = ⟨b.rankings.length, b.chapters.length, b.identities.length⟩
            ∧ s.database.attempt e (Database.statements b) = (s'.database, none)
            ∧ s.HasTaken e b s')
    ∧ (Database.statements b).flatMap (·.batch.rankings) = b.rankings
    ∧ (Database.statements b).flatMap (·.batch.chapters) = b.chapters
    ∧ (Database.statements b).flatMap (·.batch.identities) = b.identities := by
  refine ⟨?refused, ?told, Database.flatMap_statements b⟩
  case refused =>
    have htaken : (s.record e b).1.isOk = true ↔
        s.isOpen = true ∧ ∀ kind, b.brings kind = true → s.database.hasTable kind e = true :=
      s.goesWell_record_iff e b
    rw [← Bool.not_eq_true, htaken]
    simp only [not_and_or, not_forall, Bool.not_eq_true, exists_prop]
  case told =>
    cases hopen : s.isOpen with
    | false =>
        rw [record_of_closed hopen]
        exact ⟨rfl, rfl⟩
    | true =>
        rcases s.database.write_cases e b with ⟨db, hwrite, -, -⟩ | ⟨kind, hwrite, hfirst⟩
        · have htaken := hasTaken_of_record (record_of_write hopen hwrite)
          rw [record_of_write hopen hwrite]
          exact ⟨rfl, s.database.attempt_of_write e hwrite, htaken⟩
        · obtain ⟨done, st, rest, copy, hsplit, rfl, hdone, hfail⟩ :=
            s.database.attempt_of_write_error e hwrite
          rw [record_of_write_error hopen hwrite]
          exact ⟨rfl, done, st, rest, copy, hsplit, hdone, hfail, hfirst, rfl⟩

end Store

end RankLedger
