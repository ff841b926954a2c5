import RankLedger.Proofs.Store.TableName
import RankLedger.Store.Basic

set_option autoImplicit false

/-! # What becomes of tables

Making tables adds tables without content and touches no other (`Database.table?_provision`). A
store that only gained tables without content (`Store.Grows`) answers every question about rows and
players as before, and what fails changes no table. -/

namespace RankLedger

/-! ## Tables of a database -/

namespace Database

theorem table?_putTable (db : Database) (e : Int) (t : Table) (kind : TableKind) (e' : Int) :
    (db.putTable e t).table? kind e' =
      if t.kind = kind ∧ e = e' then some t else db.table? kind e' := by
  unfold table? putTable
  rw [Keyed.get?_put]
  by_cases h : t.kind = kind ∧ e = e'
  · rw [if_pos h, if_pos (by rw [h.1, h.2])]
  · rw [if_neg h, if_neg (fun hname => h (TableKind.tableName_inj hname))]

/-- Making a table leaves every table there is, and adds one at most. -/
theorem table?_create (db : Database) (e : Int) (k kind : TableKind) (e' : Int) :
    (db.create e k).table? kind e' =
      (db.table? kind e').or (if k = kind ∧ e = e' then some (.empty k) else none) := by
  unfold create hasTable
  by_cases h : k = kind ∧ e = e'
  · obtain ⟨rfl, rfl⟩ := h
    cases hold : db.table? k e with
    | none => simp [table?_putTable]
    | some t => simp [hold]
  · -- A table under another name is not touched, made or not.
    rw [if_neg h, Option.or_none]
    split
    · rfl
    · rw [table?_putTable, Table.kind_empty, if_neg h]

theorem table?_foldl_create (kinds : List TableKind) (e : Int) (kind : TableKind) (e' : Int) :
    ∀ db : Database, (kinds.foldl (fun db kind => db.create e kind) db).table? kind e' =
      (db.table? kind e').or (if e = e' ∧ kind ∈ kinds then some (.empty kind) else none) := by
  induction kinds with
  | nil => intro db; simp
  | cons k kinds ih =>
      intro db
      rw [List.foldl_cons, ih, table?_create, Option.or_assoc]
      congr 1
      by_cases hk : k = kind ∧ e = e'
      · obtain ⟨rfl, rfl⟩ := hk
        simp
      · rw [if_neg hk, Option.none_or]
        by_cases he : e = e'
        · have hne : kind ≠ k := fun heq => hk ⟨heq.symm, he⟩
          simp [hne]
        · simp [he]

/-- The tables of an event that were not there come without content; all others stay. -/
theorem table?_provision (db : Database) (e : Int) (withChapters : Bool) (kind : TableKind)
    (e' : Int) :
    (db.provision e withChapters).table? kind e' =
      (db.table? kind e').or
        (if e = e' ∧ kind ∈ Schema.kinds withChapters then some (.empty kind) else none) :=
  table?_foldl_create (Schema.kinds withChapters) e kind e' db

end Database

/-! ## Stores that gain tables without content -/

namespace Store

/-- The second store has the tables of the first, and besides them none but tables without
content. -/
structure Grows (s s' : Store) : Prop where
  isOpen : s'.isOpen = s.isOpen
  table : ∀ kind e, s'.database.table? kind e = s.database.table? kind e ∨
    s.database.table? kind e = none ∧ s'.database.table? kind e = some (.empty kind)

/-- What stays as it is has gained nothing. -/
theorem Grows.of_database_eq {s s' : Store} (hopen : s'.isOpen = s.isOpen)
    (hdb : s'.database = s.database) : s.Grows s' :=
  ⟨hopen, fun kind e => Or.inl (by rw [hdb])⟩

theorem Grows.refl (s : Store) : s.Grows s := .of_database_eq rfl rfl

theorem Grows.trans {s s' s'' : Store} (h : s.Grows s') (h' : s'.Grows s'') : s.Grows s'' := by
  refine ⟨h'.isOpen.trans h.isOpen, fun kind e => ?_⟩
  rcases h.table kind e with heq | ⟨hnone, hsome⟩
  · rcases h'.table kind e with heq' | ⟨hnone', hsome'⟩
    · exact Or.inl (heq'.trans heq)
    · exact Or.inr ⟨heq ▸ hnone', hsome'⟩
  · rcases h'.table kind e with heq' | ⟨hnone', _⟩
    · exact Or.inr ⟨hnone, heq'.trans hsome⟩
    · rw [hsome] at hnone'
      cases hnone'

section Reads

variable {s s' : Store} (h : s.Grows s')
include h

/-- An event that is there stays. -/
theorem Grows.eventExists {e : Int} (hs : s.eventExists e = .ok true) :
    s'.eventExists e = .ok true := by
  unfold Store.eventExists at hs ⊢
  rw [h.isOpen]
  split at hs
  · rename_i hopen
    rw [if_pos hopen]
    have hsome : (s.database.table? .rankings e).isSome = true := Except.ok.inj hs
    rcases h.table .rankings e with heq | ⟨hnone, _⟩
    · rw [Database.hasTable, heq, hsome]
    · rw [hnone] at hsome
      cases hsome
  · cases hs

theorem Grows.rowsFor (e : Int) (f : RowFilter) : s'.rowsFor e f = s.rowsFor e f := by
  unfold Store.rowsFor
  split
  · unfold Database.chapters?
    rcases h.table .chapters e with heq | ⟨hnone, hsome⟩
    · rw [heq]
    · rw [hnone, hsome]
      rfl
  · unfold Database.rankings?
    rcases h.table .rankings e with heq | ⟨hnone, hsome⟩
    · rw [heq]
    · rw [hnone, hsome]
      rfl

theorem Grows.rankings (e : Int) (f : RowFilter) (latestOnly : Bool) :
    s'.rankings e f latestOnly = s.rankings e f latestOnly := by
  unfold Store.rankings
  rw [h.isOpen, h.rowsFor]

theorem Grows.identity (e : Int) (user : String) : s'.identity e user = s.identity e user := by
  unfold Store.identity Database.identities?
  rw [h.isOpen]
  rcases h.table .identities e with heq | ⟨hnone, hsome⟩
  · rw [heq]
  · rw [hnone, hsome]
    rfl

end Reads

/-! ## What each operation does to a store -/

theorem provision_eq (s : Store) (e : Int) (kind : EventKind) :
    s.provision e kind =
      if s.isOpen then
        (.ok (), { s.ask e with database := s.database.provision e kind.hasChapters })
      else (.error closed, s.ask e) := rfl

theorem record_eq (s : Store) (e : Int) (batch : Batch) :
    s.record e batch =
      if s.isOpen then
        match s.database.write e batch with
        | .ok db =>
            (.ok ⟨batch.rankings.length, batch.chapters.length, batch.identities.length⟩,
              { s.ask e with database := db })
        | .error kind => (.error (missing kind e), s.ask e)
      else (.error closed, s.ask e) := rfl

theorem record_of_closed {s : Store} (hclosed : s.isOpen = false) (e : Int) (batch : Batch) :
    s.record e batch = (.error closed, s.ask e) := by
  rw [record_eq, hclosed]
  rfl

theorem record_of_write {s : Store} {db : Database} {e : Int} {batch : Batch}
    (hopen : s.isOpen = true) (hwrite : s.database.write e batch = .ok db) :
    s.record e batch =
      (.ok ⟨batch.rankings.length, batch.chapters.length, batch.identities.length⟩,
        { s.ask e with database := db }) := by
  rw [record_eq, hopen, hwrite]
  rfl

theorem record_of_write_error {s : Store} {kind : TableKind} {e : Int} {batch : Batch}
    (hopen : s.isOpen = true) (hwrite : s.database.write e batch = .error kind) :
    s.record e batch = (.error (missing kind e), s.ask e) := by
  rw [record_eq, hopen, hwrite]
  rfl

theorem isOpen_provision (s : Store) (e : Int) (kind : EventKind) :
    (s.provision e kind).2.isOpen = s.isOpen := by
  rw [provision_eq]
  split <;> simp

theorem isOpen_record (s : Store) (e : Int) (batch : Batch) :
    (s.record e batch).2.isOpen = s.isOpen := by
  rw [record_eq]
  split
  · split <;> simp
  · simp

theorem isOpen_run {α : Type} (p : ReadPlan α) (s : Store) : (s.run p).2.isOpen = s.isOpen := by
  induction p generalizing s with
  | done a => rfl
  | halt why => rfl
  | eventExists e next ih => simp only [run]; split <;> simp [ih]
  | rankings e filter latest next ih => simp only [run]; split <;> simp [ih]
  | identity e user next ih => simp only [run]; split <;> simp [ih]

/-- Making tables adds tables without content, also where it fails. -/
theorem grows_provision (s : Store) (e : Int) (kind : EventKind) :
    s.Grows (s.provision e kind).2 := by
  refine ⟨s.isOpen_provision e kind, fun k e' => ?_⟩
  rw [provision_eq]
  split
  · simp only [Database.table?_provision]
    cases hold : s.database.table? k e' with
    | some t => simp
    | none => split <;> simp
  · exact Or.inl rfl

theorem table?_provision_of_ne (s : Store) {e e' : Int} (kind : EventKind) (k : TableKind)
    (h : e ≠ e') : (s.provision e kind).2.database.table? k e' = s.database.table? k e' := by
  rw [provision_eq]
  split
  · simp [Database.table?_provision, h]
  · rfl

/-- A writing that fails has changed no table. -/
theorem database_record_of_error {s s' : Store} {e : Int} {batch : Batch} {f : Failure}
    (h : s.record e batch = (.error f, s')) : s'.database = s.database := by
  rw [record_eq] at h
  split at h
  · split at h
    · cases h
    · obtain ⟨-, rfl⟩ := Prod.mk.inj h
      rfl
  · obtain ⟨-, rfl⟩ := Prod.mk.inj h
    rfl

/-- A failure to make tables has changed no table. -/
theorem database_provision_of_error {s s' : Store} {e : Int} {kind : EventKind} {f : Failure}
    (h : s.provision e kind = (.error f, s')) : s'.database = s.database := by
  rw [provision_eq] at h
  split at h
  · cases h
  · obtain ⟨-, rfl⟩ := Prod.mk.inj h
    rfl

end Store

end RankLedger
