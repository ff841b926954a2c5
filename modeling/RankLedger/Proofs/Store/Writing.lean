import RankLedger.Proofs.Store.Tables

set_option autoImplicit false

/-! # What a writing does

A batch is written kind by kind, and group by group within a kind. Seen as a whole, it can be
written where the tables of the kinds that it brings are there, and then each table of the event
takes in its part (`Table.absorb`) while all other tables stay (`Database.write_cases`). The groups
leave no trace: taking in one list after another is taking in both at once (`Writer.Fills`). -/

namespace RankLedger

/-! ## What a table takes in -/

/-- Whether a batch brings anything for the tables of a kind. -/
def Batch.brings (b : Batch) : TableKind → Bool
  | .rankings => !b.rankings.isEmpty
  | .identities => !b.identities.isEmpty
  | .chapters => !b.chapters.isEmpty

/-- A table once it has taken in its part of a batch. -/
def Table.absorb (b : Batch) : Table → Table
  | .rankings rows =>
      .rankings (offerAll Database.mainKey rows
        (b.rankings.map fun r => { r with character := none }))
  | .identities players => .identities (b.identities.foldl (fun m p => m.put p.userId p) players)
  | .chapters rows =>
      .chapters (offerAll Database.chapterKey rows
        (b.chapters.map fun r => { r with character := some (r.character.getD 0) }))

@[simp] theorem Table.kind_absorb (b : Batch) (t : Table) : (t.absorb b).kind = t.kind := by
  cases t <;> rfl

theorem Table.absorb_of_brings_eq_false {b : Batch} {t : Table} (h : b.brings t.kind = false) :
    t.absorb b = t := by
  cases t with
  | rankings rows =>
      have hnil : b.rankings = [] := by simpa [Batch.brings, Table.kind] using h
      simp [Table.absorb, hnil]
  | identities players =>
      have hnil : b.identities = [] := by simpa [Batch.brings, Table.kind] using h
      simp [Table.absorb, hnil]
  | chapters rows =>
      have hnil : b.chapters = [] := by simpa [Batch.brings, Table.kind] using h
      simp [Table.absorb, hnil]

/-- The kinds are taken in one after another, in the order of writing. -/
theorem Table.absorb_eq (b : Batch) (t : Table) :
    t.absorb b = ((t.absorb { rankings := b.rankings }).absorb { chapters := b.chapters }).absorb
      { identities := b.identities } := by
  cases t <;> rfl

namespace Database

theorem kind_of_table? {db : Database} {kind : TableKind} {e : Int} {t : Table}
    (h : db.table? kind e = some t) : t.kind = kind := by
  obtain ⟨e', he'⟩ := db.named _ (Keyed.mem_of_get? h)
  exact (TableKind.tableName_inj he').1.symm

theorem rankings?_eq (db : Database) (e : Int) :
    db.rankings? e = (db.table? .rankings e).bind fun t =>
      match t with
      | .rankings rows => some rows
      | _ => none := by
  unfold rankings?
  cases db.table? .rankings e with
  | none => rfl
  | some t => cases t <;> rfl

/-- A database comes to another by having each table of an event take in its part of a batch. -/
def TakesIn (db : Database) (e : Int) (b : Batch) (db' : Database) : Prop :=
  ∀ kind e', db'.table? kind e' =
    if e = e' then (db.table? kind e').map (Table.absorb b) else db.table? kind e'

/-- A batch needs a table that is not there. -/
def lacks (db : Database) (e : Int) (b : Batch) (kind : TableKind) : Bool :=
  b.brings kind && !db.hasTable kind e

theorem TakesIn.hasTable {db db' : Database} {e : Int} {b : Batch} (h : db.TakesIn e b db')
    (kind : TableKind) (e' : Int) : db'.hasTable kind e' = db.hasTable kind e' := by
  rw [Database.hasTable, h]
  split <;> simp [Database.hasTable]

theorem TakesIn.lacks {db db' : Database} {e : Int} {b : Batch} (h : db.TakesIn e b db')
    (b' : Batch) (kind : TableKind) : db'.lacks e b' kind = db.lacks e b' kind := by
  rw [Database.lacks, h.hasTable]
  rfl

/-! ## One kind, group by group -/

/-- A writer that needs the table of one kind and has it take in a list. -/
structure Writer.Fills {α : Type} (write : Writer α) (kind : TableKind) (part : List α → Batch) :
    Prop where
  write_eq : ∀ db e xs, write db e xs =
    match db.table? kind e with
    | some t => .ok (db.putTable e (t.absorb (part xs)))
    | none => .error kind
  absorb_of_ne : ∀ xs (t : Table), t.kind ≠ kind → t.absorb (part xs) = t
  brings_part : ∀ xs, (part xs).brings kind = !xs.isEmpty
  absorb_nil : ∀ t : Table, t.absorb (part []) = t
  absorb_append : ∀ xs ys (t : Table),
    t.absorb (part (xs ++ ys)) = (t.absorb (part xs)).absorb (part ys)

theorem fills_writeRankings :
    Writer.Fills writeRankings .rankings fun rows => { rankings := rows } where
  write_eq := by
    intro db e rows
    unfold writeRankings rankings?
    cases h : db.table? .rankings e with
    | none => rfl
    | some t =>
        have hkind := kind_of_table? h
        cases t with
        | rankings held => rfl
        | identities players => cases hkind
        | chapters held => cases hkind
  absorb_of_ne := by
    intro rows t ht
    cases t with
    | rankings held => exact absurd rfl ht
    | identities players => rfl
    | chapters held => rfl
  brings_part := fun _ => rfl
  absorb_nil := by
    intro t
    cases t <;> rfl
  absorb_append := by
    intro rows rows' t
    cases t with
    | rankings held => simp [Table.absorb, offerAll_append]
    | identities players => rfl
    | chapters held => rfl

theorem fills_writeChapters :
    Writer.Fills writeChapters .chapters fun rows => { chapters := rows } where
  write_eq := by
    intro db e rows
    unfold writeChapters chapters?
    cases h : db.table? .chapters e with
    | none => rfl
    | some t =>
        have hkind := kind_of_table? h
        cases t with
        | rankings held => cases hkind
        | identities players => cases hkind
        | chapters held => rfl
  absorb_of_ne := by
    intro rows t ht
    cases t with
    | rankings held => rfl
    | identities players => rfl
    | chapters held => exact absurd rfl ht
  brings_part := fun _ => rfl
  absorb_nil := by
    intro t
    cases t <;> rfl
  absorb_append := by
    intro rows rows' t
    cases t with
    | rankings held => rfl
    | identities players => rfl
    | chapters held => simp [Table.absorb, offerAll_append]

theorem fills_writeIdentities :
    Writer.Fills writeIdentities .identities fun players => { identities := players } where
  write_eq := by
    intro db e players
    unfold writeIdentities identities?
    cases h : db.table? .identities e with
    | none => rfl
    | some t =>
        have hkind := kind_of_table? h
        cases t with
        | rankings held => cases hkind
        | identities held => rfl
        | chapters held => cases hkind
  absorb_of_ne := by
    intro players t ht
    cases t with
    | rankings held => rfl
    | identities held => exact absurd rfl ht
    | chapters held => rfl
  brings_part := fun _ => rfl
  absorb_nil := by
    intro t
    cases t <;> rfl
  absorb_append := by
    intro players players' t
    cases t with
    | rankings held => rfl
    | identities held => simp [Table.absorb]
    | chapters held => rfl

theorem flatten_groups {α : Type} (xs : List α) : (groups xs).flatten = xs := by
  induction xs using groups.induct with
  | case1 => simp [groups]
  | case2 x xs ih => rw [groups, List.flatten_cons, ih, List.take_append_drop]

section Fills

variable {α : Type} {write : Writer α} {kind : TableKind} {part : List α → Batch}
  (hw : Writer.Fills write kind part)
include hw

theorem Writer.Fills.takesIn_putTable {db : Database} {e : Int} {t : Table}
    (ht : db.table? kind e = some t) (xs : List α) :
    db.TakesIn e (part xs) (db.putTable e (t.absorb (part xs))) := by
  intro k e'
  rw [table?_putTable, Table.kind_absorb, kind_of_table? ht]
  by_cases he : e = e'
  · subst he
    by_cases hk : kind = k
    · subst hk
      simp [ht]
    · -- A table of another kind takes nothing in.
      have hsame : (db.table? k e).map (Table.absorb (part xs)) = db.table? k e := by
        cases hold : db.table? k e with
        | none => rfl
        | some u =>
            have hu : u.kind ≠ kind := by
              rw [kind_of_table? hold]
              exact fun h => hk h.symm
            rw [Option.map_some, hw.absorb_of_ne xs u hu]
      simp [hk, hsame]
  · simp [he]

theorem Writer.Fills.foldlM_groups (gs : List (List α)) {db : Database} {e : Int}
    (hthere : db.hasTable kind e = true) :
    ∃ db', gs.foldlM (fun db group => write db e group) db = .ok db'
      ∧ db.TakesIn e (part gs.flatten) db' := by
  induction gs generalizing db with
  | nil =>
      refine ⟨db, rfl, fun k e' => ?_⟩
      simp [funext hw.absorb_nil]
  | cons g gs ih =>
      obtain ⟨t, ht⟩ := Option.isSome_iff_exists.1 hthere
      have hput := hw.takesIn_putTable ht g
      obtain ⟨db', hrun, htables⟩ := ih ((hput.hasTable kind e).trans hthere)
      refine ⟨db', ?_, fun k e' => ?_⟩
      · rw [List.foldlM_cons, hw.write_eq, ht]
        exact hrun
      · rw [htables, hput]
        by_cases he : e = e'
        · simp only [he, if_true, Option.map_map, List.flatten_cons]
          congr 1
          funext u
          exact (hw.absorb_append g gs.flatten u).symm
        · simp only [he, if_false]

/-- A list is written unless it needs the table and that is not there; its groups leave no trace. -/
theorem Writer.Fills.writeAll_cases (db : Database) (e : Int) (xs : List α) :
    (∃ db', writeAll write db e xs = .ok db' ∧ db.lacks e (part xs) kind = false
        ∧ db.TakesIn e (part xs) db')
      ∨ writeAll write db e xs = .error kind ∧ db.lacks e (part xs) kind = true := by
  unfold writeAll
  by_cases ht : db.hasTable kind e = true
  · obtain ⟨db', hrun, htables⟩ := hw.foldlM_groups (groups xs) ht
    rw [flatten_groups] at htables
    exact Or.inl ⟨db', hrun, by simp [lacks, ht], htables⟩
  · have hnone : db.table? kind e = none := by simpa [hasTable] using ht
    cases xs with
    | nil =>
        refine Or.inl ⟨db, by rw [groups]; rfl, by simp [lacks, hw.brings_part], fun k e' => ?_⟩
        simp [funext hw.absorb_nil]
    | cons x xs =>
        refine Or.inr ⟨?_, by simp [lacks, hw.brings_part, ht]⟩
        rw [groups, List.foldlM_cons, hw.write_eq, hnone]
        rfl

end Fills

/-! ## A whole batch -/

/-- The kinds of tables in the order in which they are written. -/
def writingOrder : List TableKind := [.rankings, .chapters, .identities]

/-- A batch is written unless it needs a table that is not there. The first such table is named;
otherwise each table of the event takes in its part. -/
theorem write_cases (db : Database) (e : Int) (b : Batch) :
    (∃ db', db.write e b = .ok db' ∧ (∀ kind, db.lacks e b kind = false) ∧ db.TakesIn e b db')
      ∨ ∃ kind, db.write e b = .error kind
        ∧ writingOrder.find? (db.lacks e b) = some kind := by
  unfold write
  rcases fills_writeRankings.writeAll_cases db e b.rankings with
    ⟨db₁, hr, hneeds, htakes₁⟩ | ⟨hr, hlacks⟩
  · have hrankings : db.lacks e b .rankings = false := hneeds
    rcases fills_writeChapters.writeAll_cases db₁ e b.chapters with
      ⟨db₂, hc, hneeds, htakes₂⟩ | ⟨hc, hlacks⟩
    · rw [htakes₁.lacks] at hneeds
      have hchapters : db.lacks e b .chapters = false := hneeds
      rcases fills_writeIdentities.writeAll_cases db₂ e b.identities with
        ⟨db₃, hi, hneeds, htakes₃⟩ | ⟨hi, hlacks⟩
      · rw [htakes₂.lacks, htakes₁.lacks] at hneeds
        have hidentities : db.lacks e b .identities = false := hneeds
        refine Or.inl ⟨db₃, by simp only [bind, Except.bind, hr, hc, hi], fun kind => ?_,
          fun k e' => ?_⟩
        · cases kind with
          | rankings => exact hrankings
          | identities => exact hidentities
          | chapters => exact hchapters
        · rw [htakes₃, htakes₂, htakes₁]
          split
          · simp only [Option.map_map]
            congr 1
            funext t
            exact (t.absorb_eq b).symm
          · rfl
      · rw [htakes₂.lacks, htakes₁.lacks] at hlacks
        have hidentities : db.lacks e b .identities = true := hlacks
        refine Or.inr ⟨.identities, by simp only [bind, Except.bind, hr, hc, hi], ?_⟩
        simp [writingOrder, hrankings, hchapters, hidentities]
    · rw [htakes₁.lacks] at hlacks
      have hchapters : db.lacks e b .chapters = true := hlacks
      refine Or.inr ⟨.chapters, by simp only [bind, Except.bind, hr, hc], ?_⟩
      simp [writingOrder, hrankings, hchapters]
  · have hrankings : db.lacks e b .rankings = true := hlacks
    refine Or.inr ⟨.rankings, by simp only [bind, Except.bind, hr], ?_⟩
    simp [writingOrder, hrankings]

end Database

/-! ## Stores -/

namespace Store

/-- The tables that events of a kind need are there. -/
def HasTables (s : Store) (e : Int) (kind : EventKind) : Prop :=
  ∀ k ∈ Schema.kinds kind.hasChapters, s.database.hasTable k e = true

theorem HasTables.mono {s s' : Store} {e : Int} {kind : EventKind} (h : s.HasTables e kind)
    (hs : ∀ k e, s.database.hasTable k e = true → s'.database.hasTable k e = true) :
    s'.HasTables e kind := by
  intro k hk
  exact hs k e (h k hk)

theorem hasTables_provision {s s' : Store} {e : Int} {kind : EventKind}
    (h : s.provision e kind = (.ok (), s')) : s'.HasTables e kind := by
  rw [provision_eq] at h
  split at h
  · obtain ⟨-, rfl⟩ := Prod.mk.inj h
    intro k hk
    simp only [Database.hasTable, Database.table?_provision, hk]
    simp
  · cases h

theorem record_cases {s : Store} (hopen : s.isOpen = true) (e : Int) (b : Batch) :
    (∃ w s', s.record e b = (.ok w, s') ∧ w.rankings = b.rankings.length
        ∧ (∀ kind, s.database.lacks e b kind = false) ∧ s.database.TakesIn e b s'.database)
      ∨ ∃ kind, s.record e b = (.error (missing kind e), s.ask e)
        ∧ s.database.lacks e b kind = true := by
  rcases s.database.write_cases e b with ⟨db, hw, hlacks, htakes⟩ | ⟨kind, hw, hfirst⟩
  · exact Or.inl ⟨_, _, record_of_write hopen hw, rfl, hlacks, htakes⟩
  · exact Or.inr ⟨kind, record_of_write_error hopen hw, List.find?_some hfirst⟩

/-- What a store that has taken a batch tells and holds, and had before. -/
theorem record_ok {s s' : Store} {e : Int} {b : Batch} {w : WriteSummary}
    (h : s.record e b = (.ok w, s')) :
    w.rankings = b.rankings.length ∧ (∀ kind, s.database.lacks e b kind = false)
      ∧ s.database.TakesIn e b s'.database := by
  have hopen : s.isOpen = true := by
    rw [record_eq] at h
    split at h
    · assumption
    · cases h
  rcases record_cases hopen e b with ⟨w', s'', hok, htakes⟩ | ⟨kind, herror, -⟩
  · rw [hok] at h
    obtain ⟨hw, rfl⟩ := Prod.mk.inj h
    obtain rfl := Except.ok.inj hw
    exact htakes
  · rw [herror] at h
    cases h

/-- Writing touches the tables of one event, whether it succeeds or not. -/
theorem table?_record_of_ne (s : Store) {e e' : Int} (b : Batch) (kind : TableKind) (h : e ≠ e') :
    (s.record e b).2.database.table? kind e' = s.database.table? kind e' := by
  rcases hr : s.record e b with ⟨f | w, s'⟩
  · rw [database_record_of_error hr]
  · obtain ⟨-, -, htakes⟩ := record_ok hr
    rw [htakes, if_neg h]

/-! ### The rows of a main board -/

/-- The rows of an event's main board. -/
def mainRows (s : Store) (e : Int) : List RankRow := s.rowsFor e {}

theorem Grows.mainRows {s s' : Store} (h : s.Grows s') (e : Int) : s'.mainRows e = s.mainRows e :=
  h.rowsFor e {}

theorem mainRows_record_of_nil {s s' : Store} {e : Int} {b : Batch} {w : WriteSummary}
    (h : s.record e b = (.ok w, s')) (hb : b.rankings = []) (e' : Int) :
    s'.mainRows e' = s.mainRows e' := by
  obtain ⟨-, -, htakes⟩ := record_ok h
  have hsame : s'.database.table? .rankings e' = s.database.table? .rankings e' := by
    rw [htakes]
    split
    · cases hold : s.database.table? .rankings e' with
      | none => rfl
      | some t =>
          have hnone : b.brings t.kind = false := by
            rw [Database.kind_of_table? hold]
            simp [Batch.brings, hb]
          rw [Option.map_some, Table.absorb_of_brings_eq_false hnone]
    · rfl
  simp only [mainRows, rowsFor, Option.isSome_none, Bool.false_eq_true, if_false,
    Database.rankings?_eq, hsame]

/-- A main board takes in the rows of a batch for which it has no row of that player and second. -/
theorem mainRows_record {s s' : Store} {e : Int} {b : Batch} {w : WriteSummary}
    (h : s.record e b = (.ok w, s')) :
    s'.mainRows e = offerAll Database.mainKey (s.mainRows e)
      (b.rankings.map fun r => { r with character := none }) := by
  by_cases hb : b.rankings = []
  · rw [mainRows_record_of_nil h hb, hb]
    rfl
  · obtain ⟨-, hlacks, htakes⟩ := record_ok h
    have hthere : s.database.hasTable .rankings e = true := by
      simpa [Database.lacks, Batch.brings, hb] using hlacks .rankings
    obtain ⟨t, ht⟩ := Option.isSome_iff_exists.1 hthere
    have ht' : s'.database.table? .rankings e = some (t.absorb b) := by
      rw [htakes, if_pos rfl, ht, Option.map_some]
    have hkind := Database.kind_of_table? ht
    cases t with
    | rankings rows =>
        simp only [mainRows, rowsFor, Option.isSome_none, Bool.false_eq_true, if_false,
          Database.rankings?_eq, ht, ht']
        rfl
    | identities players => cases hkind
    | chapters rows => cases hkind

end Store

end RankLedger
