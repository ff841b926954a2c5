import RankLedger.Proofs.Store.Writing

set_option autoImplicit false

/-! # What the tables of a store hold

Seen through `Store.content`, a table that is not there holds nothing. Then a batch that is written
is simply taken in by all tables of its event (`Store.content_record`), and batches written one
after another are taken in like one long batch (`Table.absorb_append`). -/

namespace RankLedger

/-! ## Batches -/

namespace Batch

/-- All that two batches bring, in order. -/
def append (b b' : Batch) : Batch where
  rankings := b.rankings ++ b'.rankings
  chapters := b.chapters ++ b'.chapters
  identities := b.identities ++ b'.identities

instance : Append Batch := ⟨append⟩

/-- The rows of the main board as they are stored: they belong to no chapter. -/
def mainRows (b : Batch) : List RankRow := b.rankings.map fun r => { r with character := none }

/-- The rows of chapters as they are stored: character `0` stands in for none. -/
def chapterRows (b : Batch) : List RankRow :=
  b.chapters.map fun r => { r with character := some (r.character.getD 0) }

@[simp] theorem append_eq (b b' : Batch) : b ++ b' =
    ⟨b.rankings ++ b'.rankings, b.chapters ++ b'.chapters, b.identities ++ b'.identities⟩ := rfl

end Batch

/-! ## Tables -/

namespace Table

/-- The rows of a table. -/
def rows : Table → List RankRow
  | .rankings rows => rows
  | .identities _ => []
  | .chapters rows => rows

/-- The players of a table. -/
def players : Table → Keyed String Identity
  | .rankings _ => []
  | .identities players => players
  | .chapters _ => []

theorem eq_rankings {t : Table} (h : t.kind = .rankings) : t = .rankings t.rows := by
  cases t with
  | rankings rows => rfl
  | identities players => cases h
  | chapters rows => cases h

theorem eq_identities {t : Table} (h : t.kind = .identities) : t = .identities t.players := by
  cases t with
  | rankings rows => cases h
  | identities players => rfl
  | chapters rows => cases h

theorem eq_chapters {t : Table} (h : t.kind = .chapters) : t = .chapters t.rows := by
  cases t with
  | rankings rows => cases h
  | identities players => cases h
  | chapters rows => rfl

@[simp] theorem absorb_empty (t : Table) : t.absorb {} = t := by cases t <;> rfl

/-- Batches one after another are taken in like one. -/
theorem absorb_append (t : Table) (b b' : Batch) :
    t.absorb (b ++ b') = (t.absorb b).absorb b' := by
  cases t with
  | rankings rows => simp [absorb, offerAll_append]
  | identities players => simp [absorb]
  | chapters rows => simp [absorb, offerAll_append]

end Table

/-! ## Stores -/

namespace Store

/-- The table of a kind that belongs to an event; one without content where there is none. -/
def content (s : Store) (kind : TableKind) (e : Int) : Table :=
  (s.database.table? kind e).getD (.empty kind)

/-- The rows of an event's chapters. -/
def chapterRows (s : Store) (e : Int) : List RankRow := (s.database.chapters? e).getD []

/-- The players seen in an event. -/
def players (s : Store) (e : Int) : Keyed String Identity := (s.database.identities? e).getD []

section Views

variable (s : Store) (e : Int)

theorem mainRows_eq : s.mainRows e = (s.content .rankings e).rows := by
  unfold mainRows rowsFor content
  rw [Database.rankings?_eq]
  cases h : s.database.table? .rankings e with
  | none => rfl
  | some t =>
      rw [Table.eq_rankings (Database.kind_of_table? h)]
      rfl

theorem chapterRows_eq : s.chapterRows e = (s.content .chapters e).rows := by
  unfold chapterRows content Database.chapters?
  cases h : s.database.table? .chapters e with
  | none => rfl
  | some t =>
      rw [Table.eq_chapters (Database.kind_of_table? h)]
      rfl

theorem players_eq : s.players e = (s.content .identities e).players := by
  unfold players content Database.identities?
  cases h : s.database.table? .identities e with
  | none => rfl
  | some t =>
      rw [Table.eq_identities (Database.kind_of_table? h)]
      rfl

theorem kind_content (kind : TableKind) : (s.content kind e).kind = kind := by
  unfold content
  cases h : s.database.table? kind e with
  | none => exact Table.kind_empty kind
  | some t => exact Database.kind_of_table? h

end Views

/-- Making tables leaves what all tables hold. -/
theorem Grows.content {s s' : Store} (h : s.Grows s') (kind : TableKind) (e : Int) :
    s'.content kind e = s.content kind e := by
  unfold Store.content
  rcases h.table kind e with heq | ⟨hnone, hsome⟩
  · rw [heq]
  · rw [hnone, hsome]
    rfl

/-- A batch that is written is taken in by the tables of its event. -/
theorem content_record {s s' : Store} {e : Int} {b : Batch} {w : WriteSummary}
    (h : s.record e b = (.ok w, s')) (kind : TableKind) (e' : Int) :
    s'.content kind e' = if e = e' then (s.content kind e').absorb b else s.content kind e' := by
  obtain ⟨-, hlacks, htakes⟩ := record_ok h
  unfold content
  rw [htakes]
  split
  · rename_i he
    subst he
    cases hold : s.database.table? kind e with
    | some t => rfl
    | none =>
        -- A table that is not there was not needed.
        have hbrings : b.brings (Table.empty kind).kind = false := by
          simpa [Database.lacks, Database.hasTable, hold] using hlacks kind
        exact (Table.absorb_of_brings_eq_false hbrings).symm
  · rfl

/-- A store that has taken a batch tells how much it brought. -/
theorem summary_of_record {s s' : Store} {e : Int} {b : Batch} {w : WriteSummary}
    (h : s.record e b = (.ok w, s')) :
    w = ⟨b.rankings.length, b.chapters.length, b.identities.length⟩ := by
  rw [record_eq] at h
  split at h
  · split at h
    · exact (Except.ok.inj (Prod.mk.inj h).1).symm
    · cases h
  · cases h

/-- The chapters of an event take in the rows of a batch for which they have no row of that player,
second and character. -/
theorem chapterRows_record {s s' : Store} {e : Int} {b : Batch} {w : WriteSummary}
    (h : s.record e b = (.ok w, s')) :
    s'.chapterRows e = offerAll Database.chapterKey (s.chapterRows e) b.chapterRows := by
  rw [chapterRows_eq, chapterRows_eq, content_record h, if_pos rfl,
    Table.eq_chapters (s.kind_content e .chapters)]
  rfl

end Store

end RankLedger
