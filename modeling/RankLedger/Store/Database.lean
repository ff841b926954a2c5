import RankLedger.Keyed
import RankLedger.Store.Rows
import RankLedger.Store.Schema

set_option autoImplicit false

/-! # The database

Tables by name, in one namespace for all events and kinds. A table of rows holds each key once, and
what is offered first under a key stays; the table of players keeps what is written last. -/

namespace RankLedger

/-- The content of a table. -/
inductive Table where
  | rankings (rows : List RankRow)
  | identities (players : Keyed String Identity)
  | chapters (rows : List RankRow)
  deriving DecidableEq, Repr, Inhabited

namespace Table

/-- The kind of a table. -/
def kind : Table → TableKind
  | .rankings _ => .rankings
  | .identities _ => .identities
  | .chapters _ => .chapters

/-- A table without content. -/
def empty : TableKind → Table
  | .rankings => .rankings []
  | .identities => .identities []
  | .chapters => .chapters []

@[simp] theorem kind_empty (k : TableKind) : (empty k).kind = k := by cases k <;> rfl

end Table

theorem named_nil : ∀ p ∈ ([] : Keyed String Table),
    ∃ eventId, p.1 = p.2.kind.tableName eventId := by simp

/-- Tables by name; each stands under the name of its kind for some event. -/
structure Database where
  tables : Keyed String Table := []
  named : ∀ p ∈ tables, ∃ eventId, p.1 = p.2.kind.tableName eventId := by
    exact named_nil

namespace Database

instance : Inhabited Database := ⟨{}⟩

/-- The table of a kind that belongs to an event. -/
def table? (db : Database) (kind : TableKind) (eventId : Int) : Option Table :=
  db.tables.get? (kind.tableName eventId)

theorem mem_of_mem_put {κ ν : Type} [DecidableEq κ] {m : Keyed κ ν} {k : κ} {v : ν} {p : κ × ν}
    (h : p ∈ m.put k v) : p = (k, v) ∨ p ∈ m := by
  induction m with
  | nil => exact Or.inl (List.mem_singleton.1 h)
  | cons q m ih =>
      unfold Keyed.put at h
      split at h
      · rcases List.mem_cons.1 h with h | h
        · exact Or.inl h
        · exact Or.inr (List.mem_cons_of_mem _ h)
      · rcases List.mem_cons.1 h with h | h
        · exact Or.inr (h ▸ List.mem_cons_self)
        · exact (ih h).imp_right (List.mem_cons_of_mem _)

/-- Replace or add a table of an event. -/
def putTable (db : Database) (eventId : Int) (t : Table) : Database where
  tables := db.tables.put (t.kind.tableName eventId) t
  named := fun p hp => by
    rcases mem_of_mem_put hp with rfl | hp
    · exact ⟨eventId, rfl⟩
    · exact db.named p hp

/-! ## Tables by kind -/

/-- The rows of an event's main board. -/
def rankings? (db : Database) (eventId : Int) : Option (List RankRow) :=
  match db.table? .rankings eventId with
  | some (.rankings rows) => some rows
  | _ => none

/-- The players seen in an event. -/
def identities? (db : Database) (eventId : Int) : Option (Keyed String Identity) :=
  match db.table? .identities eventId with
  | some (.identities players) => some players
  | _ => none

/-- The rows of an event's chapters. -/
def chapters? (db : Database) (eventId : Int) : Option (List RankRow) :=
  match db.table? .chapters eventId with
  | some (.chapters rows) => some rows
  | _ => none

/-- Whether an event has a table of a kind. -/
def hasTable (db : Database) (kind : TableKind) (eventId : Int) : Bool :=
  (db.table? kind eventId).isSome

/-! ## Changing tables -/

/-- Make a table unless it is there. -/
def create (db : Database) (eventId : Int) (kind : TableKind) : Database :=
  if db.hasTable kind eventId then db else db.putTable eventId (.empty kind)

/-- Make the tables that an event needs. -/
def provision (db : Database) (eventId : Int) (withChapters : Bool) : Database :=
  (Schema.kinds withChapters).foldl (fun db kind => db.create eventId kind) db

/-- What tells rows of a main board apart. -/
def mainKey (r : RankRow) : Int × String := (r.timestamp, r.userId)

/-- What tells rows of chapters apart. -/
def chapterKey (r : RankRow) : Int × String × Option Int := (r.timestamp, r.userId, r.character)

/-- Rows are written in groups of so many. -/
def groupSize : Nat := 200

/-- The groups of a list, each as large as allowed but the last. -/
def groups {α : Type} : List α → List (List α)
  | [] => []
  | x :: xs => (x :: xs).take groupSize :: groups ((x :: xs).drop groupSize)
termination_by xs => xs.length
decreasing_by
  simp only [List.length_drop, List.length_cons, groupSize]
  omega

/-- Write a group into a table of an event, or name the table that is missing. -/
abbrev Writer (α : Type) : Type := Database → Int → List α → Except TableKind Database

/-- Write rows of the main board; they belong to no chapter. -/
def writeRankings : Writer RankRow := fun db eventId rows =>
  match db.rankings? eventId with
  | some held =>
      let rows := rows.map fun r => { r with character := none }
      .ok (db.putTable eventId (.rankings (offerAll mainKey held rows)))
  | none => .error .rankings

/-- Write rows of chapters; character `0` stands in for none. -/
def writeChapters : Writer RankRow := fun db eventId rows =>
  match db.chapters? eventId with
  | some held =>
      let rows := rows.map fun r => { r with character := some (r.character.getD 0) }
      .ok (db.putTable eventId (.chapters (offerAll chapterKey held rows)))
  | none => .error .chapters

/-- Write players. -/
def writeIdentities : Writer Identity := fun db eventId players =>
  match db.identities? eventId with
  | some held =>
      .ok (db.putTable eventId (.identities (players.foldl (fun m p => m.put p.userId p) held)))
  | none => .error .identities

/-- Write a list group by group. -/
def writeAll {α : Type} (write : Writer α) : Writer α := fun db eventId xs =>
  (groups xs).foldlM (fun db group => write db eventId group) db

/-- Write all that a cycle brings, or name the first table that is missing. -/
def write (db : Database) (eventId : Int) (batch : Batch) : Except TableKind Database := do
  let db ← writeAll writeRankings db eventId batch.rankings
  let db ← writeAll writeChapters db eventId batch.chapters
  writeAll writeIdentities db eventId batch.identities

end Database

end RankLedger
