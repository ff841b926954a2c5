import RankLedger.Event.Kind
import RankLedger.Store.Database
import RankLedger.Store.ReadPlan

set_option autoImplicit false

/-! # The store

A database that can be closed, and the events it has been asked about. Once closed it refuses every
operation; while open it refuses only to write into a table that is not there, and then nothing is
written at all. -/

namespace RankLedger

/-- The store of a region. -/
structure Store where
  database : Database := {}
  isOpen : Bool := true
  /-- The events asked about since the store was opened, each once. -/
  asked : List Int := []
  deriving Inhabited

/-- How many rows a cycle offered. Those count too whose keys were taken, so that nothing was added
for them. -/
structure WriteSummary where
  rankings : Nat
  chapters : Nat
  identities : Nat
  deriving DecidableEq, Repr, Inhabited

namespace Store

/-! ## Refusals -/

/-- The store was closed. -/
def closed : Failure := ⟨.storage, "attempted to acquire a connection on a closed pool"⟩

/-- What the database says, with its number. -/
def databaseFailure (code : Nat) (text : String) : Failure :=
  ⟨.storage, "error returned from database: (code: " ++ toString code ++ ") " ++ text⟩

/-- A table is not there. -/
def missing (kind : TableKind) (eventId : Int) : Failure :=
  databaseFailure 1 ("no such table: " ++ kind.tableName eventId)

/-! ## Operations -/

/-- Remember that an event was asked about. -/
def ask (s : Store) (eventId : Int) : Store :=
  { s with asked := if s.asked.contains eventId then s.asked else s.asked ++ [eventId] }

/-- Make the tables of an event that are not there. -/
def provision (s : Store) (eventId : Int) (kind : EventKind) : Except Failure Unit × Store :=
  let s := s.ask eventId
  if s.isOpen then (.ok (), { s with database := s.database.provision eventId kind.hasChapters })
  else (.error closed, s)

/-- Write what a cycle brings, all or nothing. -/
def record (s : Store) (eventId : Int) (batch : Batch) : Except Failure WriteSummary × Store :=
  let s := s.ask eventId
  if s.isOpen then
    match s.database.write eventId batch with
    | .ok db =>
        (.ok ⟨batch.rankings.length, batch.chapters.length, batch.identities.length⟩,
          { s with database := db })
    | .error kind => (.error (missing kind eventId), s)
  else (.error closed, s)

/-- Whether an event has a main board. -/
def eventExists (s : Store) (eventId : Int) : Except Failure Bool :=
  if s.isOpen then .ok (s.database.hasTable .rankings eventId) else .error closed

/-- The rows that a filter looks through; none where there is no table. -/
def rowsFor (s : Store) (eventId : Int) (f : RowFilter) : List RankRow :=
  ((if f.character.isSome then s.database.chapters? eventId
    else s.database.rankings? eventId)).getD []

/-- The rows of an event that are asked for, in order of time; or the latest of them alone. -/
def rankings (s : Store) (eventId : Int) (f : RowFilter) (latestOnly : Bool) :
    Except Failure (List RankRow) :=
  if s.isOpen then
    let rows := s.rowsFor eventId f
    .ok (if latestOnly then (f.latest? rows).toList else f.history rows)
  else .error closed

/-- Who a player was last seen as in an event. -/
def identity (s : Store) (eventId : Int) (user : String) : Except Failure (Option Identity) :=
  if s.isOpen then .ok (((s.database.identities? eventId).getD []).get? user) else .error closed

/-- Follow a plan through. -/
def run {α : Type} (s : Store) : ReadPlan α → Except Halt α × Store
  | .done a => (.ok a, s)
  | .halt why => (.error why, s)
  | .eventExists e next =>
      match s.eventExists e with
      | .ok b => (s.ask e).run (next b)
      | .error f => (.error f, s.ask e)
  | .rankings e filter latest next =>
      match s.rankings e filter latest with
      | .ok rows => (s.ask e).run (next rows)
      | .error f => (.error f, s.ask e)
  | .identity e user next =>
      match s.identity e user with
      | .ok i => (s.ask e).run (next i)
      | .error f => (.error f, s.ask e)

/-- Close the store. -/
def close (s : Store) : Store := { s with isOpen := false }

/-! ## What asking leaves alone -/

@[simp] theorem database_ask (s : Store) (e : Int) : (s.ask e).database = s.database := rfl

@[simp] theorem isOpen_ask (s : Store) (e : Int) : (s.ask e).isOpen = s.isOpen := rfl

@[simp] theorem database_run {α : Type} (p : ReadPlan α) (s : Store) :
    (s.run p).2.database = s.database := by
  induction p generalizing s with
  | done a => rfl
  | halt why => rfl
  | eventExists e next ih => simp only [run]; split <;> simp [ih]
  | rankings e filter latest next ih => simp only [run]; split <;> simp [ih]
  | identity e user next ih => simp only [run]; split <;> simp [ih]

end Store

end RankLedger
