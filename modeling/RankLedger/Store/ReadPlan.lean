import RankLedger.Failure
import RankLedger.Store.Rows
import RankLedger.Word

set_option autoImplicit false

/-! # Plans of reads

A question about an event is a tree of single reads of the store: what is read next may depend on
what was found. Between two reads the store may change, so a plan keeps them apart; `Store.run`
follows one through on a store that stays as it is. -/

namespace RankLedger

/-- A computation that reads the store. -/
inductive ReadPlan (α : Type) where
  /-- Nothing more to read. -/
  | done (a : α)
  /-- End without a value. -/
  | halt (why : Halt)
  /-- Whether an event has a main board. -/
  | eventExists (eventId : Int) (next : Bool → ReadPlan α)
  /-- The rows of an event that are asked for, in order of time; or the latest of them alone. -/
  | rankings (eventId : Int) (filter : RowFilter) (latestOnly : Bool)
      (next : List RankRow → ReadPlan α)
  /-- Who a player was last seen as in an event. -/
  | identity (eventId : Int) (user : String) (next : Option Identity → ReadPlan α)

namespace ReadPlan

variable {α β : Type}

/-- Go on with a second plan. -/
def bind : ReadPlan α → (α → ReadPlan β) → ReadPlan β
  | done a, f => f a
  | halt why, _ => halt why
  | eventExists e next, f => eventExists e fun b => (next b).bind f
  | rankings e filter latest next, f => rankings e filter latest fun rows => (next rows).bind f
  | identity e user next, f => identity e user fun i => (next i).bind f

instance : Monad ReadPlan where
  pure := done
  bind := bind

/-- Fail. -/
def fail (kind : FailureKind) (text : String) : ReadPlan α := halt (.failure ⟨kind, text⟩)

/-! ## Plans of one read -/

/-- Whether an event has a main board. -/
def readExists (eventId : Int) : ReadPlan Bool := eventExists eventId done

/-- The rows of an event that are asked for, in order of time. -/
def readHistory (eventId : Int) (filter : RowFilter) : ReadPlan (List RankRow) :=
  rankings eventId filter false done

/-- The latest row of an event that is asked for. -/
def readLatest (eventId : Int) (filter : RowFilter) : ReadPlan (Option RankRow) :=
  rankings eventId filter true fun rows => done rows.head?

/-- Who a player was last seen as in an event. -/
def readIdentity (eventId : Int) (user : String) : ReadPlan (Option Identity) :=
  identity eventId user done

/-! ## Lines and growth -/

/-- The latest score at each of the places that have one. -/
def lines (eventId : Int) (character : Option Int) : List Int → ReadPlan (List Line)
  | [] => pure []
  | rank :: ranks => do
      let row ← readLatest eventId { rank := some rank, character := character }
      let rest ← lines eventId character ranks
      pure (match row with
        | some r => ⟨rank, r.score, r.userId, r.timestamp⟩ :: rest
        | none => rest)

/-- How the score at a place has grown from the first to the last of its rows; nothing with fewer
than two. -/
def growthOf (rank : Int) (rows : List RankRow) : Except Halt (Option Growth) :=
  match rows, rows.getLast? with
  | earlier :: _ :: _, some latest =>
      match Word.sub? latest.score earlier.score with
      | some growth =>
          .ok (some
            ⟨rank, earlier.timestamp, earlier.score, latest.timestamp, latest.score, growth⟩)
      | none => .error .overflow
  | _, _ => .ok none

/-- How the scores at places have grown since a second; places with fewer than two rows are left
out. -/
def growth (eventId : Int) (character : Option Int) (since : Int) :
    List Int → ReadPlan (List Growth)
  | [] => pure []
  | rank :: ranks => do
      let rows ← readHistory eventId
        { rank := some rank, character := character, since := some since }
      match growthOf rank rows with
      | .error why => halt why
      | .ok g => do
          let rest ← growth eventId character since ranks
          pure (g.toList ++ rest)

end ReadPlan

end RankLedger
