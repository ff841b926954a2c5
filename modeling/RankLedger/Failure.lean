set_option autoImplicit false

/-! # Failures

What can go wrong, by kind. A failure is shown as the label of its kind and its own text, and
answers a request with the status and the number of its kind. -/

namespace RankLedger

/-- The kinds of failure. -/
inductive FailureKind where
  /-- A calendar file cannot be read or understood. -/
  | masterData
  /-- The ranking feed cannot be reached, refuses, or sends nonsense. -/
  | feed
  /-- The store refuses; what was begun is undone. -/
  | storage
  /-- No such region, or it is not served. -/
  | unknownServer
  /-- The request asks for something impossible. -/
  | invalidRequest
  /-- Nothing recorded under what was asked for. -/
  | notFound
  /-- The settings are wrong. -/
  | configuration
  /-- Anything else. -/
  | internal
  deriving DecidableEq, Repr, Inhabited

namespace FailureKind

/-- The words that stand before the text of a failure. -/
def label : FailureKind → String
  | .masterData => "master data error"
  | .feed => "upstream fetch error"
  | .storage => "persistence error"
  | .unknownServer => "unknown server"
  | .invalidRequest => "invalid request"
  | .notFound => "not found"
  | .configuration => "configuration error"
  | .internal => "internal error"

/-- The number shown to clients. -/
def code : FailureKind → Nat
  | .invalidRequest => 1001
  | .unknownServer => 1002
  | .notFound => 2001
  | .internal => 3000
  | .storage => 3001
  | .configuration => 3002
  | .feed => 4001
  | .masterData => 4002

/-- The HTTP status that a failure answers with. -/
def status : FailureKind → Nat
  | .invalidRequest | .unknownServer => 400
  | .notFound => 404
  | .storage | .configuration | .internal => 500
  | .feed => 502
  | .masterData => 503

end FailureKind

/-- A failure: its kind and its text. -/
structure Failure where
  kind : FailureKind
  text : String
  deriving DecidableEq, Repr, Inhabited

namespace Failure

/-- How a failure is shown. -/
def message (f : Failure) : String := f.kind.label ++ ": " ++ f.text

end Failure

/-- Why a computation ends without a value. -/
inductive Halt where
  /-- Something failed and says so. -/
  | failure (f : Failure)
  /-- A difference does not fit into 64 bits; nobody answers for it. -/
  | overflow
  deriving DecidableEq, Repr, Inhabited

namespace Halt

instance : Coe Failure Halt := ⟨.failure⟩

/-- Count a failure among the reasons to end. -/
def lift {α : Type} : Except Failure α → Except Halt α
  | .ok a => .ok a
  | .error f => .error (.failure f)

end Halt

end RankLedger
