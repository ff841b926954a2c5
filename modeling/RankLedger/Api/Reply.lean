import RankLedger.Api.Question
import RankLedger.Fleet

set_option autoImplicit false

/-! # Replies

How a fleet answers a request. An answer about an event is kept under the path as it was written, in
the namespace of the region; failures are never kept. -/

namespace RankLedger.Api

open Json (Value)

/-- The content of a reply. -/
inductive Content where
  | json (v : Value)
  | text (s : String)
  deriving Repr, Inhabited

/-- The type of a content. -/
def Content.type : Content → String
  | .json _ => "application/json"
  | .text _ => "text/plain; charset=utf-8"

/-- A reply. -/
structure Reply where
  status : Nat
  type : Option String := none
  /-- What is sent; a reply to a request for the head alone sends nothing. -/
  content : Option Content := none
  deriving Repr, Inhabited

namespace Reply

/-- A reply that says nothing but its status. -/
def bare (status : Nat) : Reply := { status := status }

/-- A reply with a content. -/
def ofContent (status : Nat) (c : Content) : Reply := ⟨status, some c.type, some c⟩

/-- A reply that goes well. -/
def ok (v : Value) : Reply := .ofContent 200 (.json v)

/-- The reply to a failure. -/
def ofFailure (f : Failure) : Reply := .ofContent f.kind.status (.json (failureBody f))

/-- The reply to a path with a flaw. -/
def ofFlaw (flaw : Arguments.Flaw) : Reply := .ofContent 400 (.text flaw.message)

/-- The head alone. -/
def head (r : Reply) : Reply := { r with content := none }

end Reply

end RankLedger.Api

namespace RankLedger.Fleet

open Api

/-- Answer from the store, and keep the answer unless the namespace has moved on. Nobody answers
where a difference overflows. -/
def compute (f : Fleet) (region : Region) (p : Post) (now : Instant) (key : String)
    (question : ReadPlan Json.Value) : Option Reply × Fleet :=
  let generation := f.cache.generation region.name
  let (result, store) := p.store.run question
  let f := f.putPost region { p with store := store }
  match result with
  | .ok body =>
      let (_, cache) := f.cache.put now.ticks region.name key body generation
      (some (.ok body), { f with cache := cache })
  | .error (.failure e) => (some (.ofFailure e), f)
  | .error .overflow => (none, f)

/-- Answer with what is kept, or else from the store. -/
def memoized (f : Fleet) (region : Region) (p : Post) (now : Instant) (key : String)
    (question : ReadPlan Json.Value) : Option Reply × Fleet :=
  match f.cache.get now.ticks region.name key with
  | some body => (some (.ok body), f)
  | none => f.compute region p now key question

/-- The regions that requests may ask about. -/
def servedRegions (f : Fleet) : List Region :=
  f.regions.filter fun r => (f.post? r).any (·.isServed)

/-- Answer a request to an endpoint. -/
def answer (f : Fleet) (now : Instant) (path : String) (e : Endpoint)
    (pieces : List (Param × String)) : Option Reply × Fleet :=
  match e.topic with
  | .health => (some (.ok (healthBody now f.servedRegions)), f)
  | topic =>
      match Arguments.ofPieces pieces with
      | .error flaw => (some (.ofFlaw flaw), f)
      | .ok a =>
          match f.served a.server with
          | .error e => (some (.ofFailure e), f)
          | .ok (region, p) => f.memoized region p now path (plan topic region a now.seconds)

/-- Answer a request. Endpoints may be read, whole or the head alone. -/
def respond (f : Fleet) (now : Instant) (method path : String) : Option Reply × Fleet :=
  match Endpoint.find? path with
  | none => (some (.bare 404), f)
  | some (e, pieces) =>
      if method = "GET" then f.answer now path e pieces
      else if method = "HEAD" then
        let (reply, f) := f.answer now path e pieces
        (reply.map (·.head), f)
      else (some (.bare 405), f)

end RankLedger.Fleet
