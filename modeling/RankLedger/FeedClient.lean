import RankLedger.Http.Address
import RankLedger.Http.Message
import RankLedger.Http.Target
import RankLedger.Ranking.Payload
import RankLedger.Tracking.Tracker

set_option autoImplicit false

/-! # The client of the ranking feed

A view of an event is asked for at an address below the feed's endpoint. The client says what it
asks and what to make of the answer; carrying the request over the network is left to others. -/

namespace RankLedger

/-- What the feed is asked with. -/
structure FeedClient where
  /-- Where the feed is; no slash at the end. -/
  endpoint : String
  /-- What tells the feed who asks. -/
  token : Option String
  deriving DecidableEq, Repr, Inhabited

/-- A request as it is sent: its first line, and its headers by name. -/
structure FeedRequest where
  line : String
  headers : List (String × String)
  deriving DecidableEq, Repr, Inhabited

/-- The value of a header. -/
def FeedRequest.header? (r : FeedRequest) (name : String) : Option String := r.headers.lookup name

namespace FeedClient

/-- The header that carries the token. -/
def tokenHeader : String := "x-haruki-sekai-token"

/-- The header that tells who asks. -/
def agentHeader : String := "user-agent"

/-- How the client presents itself. -/
def userAgent : String := "sekai-event-tracker/0.1.0"

/-- The text without slashes at the end. -/
def dropSlashes (s : String) : String :=
  String.ofList ((s.toList.reverse.dropWhile (· = '/')).reverse)

/-- A client for an endpoint; an empty token counts as none. -/
def create (endpoint : String) (token : Option String) : Except Failure FeedClient :=
  let token := token.filter (!·.isEmpty)
  if token.all (·.toList.all Message.isValueChar) then .ok ⟨dropSlashes endpoint, token⟩
  else .error ⟨.configuration, "invalid upstream token: failed to parse header value"⟩

/-- The end of the address of a view. -/
def viewName : View → String
  | .top => "ranking-top100"
  | .border => "ranking-border"

/-- The address below the endpoint. -/
def path (f : Fetch) : String :=
  "/" ++ f.region.name ++ "/event/" ++ toString f.eventId ++ "/" ++ viewName f.view

/-- Where a view is asked for. -/
def url (c : FeedClient) (f : Fetch) : String := c.endpoint ++ path f

/-- A look at the feed that failed. -/
def failure (c : FeedClient) (f : Fetch) (text : String) : Failure :=
  ⟨.feed, "GET " ++ c.url f ++ " " ++ text⟩

/-- The end of a text that names an address. -/
def about (a : Address) : String := " for url (" ++ a.render ++ ")"

/-- Where a view is asked for, in order; nothing is asked where that makes no sense or is too
long. -/
def address (c : FeedClient) (f : Fetch) : Except Failure Address :=
  match Address.ofText? (c.url f) with
  | none => .error (c.failure f "failed: builder error")
  | some a =>
      if Target.lengthLimit < a.render.utf8ByteSize then
        .error (c.failure f ("failed: builder error" ++ about a))
      else .ok a

/-- The request for what is at an address. -/
def request (c : FeedClient) (a : Address) : FeedRequest where
  line := "GET " ++ a.target ++ " HTTP/1.1"
  headers := (agentHeader, userAgent) :: (c.token.map (tokenHeader, ·)).toList

/-- A request that no answer came to. -/
def unanswered (c : FeedClient) (f : Fetch) (a : Address) : Failure :=
  c.failure f ("failed: error sending request" ++ about a)

/-- What an answer shows; its address has no fragment. -/
def understand (c : FeedClient) (f : Fetch) (a : Address) (m : Message) : Except Failure Board :=
  if Status.isSuccess m.status then
    match m.body.bind (Payload.ofBytes? f.view) with
    | some p => .ok p.board
    | none => .error (c.failure f ("bad payload: error decoding response body" ++ about a.bare))
  else .error (c.failure f ("returned " ++ Status.render m.status))

/-- Look at a view; `exchange` carries a request to an address and hands back the bytes that come on
the connection, if there is one. -/
def look (c : FeedClient) (f : Fetch) (exchange : Address → FeedRequest → Option Bytes) :
    Except Failure Board := do
  let a ← c.address f
  match (exchange a (c.request a)).bind Message.ofBytes? with
  | some m => c.understand f a m
  | none => .error (c.unanswered f a)

end FeedClient

end RankLedger
