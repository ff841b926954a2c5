import RankLedger.Tracking.Daemon

set_option autoImplicit false

/-! # Fleets

The posts of all regions: a daemon and a store each, and one cache of answers for all. A tick runs a
cycle at every post; a region whose last cycle still runs is left out. -/

namespace RankLedger

/-- The post of a region. -/
structure Post where
  daemon : Daemon
  store : Store
  /-- Whether requests about the region are answered. -/
  isServed : Bool
  deriving Inhabited

/-- The posts of all regions. -/
structure Fleet where
  posts : Keyed Region Post := []
  cache : ResponseCache Json.Value
  deriving Inhabited

namespace Fleet

/-- A fleet without posts. -/
def empty (lifetime : Nat) : Fleet := { cache := .empty lifetime }

/-- The regions with a post, in their order. -/
def regions (f : Fleet) : List Region := Region.sorted f.posts.keys

/-- The post of a region. -/
def post? (f : Fleet) (region : Region) : Option Post := f.posts.get? region

/-- Replace the post of a region. -/
def putPost (f : Fleet) (region : Region) (p : Post) : Fleet :=
  { f with posts := f.posts.put region p }

/-- Set up a post in a region that has none. -/
def register (f : Fleet) (region : Region) (store : Store) (isServed : Bool) :
    Except Failure Fleet :=
  if f.posts.has region then
    .error ⟨.configuration, "server " ++ region.name ++ " registered twice"⟩
  else .ok (f.putPost region ⟨.idle region, store, isServed⟩)

/-- The served region that a person names, and its post. -/
def served (f : Fleet) (name : String) : Except Failure (Region × Post) := do
  let region ← Region.parse name
  match (f.post? region).filter (·.isServed) with
  | some p => .ok (region, p)
  | none => .error ⟨.unknownServer, region.name ++ " is not enabled"⟩

/-! ## Ticks -/

/-- What surrounds a tick. -/
structure World where
  files : Region → CalendarFiles
  feed : Feed
  /-- The regions whose last cycle still runs. -/
  held : List Region
  now : Int

/-- How a tick went. -/
structure Tick where
  outcomes : List (Region × CycleOutcome) := []
  /-- The looks taken at the feed. -/
  fetches : List Fetch := []
  fleet : Fleet

/-- Run the cycle of one region. -/
def cycle (f : Fleet) (w : World) (region : Region) : Tick :=
  match f.post? region with
  | none => { fleet := f }
  | some p =>
      if w.held.contains region then { outcomes := [(region, .busy)], fleet := f }
      else
        let c := p.daemon.runCycle (w.files region) w.feed ⟨p.store, f.cache⟩ w.now
        { outcomes := [(region, c.outcome)]
          fetches := c.fetches
          fleet := { f.putPost region { p with daemon := c.daemon, store := c.sink.store } with
            cache := c.sink.cache } }

/-- Run the cycle of one more region. -/
def Tick.andThen (w : World) (t : Tick) (region : Region) : Tick :=
  let c := t.fleet.cycle w region
  ⟨t.outcomes ++ c.outcomes, t.fetches ++ c.fetches, c.fleet⟩

/-- Run the cycles of regions in an order. -/
def tickIn (f : Fleet) (w : World) (order : List Region) : Tick :=
  order.foldl (Tick.andThen w) { fleet := f }

/-- Run a cycle in every region. -/
def tick (f : Fleet) (w : World) : Tick := f.tickIn w f.regions

end Fleet

end RankLedger
