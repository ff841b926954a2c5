import RankLedger.FeedClient
import RankLedger.Fleet
import RankLedger.Settings
import RankLedger.Store.Location

set_option autoImplicit false

/-! # Launching

From settings to a fleet that is ready: read the settings, make the client of the feed, and open the
store of each region in the order of the settings. The first step that fails ends the launch. -/

namespace RankLedger

/-- What is ready to run. -/
structure Launch where
  settings : Settings
  client : FeedClient
  fleet : Fleet
  deriving Inhabited

/-- The step that failed, if it has a name, and why. -/
structure LaunchFailure where
  step : Option String
  cause : Failure
  deriving DecidableEq, Repr, Inhabited

namespace LaunchFailure

/-- How a failure is reported: the step, then the cause, every line of it set in; or the cause
alone, as it is. -/
def report (f : LaunchFailure) : String :=
  match f.step with
  | some step =>
      "Error: " ++ step ++ "\n\nCaused by:\n"
        ++ String.join ((Text.splitAt '\n' f.cause.message).map fun l => "    " ++ l ++ "\n")
  | none => "Error: " ++ f.cause.message ++ "\n"

end LaunchFailure

namespace Launch

/-- Say in which step something fails, if the step has a name. -/
def during {α : Type} (step : Option String) : Except Failure α → Except LaunchFailure α
  | .ok a => .ok a
  | .error f => .error ⟨step, f⟩

/-- Read the settings and make the client. -/
def prepare (lookup : Settings.Lookup) : Except LaunchFailure Launch := do
  let settings ← during (some "loading configuration") (Settings.ofLookup lookup)
  let client ← during (some "building upstream client")
    (FeedClient.create settings.endpoint settings.token)
  .ok ⟨settings, client, .empty settings.cacheLifetime⟩

/-- Set up the post of a region whose store was opened. -/
def addPost (l : Launch) (region : Region) (store : Except Failure Store) :
    Except LaunchFailure Launch := do
  let store ← during (some ("opening store for " ++ region.name)) store
  let fleet ← during none (l.fleet.register region store true)
  .ok { l with fleet := fleet }

/-- Open the stores of regions one after another. -/
def openStores {m : Type → Type} [Monad m] (canOpen : String → Access → m Bool) (l : Launch) :
    List RegionSettings → m (Except LaunchFailure Launch)
  | [] => pure (.ok l)
  | r :: rest => do
      let store ← Location.openStore canOpen r.databaseUrl
      match l.addPost r.region store with
      | .ok l => openStores canOpen l rest
      | .error f => pure (.error f)

/-- Launch; `canOpen` tells whether a file can be opened. -/
def start {m : Type → Type} [Monad m] (canOpen : String → Access → m Bool)
    (lookup : Settings.Lookup) : m (Except LaunchFailure Launch) :=
  match prepare lookup with
  | .ok l => openStores canOpen l l.settings.regions
  | .error f => pure (.error f)

end Launch

end RankLedger
