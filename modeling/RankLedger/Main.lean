import RankLedger.Launch
import RankLedger.Settings.File
import RankLedger.Time
import Std.Time.DateTime.Timestamp

set_option autoImplicit false

/-! # The program

Launches from the settings around it and in the file `.env`, reports a launch that fails, and then
ticks at the interval of the settings. Requests to the feed are not carried over a network here, so
every look at the feed goes unanswered. -/

namespace RankLedger.Main

/-- The content of a file, if it can be read. -/
def content? (path : String) : IO (Option Bytes) := do
  try
    return some (← IO.FS.readBinFile path).toList
  catch _ => return none

/-- How a file is opened. -/
def fileMode : Access → IO.FS.Mode
  | .read => .read
  | .write => .readWrite
  | .create => .append

/-- Whether a file can be opened. -/
def canOpen (path : String) (access : Access) : IO Bool := do
  try
    let _ ← IO.FS.Handle.mk path (fileMode access)
    return true
  catch _ => return false

/-- The settings around the program, as far as they or the text of a file name them. -/
def surroundings (content : Option String) : IO Settings.Lookup := do
  let mentioned := Settings.File.mentioned (content.getD "").toList
  let found ← (Settings.names ++ mentioned).mapM fun name => return (name, ← IO.getEnv name)
  return fun name => (found.lookup name).join

/-- The calendars of a region. -/
def calendars (s : RegionSettings) : IO (Region × CalendarFiles) := do
  let events ← content? (s.calendarDirectory ++ "/events.json")
  let chapters ← content? (s.calendarDirectory ++ "/worldBlooms.json")
  return (s.region, ⟨events, chapters⟩)

/-- The present time. -/
def present : IO Instant := do
  let t ← Std.Time.Timestamp.now
  let nanos := t.toNanosecondsSinceUnixEpoch.val
  return ⟨nanos / 1000000000, (nanos % 1000000000).toNat⟩

/-- Tick for ever. -/
partial def run (l : Launch) : IO Unit := do
  let files ← l.settings.regions.mapM calendars
  let now ← present
  let tick := l.fleet.tick {
    files := fun r => (files.lookup r).getD {}
    feed := fun f => l.client.look f fun _ _ => none
    held := []
    now := now.millis }
  IO.sleep (UInt32.ofNat (min (l.settings.tickInterval * 1000) (2 ^ 32 - 1)))
  run { l with fleet := tick.fleet }

end RankLedger.Main

open RankLedger in
/-- Launch and run; `1` when the launch fails. -/
def main : IO UInt32 := do
  let content := (← Main.content? ".env").bind Bytes.text?
  let lookup := Settings.File.lookup (← Main.surroundings content) content
  match ← Launch.start Main.canOpen lookup with
  | .ok l => Main.run l; return 0
  | .error f => (← IO.getStderr).putStr f.report; return 1
