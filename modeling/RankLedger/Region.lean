import RankLedger.Failure
import RankLedger.Text.Basic

set_option autoImplicit false

/-! # Regions

The regional game servers. A region is named in requests, settings, addresses of the feed and
namespaces of the response cache; people may write its name in either case and with blanks around
it. -/

namespace RankLedger

/-- A regional game server. -/
inductive Region where
  | jp | en | tw | kr | cn
  deriving DecidableEq, Repr, Inhabited

namespace Region

/-- All regions in their order. -/
def all : List Region := [.jp, .en, .tw, .kr, .cn]

/-- The name of a region. -/
def name : Region → String
  | .jp => "jp"
  | .en => "en"
  | .tw => "tw"
  | .kr => "kr"
  | .cn => "cn"

/-- The end of the names of settings that belong to one region. -/
def suffix : Region → String
  | .jp => "JP"
  | .en => "EN"
  | .tw => "TW"
  | .kr => "KR"
  | .cn => "CN"

/-- The position in the order. -/
def index : Region → Nat
  | .jp => 0
  | .en => 1
  | .tw => 2
  | .kr => 3
  | .cn => 4

/-- The region with exactly this name. -/
def ofName? (s : String) : Option Region := all.find? (·.name = s)

/-- The region that a person names. -/
def parse (s : String) : Except Failure Region :=
  match all.find? fun r => Text.sameLetters r.name (Text.trim s) with
  | some r => .ok r
  | none => .error ⟨.unknownServer, Text.trim s⟩

theorem mem_all (r : Region) : r ∈ all := by cases r <;> decide

theorem ofName?_name (r : Region) : ofName? r.name = some r := by cases r <;> decide

theorem name_inj {r r' : Region} (h : r.name = r'.name) : r = r' := by
  have hname := congrArg ofName? h
  rw [ofName?_name, ofName?_name] at hname
  exact Option.some.inj hname

/-- Sort regions by their order, each once. -/
def sorted (rs : List Region) : List Region := all.filter rs.contains

end Region

end RankLedger
