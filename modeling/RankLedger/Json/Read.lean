import RankLedger.Json.Tree
import RankLedger.Json.Text

set_option autoImplicit false

/-! # Reading records from JSON trees

A reader takes a tree and gives a value or nothing. A record may be written as an object, whose
known keys come at most once while unknown ones are passed over, or as an array with one item per
field in their order. What is passed over is never read further, so its strings and numbers need
only be well written. -/

namespace RankLedger.Json

/-- A reader of values of one type. -/
abbrev Reader (α : Type) : Type := Tree → Option α

namespace Reader

/-- An integer literal in the signed 64-bit range. -/
def int64 : Reader Int
  | .number l => l.integer?.filter (decide <| Word.Fits ·)
  | _ => none

/-- An integer literal from zero to `2 ^ 64 - 1`. -/
def uint64 : Reader Nat
  | .number l => (l.integer?.filter (0 ≤ ·)).map Int.toNat
  | _ => none

/-- A truth value. -/
def bool : Reader Bool
  | .bool b => some b
  | _ => none

/-- A string. -/
def text : Reader String
  | .text raw => textOfRaw? raw
  | _ => none

/-- An array of values. -/
def list {α : Type} (item : Reader α) : Reader (List α)
  | .array ts => ts.mapM item
  | _ => none

/-- `null`, or a value. -/
def nullable {α : Type} (value : Reader α) : Reader (Option α)
  | .null => some none
  | t => (value t).map some

/-- The name of a variant without content: a string, or an object with that one key over `null`. -/
def variant : Reader String
  | .text raw => textOfRaw? raw
  | .object [(key, .null)] => textOfRaw? key
  | _ => none

/-- The trees of the fields of a record, in the order of their names; none where a field is
absent. -/
def fields (names : List String) : Reader (List (Option Tree))
  | .array ts => if ts.length = names.length then some (ts.map some) else none
  | .object members => do
      let members ← members.mapM fun m => (textOfRaw? m.1).map (·, m.2)
      let found := names.map fun name => (members.filter (·.1 = name)).map (·.2)
      if found.all (·.length ≤ 1) then some (found.map List.head?) else none
  | _ => none

/-- A field that may be absent or `null`. -/
def field {α : Type} (value : Reader α) : Option Tree → Option (Option α)
  | none => some none
  | some t => nullable value t

end Reader

end RankLedger.Json
