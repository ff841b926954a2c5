import RankLedger.Json.Value
import RankLedger.Binary64.Shortest

set_option autoImplicit false

/-! # Writing JSON

Without blanks, members in their order. A quote, a backslash and the control characters are escaped,
the five with short escapes by those. -/

namespace RankLedger.Json

/-- A character inside a string. -/
def escapeChar (c : Char) : List Char :=
  if c = '"' then ['\\', '"']
  else if c = '\\' then ['\\', '\\']
  else if c = '\n' then ['\\', 'n']
  else if c = '\r' then ['\\', 'r']
  else if c = '\t' then ['\\', 't']
  else if c.toNat = 8 then ['\\', 'b']
  else if c.toNat = 12 then ['\\', 'f']
  else if c.toNat < 32 then
    ['\\', 'u', '0', '0', Text.hexDigit (c.toNat / 16), Text.hexDigit (c.toNat % 16)]
  else [c]

/-- A quoted text. -/
def quote (s : String) : String := "\"" ++ String.ofList (s.toList.flatMap escapeChar) ++ "\""

mutual

/-- The text of a value. -/
def Value.render : Value → String
  | .null => "null"
  | .bool b => if b then "true" else "false"
  | .int n => toString n
  | .double x => x.render
  | .text s => quote s
  | .array items => "[" ++ ",".intercalate (Value.renderItems items) ++ "]"
  | .object members => "\x7b" ++ ",".intercalate (Value.renderMembers members) ++ "\x7d"

/-- The texts of items. -/
def Value.renderItems : List Value → List String
  | [] => []
  | v :: vs => v.render :: Value.renderItems vs

/-- The texts of members. -/
def Value.renderMembers : List (String × Value) → List String
  | [] => []
  | (key, v) :: ms => (quote key ++ ":" ++ v.render) :: Value.renderMembers ms

end

end RankLedger.Json
