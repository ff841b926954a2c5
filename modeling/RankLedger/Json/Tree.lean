import RankLedger.Json.Token

set_option autoImplicit false

/-! # JSON trees

The nesting of a JSON text. Building it needs no recursion: the containers part way through wait in
a list, and one token is taken at a time, so any depth of nesting is read. -/

namespace RankLedger.Json

/-- A JSON text with its strings and numbers as they are written. -/
inductive Tree where
  | null
  | bool (b : Bool)
  | number (l : Literal)
  | text (raw : Bytes)
  | array (items : List Tree)
  | object (members : List (Bytes × Tree))
  deriving Repr, Inhabited

namespace Tree

/-- A container part way through; items and members are kept last first. -/
inductive Frame where
  | array (items : List Tree)
  | object (members : List (Bytes × Tree)) (key : Bytes)
  deriving Repr, Inhabited

/-- What may come next. -/
inductive Expect where
  /-- A value. -/
  | value
  /-- The first item of an array, or its end. -/
  | firstItem
  /-- The first key of an object, or its end; the object has no members yet. -/
  | firstKey
  /-- A key after a comma, with the members so far. -/
  | key (members : List (Bytes × Tree))
  /-- The colon after a key. -/
  | colon (members : List (Bytes × Tree)) (key : Bytes)
  /-- Whatever follows a finished value. -/
  | after (t : Tree)
  deriving Repr, Inhabited

/-- What comes next and the open containers, innermost first. -/
structure Build where
  expect : Expect
  frames : List Frame
  deriving Repr, Inhabited

/-- A token where a value may start. -/
def value? (frames : List Frame) : Token → Option Build
  | .null => some ⟨.after .null, frames⟩
  | .bool b => some ⟨.after (.bool b), frames⟩
  | .number l => some ⟨.after (.number l), frames⟩
  | .text raw => some ⟨.after (.text raw), frames⟩
  | .openArray => some ⟨.firstItem, frames⟩
  | .openObject => some ⟨.firstKey, frames⟩
  | _ => none

/-- A token after the finished value `t`. -/
def after? (t : Tree) : List Frame → Token → Option Build
  | .array items :: frames, .comma => some ⟨.value, .array (t :: items) :: frames⟩
  | .array items :: frames, .closeArray => some ⟨.after (.array (t :: items).reverse), frames⟩
  | .object members key :: frames, .comma => some ⟨.key ((key, t) :: members), frames⟩
  | .object members key :: frames, .closeObject =>
      some ⟨.after (.object ((key, t) :: members).reverse), frames⟩
  | _, _ => none

/-- Take one token. -/
def step? (s : Build) (t : Token) : Option Build :=
  match s.expect with
  | .value => value? s.frames t
  | .firstItem =>
      if t = .closeArray then some ⟨.after (.array []), s.frames⟩
      else value? (.array [] :: s.frames) t
  | .firstKey =>
      match t with
      | .closeObject => some ⟨.after (.object []), s.frames⟩
      | .text raw => some ⟨.colon [] raw, s.frames⟩
      | _ => none
  | .key members =>
      match t with
      | .text raw => some ⟨.colon members raw, s.frames⟩
      | _ => none
  | .colon members key =>
      if t = .colon then some ⟨.value, .object members key :: s.frames⟩ else none
  | .after u => after? u s.frames t

/-- The tree of tokens that form one whole value. -/
def ofTokens? (ts : List Token) : Option Tree :=
  match ts.foldlM step? ⟨.value, []⟩ with
  | some ⟨.after t, []⟩ => some t
  | _ => none

/-- The tree of a JSON text; nothing but blanks may stand around the value. -/
def ofBytes? (b : Bytes) : Option Tree := (Token.scan? b).bind ofTokens?

end Tree

end RankLedger.Json
