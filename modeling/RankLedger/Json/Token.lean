import RankLedger.Json.Number

set_option autoImplicit false

/-! # JSON tokens

Cutting bytes into tokens, one byte at a time. A string token keeps the bytes between its quotes as
they stand: control characters and unknown escapes are refused here, while surrogates and the UTF-8
form matter only to a reader that wants the text (`Json.textOfRaw?`). -/

namespace RankLedger.Json

/-- A token; `text` holds the bytes between the quotes. -/
inductive Token where
  | openArray | closeArray | openObject | closeObject | comma | colon
  | null
  | bool (b : Bool)
  | number (l : Literal)
  | text (raw : Bytes)
  deriving DecidableEq, Repr, Inhabited

namespace Token

/-- Where the cutting stands: between tokens, in a bare word or number, or in a string. Bytes of an
unfinished token are kept last first. -/
inductive Mode where
  | between
  | bare (run : Bytes)
  | text (run : Bytes)
  | escape (run : Bytes)
  | hex (left : Nat) (run : Bytes)
  deriving DecidableEq, Repr, Inhabited

/-- The tokens so far, last first, and the mode. -/
structure Cut where
  done : List Token
  mode : Mode
  deriving DecidableEq, Repr, Inhabited

/-- The character of an ASCII byte. -/
def ascii (x : UInt8) : Char := Char.ofNat x.toNat

/-- Whether a byte can stand in a bare word or a number. -/
def isBare (x : UInt8) : Bool :=
  let c := ascii x
  c.isAlphanum || c == '+' || c == '-' || c == '.'

/-- The token of a bare run. -/
def ofBare? (run : Bytes) : Option Token :=
  let cs := run.reverse.map ascii
  if cs = ['n', 'u', 'l', 'l'] then some .null
  else if cs = ['t', 'r', 'u', 'e'] then some (.bool true)
  else if cs = ['f', 'a', 'l', 's', 'e'] then some (.bool false)
  else (Literal.ofChars? cs).map .number

/-- One byte outside every token. -/
def between? (done : List Token) (x : UInt8) : Option Cut :=
  let c := ascii x
  if c = ' ' ∨ c = '\t' ∨ c = '\n' ∨ c = '\r' then some ⟨done, .between⟩
  else if c = '[' then some ⟨.openArray :: done, .between⟩
  else if c = ']' then some ⟨.closeArray :: done, .between⟩
  else if c = '\x7b' then some ⟨.openObject :: done, .between⟩
  else if c = '\x7d' then some ⟨.closeObject :: done, .between⟩
  else if c = ',' then some ⟨.comma :: done, .between⟩
  else if c = ':' then some ⟨.colon :: done, .between⟩
  else if c = '"' then some ⟨done, .text []⟩
  else if isBare x then some ⟨done, .bare [x]⟩
  else none

/-- Whether a byte may follow a backslash, `u` apart. -/
def isShortEscape (x : UInt8) : Bool :=
  ['"', '\\', '/', 'b', 'f', 'n', 'r', 't'].contains (ascii x)

/-- Take one byte. -/
def step? (s : Cut) (x : UInt8) : Option Cut :=
  match s.mode with
  | .between => between? s.done x
  | .bare run =>
      if isBare x then some ⟨s.done, .bare (x :: run)⟩
      else (ofBare? run).bind fun t => between? (t :: s.done) x
  | .text run =>
      if ascii x = '"' then some ⟨.text run.reverse :: s.done, .between⟩
      else if ascii x = '\\' then some ⟨s.done, .escape (x :: run)⟩
      else if x < 32 then none
      else some ⟨s.done, .text (x :: run)⟩
  | .escape run =>
      if ascii x = 'u' then some ⟨s.done, .hex 4 (x :: run)⟩
      else if isShortEscape x then some ⟨s.done, .text (x :: run)⟩
      else none
  | .hex left run =>
      if (Bytes.hexByte? x).isNone then none
      else if left ≤ 1 then some ⟨s.done, .text (x :: run)⟩
      else some ⟨s.done, .hex (left - 1) (x :: run)⟩

/-- The tokens at the end of the bytes. -/
def finish? (s : Cut) : Option (List Token) :=
  match s.mode with
  | .between => some s.done.reverse
  | .bare run => (ofBare? run).map fun t => (t :: s.done).reverse
  | _ => none

/-- Cut bytes into tokens. -/
def scan? (b : Bytes) : Option (List Token) :=
  (b.foldlM step? ⟨[], .between⟩).bind finish?

end Token

end RankLedger.Json
