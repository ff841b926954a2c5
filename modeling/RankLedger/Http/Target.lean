import RankLedger.Text.Basic

set_option autoImplicit false

/-! # Request targets

What may stand between the method and the version of a request, and the path in it: a path that
starts with a slash, a whole address with scheme and authority, an authority alone, or a star. Only
the path is of interest. -/

namespace RankLedger.Target

/-- How many bytes a target may have. -/
def lengthLimit : Nat := 65534

/-- How many characters a scheme may have. -/
def schemeLimit : Nat := 64

/-- How many colons may follow one another's pieces in an authority. -/
def colonLimit : Nat := 8

/-! ## Path and query -/

/-- The characters of paths, by code point: all but blanks and controls of ASCII, `#`, `<`, `>`, `?`
and the back quote. -/
def isPathChar : Char → Bool :=
  Text.inRanges
    [(0x21, 0x22), (0x24, 0x3B), (0x3D, 0x3D), (0x40, 0x5F), (0x61, 0x7E), (0x80, 0x10FFFF)]

/-- The characters of queries, by code point: all but blanks and controls of ASCII, the double
quote, `#`, `<` and `>`. -/
def isQueryChar : Char → Bool :=
  Text.inRanges [(0x21, 0x21), (0x24, 0x3B), (0x3D, 0x3D), (0x3F, 0x7E), (0x80, 0x10FFFF)]

/-- The path of a target without scheme and authority; what follows a `#` does not count. -/
def originPath? (cs : List Char) : Option (List Char) :=
  let cs := cs.takeWhile (· ≠ '#')
  let path := cs.takeWhile (· ≠ '?')
  let query := (cs.drop path.length).drop 1
  if path.all isPathChar && query.all isQueryChar then some path else none

/-! ## Scheme and authority -/

/-- The characters of schemes. -/
def isSchemeChar (c : Char) : Bool := c.isAlphanum || "+-.~".toList.contains c

/-- What a target says about its scheme. -/
inductive Scheme where
  /-- It has none. -/
  | absent
  /-- It has one, and this follows. -/
  | before (rest : List Char)
  /-- It has one that is too long. -/
  | tooLong
  deriving DecidableEq, Repr

/-- Read the scheme of a target. -/
def scheme (cs : List Char) : Scheme :=
  let name := cs.takeWhile isSchemeChar
  match cs.drop name.length with
  | ':' :: '/' :: '/' :: rest => if name.length > schemeLimit then .tooLong else .before rest
  | _ => .absent

/-- The characters of authorities that need no further care. -/
def isPlainAuthorityChar (c : Char) : Bool :=
  c.isAlphanum || "!$&'()*+,-.;=_~".toList.contains c

/-- What has been seen of an authority. -/
structure AuthorityScan where
  colons : Nat := 0
  opened : Bool := false
  closed : Bool := false
  percent : Bool := false
  /-- The last character was an `@`. -/
  bare : Bool := false
  deriving DecidableEq, Repr

/-- Take in one more character of an authority. A closing bracket or an `@` settles what came
before. -/
def AuthorityScan.step (s : AuthorityScan) (c : Char) : Option AuthorityScan :=
  let s := { s with bare := false }
  if c = ':' then if s.colons ≥ colonLimit then none else some { s with colons := s.colons + 1 }
  else if c = '[' then if s.percent || s.opened then none else some { s with opened := true }
  else if c = ']' then
    if !s.opened || s.closed then none
    else some { s with closed := true, colons := 0, percent := false }
  else if c = '@' then some { s with colons := 0, percent := false, bare := true }
  else if c = '%' then some { s with percent := true }
  else if isPlainAuthorityChar c then some s
  else none

/-- Whether the authority may end here. -/
def AuthorityScan.isComplete (s : AuthorityScan) : Bool :=
  s.opened == s.closed && s.colons ≤ 1 && !s.bare && !s.percent

/-- Cut a text after its authority, which must be well written. -/
def authority? (cs : List Char) : Option (List Char × List Char) :=
  let authority := cs.takeWhile fun c => c ≠ '/' && c ≠ '?' && c ≠ '#'
  match authority.foldlM AuthorityScan.step {} with
  | some s => if s.isComplete then some (authority, cs.drop authority.length) else none
  | none => none

/-! ## Targets -/

/-- The path of a whole address; it is never empty. -/
def absolutePath? (cs : List Char) : Option (List Char) := do
  let (authority, rest) ← authority? cs
  if authority.isEmpty then none
  else
    let path ← originPath? rest
    some (if path.isEmpty then ['/'] else path)

/-- The path of a target, if that is well written. -/
def path? (target : String) : Option String :=
  if target.utf8ByteSize > lengthLimit then none
  else
    (match target.toList with
      | [] => none
      | ['*'] => some ['*']
      | '/' :: cs => originPath? ('/' :: cs)
      | cs =>
          match scheme cs with
          | .before rest => absolutePath? rest
          | .tooLong => none
          | .absent =>
              match authority? cs with
              | some (_, []) => some []
              | _ => none).map String.ofList

end RankLedger.Target
