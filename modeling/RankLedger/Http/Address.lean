import RankLedger.Text.Basic
import RankLedger.Text.Bytes

set_option autoImplicit false

/-! # Web addresses

An address as people write it is put in order before it is used: blanks that are no part of it go,
the steps `.` and `..` of the path are taken, and characters that may not stand as they are become
percent escapes. Hosts are numbers or names of ASCII characters; whoever is named before a host with
an `@` is left out. -/

namespace RankLedger

/-- A web address: scheme and host in small letters, then path, query and fragment in order. -/
structure Address where
  scheme : String
  host : String
  /-- The number of the service, unless it is the one that the scheme stands for. -/
  service : Option Nat := none
  path : String
  query : Option String := none
  fragment : Option String := none
  deriving DecidableEq, Repr, Inhabited

namespace Address

/-! ## Escapes -/

/-- A byte as an escape. -/
def escapeByte (b : UInt8) : List Char :=
  ['%', (Text.hexDigit (b.toNat / 16)).toUpper, (Text.hexDigit (b.toNat % 16)).toUpper]

/-- Escape control characters, characters beyond ASCII and some more. -/
def escape (more : String) (s : String) : String :=
  String.ofList (s.toList.flatMap fun c =>
    if c.toNat < 0x20 || 0x7F ≤ c.toNat || more.toList.contains c then
      (Bytes.ofText (String.singleton c)).flatMap escapeByte
    else [c])

/-- Escape what may not stand in a path. -/
def escapePath : String → String := escape " \"#<>?\x60\x7b\x7d"

/-- Escape what may not stand in a query. -/
def escapeQuery : String → String := escape " \"#<>'"

/-- Escape what may not stand in a fragment. -/
def escapeFragment : String → String := escape " \"<>\x60"

/-! ## Paths -/

/-- Whether a piece of a path means the place itself. -/
def isHere (piece : String) : Bool := piece = "." || Text.lowerAscii piece = "%2e"

/-- Whether a piece of a path means one step up. -/
def isUp (piece : String) : Bool :=
  ["..", ".%2e", "%2e.", "%2e%2e"].contains (Text.lowerAscii piece)

/-- Whether a piece of a path names a drive: a letter and a colon or a bar. -/
def isDrive (piece : String) : Bool :=
  match piece.toList with
  | [letter, mark] => letter.isAlpha && (mark = ':' || mark = '|')
  | _ => false

/-- Take a step up; no step leads out of a drive. -/
def stepUp : List String → List String
  | [] => []
  | piece :: done => if isDrive piece then piece :: done else done

/-- Take the steps of a path; the pieces so far come last first. -/
def walk : List String → List String → List String
  | done, [] => done.reverse
  | done, piece :: pieces =>
      let done := if isUp piece then stepUp done else if isHere piece then done else piece :: done
      match pieces with
      | [] => (if isUp piece || isHere piece then "" :: done else done).reverse
      | _ => walk done pieces

/-- A path in order. -/
def cleanPath (path : String) : String :=
  let slashed := path.toList.map fun c => if c = '\\' then '/' else c
  let pieces := Text.splitAt '/' (String.ofList slashed)
  "/" ++ "/".intercalate (walk [] (pieces.drop 1 |>.map escapePath))

/-! ## Hosts -/

/-- The schemes that are known, and the services they stand for. -/
def schemes : List (String × Nat) := [("http", 80), ("https", 443)]

/-- Whether a character ends the part of an address that names the host. -/
def endsAuthority (c : Char) : Bool := ['/', '\\', '?', '#'].contains c

/-- The text after the last `@`, or all of it. -/
def afterUser (cs : List Char) : List Char := (cs.reverse.takeWhile (· ≠ '@')).reverse

/-- Whether a character may stand in a host. -/
def isHostChar (c : Char) : Bool :=
  0x20 < c.toNat && c.toNat < 0x7F && !"#%/:<>?@[\\]^|".toList.contains c

/-- Read a host, and cut the text after it. -/
def takeHost? (cs : List Char) : Option (String × List Char) :=
  match cs with
  | '[' :: rest =>
      let groups := rest.takeWhile (· ≠ ']')
      match rest.drop groups.length with
      | ']' :: rest => some (Text.lowerAscii (String.ofList ('[' :: groups ++ [']'])), rest)
      | _ => none
  | _ =>
      let name := cs.takeWhile (· ≠ ':')
      if !name.isEmpty && name.all isHostChar then
        some (Text.lowerAscii (String.ofList name), cs.drop name.length)
      else none

/-- Read the number of a service after its colon; it may be missing, with or without the colon. -/
def readService? : List Char → Option (Option Nat)
  | [] | [':'] => some none
  | ':' :: digits => ((Text.digits? digits).filter (· < 65536)).map some
  | _ => none

/-! ## Reading and showing -/

/-- Cut a text after its scheme and the slashes behind that. -/
def takeScheme? (cs : List Char) : Option (String × List Char) :=
  let name := cs.takeWhile fun c => c.isAlphanum || "+-.".toList.contains c
  match cs.drop name.length with
  | ':' :: rest =>
      some (Text.lowerAscii (String.ofList name), rest.dropWhile fun c => c = '/' || c = '\\')
  | _ => none

/-- Drop blanks and controls at the ends, and line ends and tabs everywhere. -/
def dropBlanks (cs : List Char) : List Char :=
  let isBlank := fun (c : Char) => decide (c.toNat ≤ 0x20)
  ((cs.dropWhile isBlank).reverse.dropWhile isBlank).reverse.filter (· ∉ ['\t', '\n', '\r'])

/-- Put what follows the host in order. -/
def withRest (a : Address) (rest : String) : Address :=
  let (front, fragment) :=
    match Text.cutAt? '#' rest with
    | some (front, fragment) => (front, some (escapeFragment fragment))
    | none => (rest, none)
  match Text.cutAt? '?' front with
  | some (path, query) =>
      { a with path := cleanPath path, query := some (escapeQuery query), fragment := fragment }
  | none => { a with path := cleanPath front, fragment := fragment }

/-- The address that a text names, if it names one. -/
def ofText? (s : String) : Option Address := do
  let (scheme, rest) ← takeScheme? (dropBlanks s.toList)
  let standard ← schemes.lookup scheme
  let authority := rest.takeWhile (!endsAuthority ·)
  let (host, mark) ← takeHost? (afterUser authority)
  let service ← readService? mark
  some (withRest
    { scheme := scheme, host := host, service := service.filter (· ≠ standard), path := "/" }
    (String.ofList (rest.drop authority.length)))

/-- The host and the number of the service, as far as it is given. -/
def authority (a : Address) : String :=
  a.host ++ (match a.service with | some n => ":" ++ toString n | none => "")

/-- What a request for the address asks for. -/
def target (a : Address) : String :=
  a.path ++ (match a.query with | some q => "?" ++ q | none => "")

/-- The address without its fragment. -/
def bare (a : Address) : Address := { a with fragment := none }

/-- The whole address. -/
def render (a : Address) : String :=
  a.scheme ++ "://" ++ a.authority ++ a.target
    ++ (match a.fragment with | some f => "#" ++ f | none => "")

@[simp] theorem target_bare (a : Address) : a.bare.target = a.target := rfl

end Address

end RankLedger
