import RankLedger.Store.Basic
import RankLedger.Text.Basic
import RankLedger.Text.Bytes
import RankLedger.Text.Utf8

set_option autoImplicit false

/-! # Names of database files

A database names its file plainly, or by `file:` with a path, percent escapes and parameters of its
own. Before a file is opened the steps `.` and `..` of its path are taken, without a look at what is
there. -/

namespace RankLedger

/-- What may be done with a file that is opened. -/
inductive Access where
  | read
  /-- Read and write what is there. -/
  | write
  /-- Read and write, and make what is not there. -/
  | create
  deriving DecidableEq, Repr, Inhabited

/-- How a database is about to be opened. -/
structure Opening where
  path : Bytes
  /-- None for a database that was only in memory so far. -/
  access : Option Access := some .create
  inMemory : Bool := false
  /-- The layer that carries files; the usual one unless another is named. -/
  layer : Option Bytes := none
  deriving DecidableEq, Repr, Inhabited

namespace FileName

/-- The database does not take a name. -/
def refuse (code : Nat) (text : String) (b : Bytes) : Failure :=
  Store.databaseFailure code (text ++ Utf8.mended b)

/-! ## Cutting names -/

/-- The bytes before the first of a kind, and those after it if there is one. -/
def cut (mark : Char) (b : Bytes) : Bytes × Option Bytes :=
  let front := b.takeWhile (·.toNat ≠ mark.toNat)
  (front, (b.drop front.length).tail?)

/-- The pieces between all bytes of a kind. -/
def pieces (mark : Char) : Bytes → List Bytes
  | [] => [[]]
  | x :: rest =>
      if x.toNat = mark.toNat then [] :: pieces mark rest
      else
        match pieces mark rest with
        | [] => [[x]]
        | p :: ps => (x :: p) :: ps

/-- Take the escapes out of a part of a name, which a zero ends. -/
def decode (b : Bytes) : Bytes := (Bytes.percentDecode b).takeWhile (· ≠ 0)

/-- The parameters of a name; those without a name do not count. -/
def parameters (b : Bytes) : List (Bytes × Bytes) :=
  ((pieces '&' b).map fun piece =>
    let (name, value) := cut '=' piece
    (decode name, decode (value.getD []))).filter fun p => !p.1.isEmpty

/-- Cut the authority off, which may only be this machine. -/
def dropAuthority (b : Bytes) : Except Failure Bytes :=
  match b with
  | 47 :: 47 :: rest =>
      let authority := rest.takeWhile (· ≠ 47)
      if authority.isEmpty || authority = Bytes.ofText "localhost" then
        .ok (rest.drop authority.length)
      else .error (refuse 1 "invalid uri authority: " authority)
  | _ => .ok b

/-! ## Parameters -/

/-- How much an access allows; a parameter cannot ask for more than was allowed before. -/
def strength : Option Access → Nat
  | none => 0
  | some .read => 1
  | some .write => 2
  | some .create => 6

/-- The access of a name; memory asks for none. -/
def accessOf? (value : Bytes) : Option (Option Access) :=
  if value = Bytes.ofText "ro" then some (some .read)
  else if value = Bytes.ofText "rw" then some (some .write)
  else if value = Bytes.ofText "rwc" then some (some .create)
  else if value = Bytes.ofText "memory" then some none
  else none

/-- Take in a parameter. -/
def apply (o : Opening) (p : Bytes × Bytes) : Except Failure Opening :=
  if p.1 = Bytes.ofText "vfs" then .ok { o with layer := some p.2 }
  else if p.1 = Bytes.ofText "cache" then
    if p.2 = Bytes.ofText "shared" || p.2 = Bytes.ofText "private" then .ok o
    else .error (refuse 1 "no such cache mode: " p.2)
  else if p.1 = Bytes.ofText "mode" then
    match accessOf? p.2 with
    | none => .error (refuse 1 "no such access mode: " p.2)
    | some access =>
        if strength access ≤ strength o.access || o.inMemory then
          .ok { o with access := access, inMemory := access.isNone }
        else .error (refuse 3 "access mode not allowed: " p.2)
  else .ok o

/-- The word that a name with parameters begins with. -/
def word : Bytes := Bytes.ofText "file:"

/-- Take in a name, which says more when it begins with the word. -/
def read (o : Opening) : Except Failure Opening :=
  if word.isPrefixOf o.path then do
    let rest ← dropAuthority (o.path.drop word.length)
    let (path, query) := cut '?' (cut '#' rest).1
    ((query.map parameters).getD []).foldlM apply { o with path := decode path }
  else .ok o

/-! ## Paths -/

/-- Take the steps of a path; the pieces so far come last first. Steps up out of a path without a
root are kept. -/
def walk (hasRoot : Bool) : List String → List String → List String
  | done, [] => done.reverse
  | done, piece :: rest =>
      if piece = "" || piece = "." then walk hasRoot done rest
      else if piece = ".." then
        match done with
        | [] => walk hasRoot (if hasRoot then [] else [".."]) rest
        | last :: more => walk hasRoot (if last = ".." then ".." :: done else more) rest
      else walk hasRoot (piece :: done) rest

/-- A path with its steps taken. -/
def cleanPath (path : String) : String :=
  let hasRoot := path.toList.head? = some '/'
  (if hasRoot then "/" else "") ++ "/".intercalate (walk hasRoot [] (Text.splitAt '/' path))

/-- The directory that a path with its steps taken is in; nothing for the place itself. -/
def parent (path : String) : String :=
  let pieces := Text.splitAt '/' path
  if pieces.length = 2 && path.toList.head? = some '/' then "/" else "/".intercalate pieces.dropLast

end FileName

end RankLedger
