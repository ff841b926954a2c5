import RankLedger.Store.Basic
import RankLedger.Store.FileName
import RankLedger.Text.Hidden

set_option autoImplicit false

/-! # Where a store is

A database is named by an address: the name of a file, or a place in memory, and parameters that say
how to open it. Whether a file can be opened is for the outside to tell. -/

namespace RankLedger

/-- Where a database is. -/
inductive Location where
  /-- In memory, or in a file that nobody else finds. -/
  | memory
  | file (path : String) (access : Access)
  deriving DecidableEq, Repr, Inhabited

namespace Location

/-! ## Refusals -/

/-- A text in quotes, with escapes for quotes, backslashes and characters that do not show. -/
def quoted (s : String) : String :=
  "\"" ++ String.ofList (s.toList.flatMap fun c =>
    if c = '"' || c = '\\' then ['\\', c]
    else if c = '\n' then ['\\', 'n']
    else if c = '\r' then ['\\', 'r']
    else if c = '\t' then ['\\', 't']
    else if c.toNat = 0 then ['\\', '0']
    else if Text.isHidden c then "\\u\x7b".toList ++ Nat.toDigits 16 c.toNat ++ ['\x7d']
    else [c]) ++ "\""

/-- A wrong address. -/
def badAddress (text : String) : Failure := ⟨.storage, "error with configuration: " ++ text⟩

/-- A parameter with a value that it does not take. -/
def badValue (name value : String) : Failure :=
  badAddress ("unknown value " ++ quoted value ++ " for \x60" ++ name ++ "\x60")

/-- A name with a zero in it. -/
def zeroInName : Failure :=
  ⟨.storage,
    "error communicating with database: filename passed to SQLite must not contain nul bytes"⟩

/-- A file that cannot be opened. -/
def cannotOpen : Failure := Store.databaseFailure 14 "unable to open database file"

/-! ## Addresses -/

/-- What an address says. -/
structure Wanted where
  name : String
  inMemory : Bool := false
  readOnly : Bool := false
  /-- Whether nobody changes the file. -/
  immutable : Bool := false
  /-- The layer that carries files. -/
  layer : Option String := none
  deriving DecidableEq, Repr, Inhabited

/-- The text without any copies of a word at its start. -/
def dropWord (word : List Char) (cs : List Char) : List Char :=
  if _h : word ≠ [] ∧ word.isPrefixOf cs then dropWord word (cs.drop word.length) else cs
termination_by cs.length
decreasing_by
  obtain ⟨hw, hp⟩ := _h
  have hw := List.length_pos_iff.2 hw
  have hp := (List.isPrefixOf_iff_prefix.1 hp).length_le
  simp only [List.length_drop]
  omega

/-- Take in a parameter. -/
def Wanted.apply (w : Wanted) (name value : String) : Except Failure Wanted :=
  match name, value with
  | "mode", "ro" => .ok { w with readOnly := true }
  | "mode", "rw" | "mode", "rwc" => .ok w
  | "mode", "memory" => .ok { w with inMemory := true }
  | "cache", "private" | "cache", "shared" => .ok w
  | "immutable", "true" | "immutable", "1" => .ok { w with immutable := true }
  | "immutable", "false" | "immutable", "0" => .ok { w with immutable := false }
  | "mode", _ | "cache", _ | "immutable", _ => .error (badValue name value)
  | "vfs", _ => .ok { w with layer := some value }
  | _, _ =>
      .error (badAddress
        ("unknown query parameter \x60" ++ name ++ "\x60 while parsing connection URL"))

/-- Take the escapes out of a part of a form; `+` stands for a blank. -/
def decodeForm (s : String) : String :=
  let plain := String.ofList (s.toList.map fun c => if c = '+' then ' ' else c)
  Utf8.mended (Bytes.percentDecode (Bytes.ofText plain))

/-- The names and values of a form. -/
def parameters (s : String) : List (String × String) :=
  ((Text.splitAt '&' s).filter (!·.isEmpty)).map fun part =>
    match Text.cutAt? '=' part with
    | some (name, value) => (decodeForm name, decodeForm value)
    | none => (decodeForm part, "")

/-- What a name says before any parameter is heard. -/
def ofName (name : String) : Except Failure Wanted :=
  if name = ":memory:" then .ok { name := "memory", inMemory := true }
  else
    match Utf8.read (Bytes.percentDecode (Bytes.ofText name)) with
    | .ok name => .ok { name := name }
    | .error flaw => .error (badAddress flaw.message)

/-- What an address says. -/
def ofUrl (url : String) : Except Failure Wanted := do
  let rest := String.ofList (dropWord "sqlite:".toList (dropWord "sqlite://".toList url.toList))
  match Text.cutAt? '?' rest with
  | none => ofName rest
  | some (name, query) =>
      (parameters query).foldlM (fun w p => w.apply p.1 p.2) (← ofName name)

/-! ## Opening -/

/-- How to open what is wanted. A name is taken as it stands when the file is immutable or carried
by a layer of its own; a zero then ends it, and the layer's name has `+` for blanks. -/
def Wanted.opening (w : Wanted) : Except Failure Opening :=
  let access := some (if w.readOnly then Access.read else Access.create)
  let name := Bytes.ofText w.name
  let untilZero := fun (b : Bytes) => b.takeWhile (· ≠ 0)
  if w.immutable || w.layer.isSome then
    .ok { path := untilZero name, access := access, inMemory := w.inMemory
          layer := w.layer.map fun s =>
            untilZero ((Bytes.ofText s).map fun x => if x = 32 then 43 else x) }
  else if name.contains 0 then .error zeroInName
  else FileName.read { path := name, access := access, inMemory := w.inMemory }

/-- The layers that carry files. -/
def layers : List String := ["unix", "unix-none", "unix-dotfile", "unix-excl"]

/-- The layer that carries files in memory. -/
def memoryLayer : String := "memdb"

/-- How many bytes a path may have. -/
def pathLimit : Nat := 504

/-- Where a database is that is about to be opened. -/
def ofOpening (o : Opening) : Except Failure Location :=
  let path := FileName.cleanPath (Utf8.mended o.path)
  let isKnown := o.layer.all fun b => (memoryLayer :: layers).any (Bytes.ofText · = b)
  if !isKnown then .error (FileName.refuse 1 "no such vfs: " (o.layer.getD []))
  else if o.inMemory || o.path.isEmpty || o.path = Bytes.ofText ":memory:"
      || o.layer = some (Bytes.ofText memoryLayer) then .ok .memory
  else if pathLimit < path.utf8ByteSize then .error cannotOpen
  else .ok (.file path (o.access.getD .read))

/-- The place that an address names. -/
def find (url : String) : Except Failure Location := do
  ofOpening (← (← ofUrl url).opening)

/-- Open the store at an address; `canOpen` tells whether a file can be opened. -/
def openStore {m : Type → Type} [Monad m] (canOpen : String → Access → m Bool) (url : String) :
    m (Except Failure Store) := do
  match find url with
  | .error f => pure (.error f)
  | .ok .memory => pure (.ok {})
  | .ok (.file path access) =>
      if ← canOpen path access then pure (.ok {}) else pure (.error cannotOpen)

end Location

end RankLedger
