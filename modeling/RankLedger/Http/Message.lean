import RankLedger.Http.Status
import RankLedger.Text.Basic
import RankLedger.Text.Bytes

set_option autoImplicit false

/-! # Answers on a connection

The bytes that come back on a connection until it closes: heads that only announce an answer, then
the head of the answer, then a body as long as the head says. A head that cannot be understood
spoils the answer; a body that breaks off leaves the status known. -/

namespace RankLedger

/-- An answer: its status, and its body unless that breaks off. -/
structure Message where
  status : Nat
  body : Option Bytes
  deriving DecidableEq, Repr, Inhabited

namespace Message

/-! ## Lines -/

/-- The character of a byte. -/
def latin (x : UInt8) : Char := Char.ofNat x.toNat

/-- The line at the front, without its end, and what follows it. A line feed ends a line, and a
carriage return before that belongs to the end. -/
def takeLine? (b : Bytes) : Option (List Char × Bytes) :=
  let line := b.takeWhile (· ≠ 10)
  match b.drop line.length with
  | _ :: rest =>
      let cs := line.map latin
      some (if cs.getLast? = some '\r' then cs.dropLast else cs, rest)
  | [] => none

theorem length_lt_of_takeLine? {b rest : Bytes} {line : List Char}
    (h : takeLine? b = some (line, rest)) : rest.length < b.length := by
  unfold takeLine? at h
  dsimp only at h
  split at h
  · rename_i x rest' hdrop
    have hlen := congrArg List.length hdrop
    simp only [List.length_drop, List.length_cons] at hlen
    simp only [Option.some.injEq, Prod.mk.injEq] at h
    obtain ⟨-, rfl⟩ := h
    omega
  · simp at h

/-- Whether a character may stand in a phrase or in the value of a header. -/
def isValueChar (c : Char) : Bool := c = '\t' || (0x20 ≤ c.toNat && c.toNat ≠ 0x7F)

/-- Whether a character may stand in the name of a header. -/
def isNameChar (c : Char) : Bool := c.isAlphanum || "!#$%&'*+-.^_\x60|~".toList.contains c

/-! ## Heads -/

/-- The head of an answer. Names of headers are in small letters. -/
structure Head where
  /-- Whether the version is 1.0 rather than 1.1. -/
  isOld : Bool
  status : Nat
  headers : List (String × List Char) := []
  deriving DecidableEq, Repr, Inhabited

/-- Read a version and the blank after it. -/
def takeVersion? : List Char → Option (Bool × List Char)
  | 'H' :: 'T' :: 'T' :: 'P' :: '/' :: '1' :: '.' :: digit :: ' ' :: rest =>
      if digit = '0' then some (true, rest) else if digit = '1' then some (false, rest) else none
  | _ => none

/-- Read the first line of an answer: version, status, and perhaps a phrase. -/
def statusLine? (line : List Char) : Option Head := do
  let (isOld, rest) ← takeVersion? line
  let status ← Text.digits? (rest.take 3)
  let phrase := rest.drop 3
  if (rest.take 3).length = 3 && Status.isWellFormed status
      && (phrase.isEmpty || phrase.head? = some ' ') && phrase.all isValueChar then
    some { isOld := isOld, status := status }
  else none

/-- Read a header. -/
def header? (line : List Char) : Option (String × List Char) :=
  let name := line.takeWhile isNameChar
  match line.drop name.length with
  | ':' :: value =>
      if name.isEmpty || !value.all isValueChar then none
      else some (Text.lowerAscii (String.ofList name), value)
  | _ => none

/-- How many headers an answer may have. -/
def headerLimit : Nat := 100

/-- Take headers up to the empty line, at most so many. -/
def takeHeaders? : Nat → Bytes → Option (List (String × List Char) × Bytes)
  | limit, b =>
      match takeLine? b with
      | some ([], rest) => some ([], rest)
      | some (line, rest) =>
          match limit with
          | 0 => none
          | limit + 1 => do
              let header ← header? line
              let (headers, rest) ← takeHeaders? limit rest
              some (header :: headers, rest)
      | none => none

/-- Take a head; empty lines before it do not count. -/
def takeHead? (b : Bytes) : Option (Head × Bytes) :=
  match h : takeLine? b with
  | some ([], rest) =>
      have := length_lt_of_takeLine? h
      takeHead? rest
  | some (line, rest) => do
      let head ← statusLine? line
      let (headers, rest) ← takeHeaders? headerLimit rest
      some ({ head with headers := headers }, rest)
  | none => none
termination_by b.length

/-- The values of a header, in order. -/
def Head.values (h : Head) (name : String) : List (List Char) :=
  (h.headers.filter (·.1 = name)).map (·.2)

/-! ## Bodies -/

/-- How long a body is. -/
inductive Framing where
  | sized (length : Nat)
  | chunked
  /-- It ends where the connection does. -/
  | rest
  deriving DecidableEq, Repr, Inhabited

/-- The items of a value with commas, without blanks around them; none beyond ASCII. -/
def items? (value : List Char) : Option (List String) :=
  if value.all (·.toNat < 0x80) then
    some ((Text.splitAt ',' (String.ofList value)).map Text.trim)
  else none

/-- Whether the last coding is the chunked one. -/
def isChunked (values : List (List Char)) : Bool :=
  match values.getLast?.bind items? with
  | some items => items.getLast?.any (Text.sameLetters · "chunked")
  | none => false

/-- The greatest length of a body. -/
def greatestLength : Nat := UInt64.size - 3

/-- The length that all values agree on. -/
def lengthOf? (values : List (List Char)) : Option Nat := do
  let items ← values.mapM items?
  let numbers ← items.flatten.mapM fun s => Text.digits? s.toList
  match numbers with
  | n :: more => if more.all (· = n) && n ≤ greatestLength then some n else none
  | [] => none

/-- How long the body after a head is; a head that contradicts itself does not say. -/
def framing? (h : Head) : Option Framing :=
  let codings := h.values "transfer-encoding"
  let lengths := h.values "content-length"
  if h.status = 101 || Status.isBodiless h.status then some (.sized 0)
  else if !codings.isEmpty then
    if h.isOld then none else some (if isChunked codings then .chunked else .rest)
  else if !lengths.isEmpty then (lengthOf? lengths).map .sized
  else some .rest

/-- Where the reader of a chunked body stands. -/
inductive ChunkPlace where
  | start
  | size (n : Nat)
  | afterSize (n : Nat)
  | extension (n : Nat)
  | sizeFeed (n : Nat)
  | data (left : Nat)
  | dataReturn
  | dataFeed
  /-- At the start of a line after the last chunk. -/
  | lineStart
  | line
  | lineFeed
  | lastFeed
  | done
  deriving DecidableEq, Repr

/-- Go on after the size of a chunk. -/
def ChunkPlace.ofSizeEnd (n : Nat) (c : Char) : Option ChunkPlace :=
  if c = ' ' || c = '\t' then some (.afterSize n)
  else if c = ';' then some (.extension n)
  else if c = '\r' then some (.sizeFeed n)
  else none

/-- Take one more byte; one that belongs to the body is handed on. -/
def ChunkPlace.step (place : ChunkPlace) (x : UInt8) : Option (ChunkPlace × Option UInt8) :=
  let c := latin x
  let go := fun (p : ChunkPlace) => some (p, none)
  match place with
  | .start => (Text.hexValue? c).bind fun d => go (.size d)
  | .size n =>
      match Text.hexValue? c with
      | some d => if n * 16 + d < UInt64.size then go (.size (n * 16 + d)) else none
      | none => (ofSizeEnd n c).bind go
  | .afterSize n => (ofSizeEnd n c).bind go
  | .extension n =>
    if c = '\r' then go (.sizeFeed n) else if c = '\n' then none else go (.extension n)
  | .sizeFeed n => if c = '\n' then go (if n = 0 then .lineStart else .data n) else none
  | .data left => some (if left ≤ 1 then .dataReturn else .data (left - 1), some x)
  | .dataReturn => if c = '\r' then go .dataFeed else none
  | .dataFeed => if c = '\n' then go .start else none
  | .lineStart => go (if c = '\r' then .lastFeed else .line)
  | .line => go (if c = '\r' then .lineFeed else .line)
  | .lineFeed => if c = '\n' then go .lineStart else none
  | .lastFeed => if c = '\n' then go .done else none
  | .done => go .done

/-- The data of chunks from a place on. -/
def dataFrom? : ChunkPlace → Bytes → Option Bytes
  | .done, _ => some []
  | _, [] => none
  | place, x :: rest => do
      let (place, datum) ← place.step x
      let more ← dataFrom? place rest
      some (datum.toList ++ more)

/-- The body at the front, unless it breaks off. -/
def body? (b : Bytes) : Framing → Option Bytes
  | .sized n => if n ≤ b.length then some (b.take n) else none
  | .chunked => dataFrom? .start b
  | .rest => some b

/-! ## Answers -/

/-- Skip heads that only announce an answer, as many as `fuel` allows, and read the answer. -/
def skipInterim? : Nat → Bytes → Option Message
  | 0, _ => none
  | fuel + 1, b => do
      let (head, rest) ← takeHead? b
      if Status.isInterim head.status then skipInterim? fuel rest
      else
        let framing ← framing? head
        some ⟨head.status, body? rest framing⟩

/-- The answer in the bytes of a connection; each head takes up a byte at least. -/
def ofBytes? (b : Bytes) : Option Message := skipInterim? (b.length + 1) b

end Message

end RankLedger
