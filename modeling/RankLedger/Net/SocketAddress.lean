import RankLedger.Text.Basic
import RankLedger.Text.Numeral

set_option autoImplicit false

/-! # Socket addresses

Where a server listens: a numeric address of version 4 or 6, and the number of a service there.
Addresses of version 6 stand in brackets, may leave out one run of zeros, may end in an address of
version 4, and may carry the number of a scope. They are shown in the shortest way. -/

namespace RankLedger

/-- An address and the number of a service there. -/
inductive SocketAddress where
  | v4 (octets : List Nat) (service : Nat)
  | v6 (groups : List Nat) (scope : Nat) (service : Nat)
  deriving DecidableEq, Repr, Inhabited

namespace SocketAddress

/-! ## Reading -/

/-- A reader takes a value from the front of a text and leaves the rest. -/
abbrev Taker (α : Type) : Type := List Char → Option (α × List Char)

/-- Take one character. -/
def takeChar (c : Char) (cs : List Char) : Option (List Char) :=
  match cs with
  | d :: rest => if d = c then some rest else none
  | [] => none

/-- Take a decimal numeral below a bound. -/
def takeDecimal (bound : Nat) : Taker Nat := fun cs =>
  let digits := cs.takeWhile Char.isDigit
  match Text.digits? digits with
  | some n => if n < bound then some (n, cs.drop digits.length) else none
  | none => none

/-- Take a part of an address of version 4: at most three digits, no needless zeros. -/
def takeOctet : Taker Nat := fun cs =>
  let digits := cs.takeWhile Char.isDigit
  if digits.length > 3 || (digits.head? = some '0' && digits.length > 1) then none
  else takeDecimal 256 cs

/-- Take a base-16 numeral of at most four digits. -/
def takeGroup : Taker Nat := fun cs =>
  let digits := cs.takeWhile fun c => (Text.hexValue? c).isSome
  if digits.isEmpty || digits.length > 4 then none
  else some ((digits.filterMap Text.hexValue?).foldl (fun n d => n * 16 + d) 0,
    cs.drop digits.length)

/-- Take an address of version 4. -/
def takeOctets : Taker (List Nat) := fun cs => do
  let (a, cs) ← takeOctet cs
  let (b, cs) ← takeOctet (← takeChar '.' cs)
  let (c, cs) ← takeOctet (← takeChar '.' cs)
  let (d, cs) ← takeOctet (← takeChar '.' cs)
  some ([a, b, c, d], cs)

/-- Take what stands after a colon, or without one at the start. -/
def separated {α : Type} (isFirst : Bool) (take : Taker α) : Taker α := fun cs => do
  take (← if isFirst then some cs else takeChar ':' cs)

/-- Two groups for the four octets of an address. -/
def groupsOfOctets : List Nat → List Nat
  | [a, b, c, d] => [a * 256 + b, c * 256 + d]
  | _ => []

/-- Take up to `limit` groups; tells whether they end in an address of version 4. -/
def takeGroups : Nat → Bool → List Char → List Nat × Bool × List Char
  | 0, _, cs => ([], false, cs)
  | limit + 1, isFirst, cs =>
      match if limit > 0 then separated isFirst takeOctets cs else none with
      | some (octets, rest) => (groupsOfOctets octets, true, rest)
      | none =>
          match separated isFirst takeGroup cs with
          | some (g, rest) =>
              let (gs, dotted, rest) := takeGroups limit false rest
              (g :: gs, dotted, rest)
          | none => ([], false, cs)

/-- Take an address of version 6. -/
def takeAddress6 : Taker (List Nat) := fun cs =>
  match takeGroups 8 true cs with
  | (front, dotted, rest) =>
      if front.length = 8 then some (front, rest)
      else if dotted then none
      else do
        let rest ← takeChar ':' (← takeChar ':' rest)
        let (back, _, rest) := takeGroups (7 - front.length) true rest
        some (front ++ List.replicate (8 - front.length - back.length) 0 ++ back, rest)

/-- Take the number of a service after its colon. -/
def takeService : Taker Nat := fun cs => do takeDecimal 65536 (← takeChar ':' cs)

/-- Take the number of a scope, if there is one. -/
def takeScope : Taker Nat := fun cs =>
  match cs with
  | '%' :: rest => takeDecimal UInt32.size rest
  | _ => some (0, cs)

/-- Read an address of version 4 and the number of a service. -/
def read4? (cs : List Char) : Option SocketAddress := do
  let (octets, cs) ← takeOctets cs
  let (service, cs) ← takeService cs
  if cs.isEmpty then some (.v4 octets service) else none

/-- Read an address of version 6 and the number of a service. -/
def read6? (cs : List Char) : Option SocketAddress := do
  let (groups, cs) ← takeAddress6 (← takeChar '[' cs)
  let (scope, cs) ← takeScope cs
  let (service, cs) ← takeService (← takeChar ']' cs)
  if cs.isEmpty then some (.v6 groups scope service) else none

/-- Read an address and the number of a service. -/
def ofText? (s : String) : Option SocketAddress := read4? s.toList <|> read6? s.toList

/-! ## Showing -/

/-- The parts of an address of version 4. -/
def renderOctets (octets : List Nat) : String := ".".intercalate (octets.map toString)

/-- A group in base 16. -/
def renderGroup (g : Nat) : String := String.ofList (Nat.toDigits 16 g)

/-- Groups between colons. -/
def renderGroups (gs : List Nat) : String := ":".intercalate (gs.map renderGroup)

/-- Where the longest run of zeros starts and how long it is; the first of several. -/
def longestZeros (gs : List Nat) : Nat × Nat :=
  (List.range gs.length).foldl
    (fun best start =>
      let length := ((gs.drop start).takeWhile (· = 0)).length
      if length > best.2 then (start, length) else best)
    (0, 0)

/-- An address of version 6. -/
def renderAddress6 (gs : List Nat) : String :=
  match gs with
  | [0, 0, 0, 0, 0, 0xFFFF, a, b] =>
      "::ffff:" ++ renderOctets [a / 256, a % 256, b / 256, b % 256]
  | _ =>
      let (start, length) := longestZeros gs
      if length > 1 then
        renderGroups (gs.take start) ++ "::" ++ renderGroups (gs.drop (start + length))
      else renderGroups gs

/-- The address as it is shown. -/
def render : SocketAddress → String
  | .v4 octets service => renderOctets octets ++ ":" ++ toString service
  | .v6 groups scope service =>
      "[" ++ renderAddress6 groups ++ (if scope = 0 then "" else "%" ++ toString scope) ++ "]:"
        ++ toString service

end SocketAddress

end RankLedger
