import RankLedger.Json.Tree
import RankLedger.Json.Text

set_option autoImplicit false

/-! # JSON values

Values kept whole: every string is a text, every number is an integer of 64 bits or a finite double,
and an object has each key once, the last one written. At most `Value.depthLimit` brackets may be
open at a time.

An object whose first key is `Value.embeddedKey` stands for another value: the one whose JSON text
it has under that key, and it may have nothing else. -/

namespace RankLedger.Json

/-- A JSON value. -/
inductive Value where
  | null
  | bool (b : Bool)
  | int (n : Int)
  | double (x : Binary64)
  | text (s : String)
  | array (items : List Value)
  | object (members : List (String × Value))
  deriving Repr, Inhabited

namespace Value

/-- How many brackets may be open at a time. -/
def depthLimit : Nat := 127

/-- Put a member, in place of an earlier one with its key. -/
def putMember : List (String × Value) → String × Value → List (String × Value)
  | [], m => [m]
  | p :: ms, m => if p.1 = m.1 then m :: ms else p :: putMember ms m

/-- The object of these members, the last of each key winning. -/
def objectOf (members : List (String × Value)) : Value := .object (members.foldl putMember [])

/-- The value of a number literal. -/
def ofLiteral? (l : Literal) : Option Value :=
  match l.integer? with
  | some n => some (.int n)
  | none => l.double?.map .double

/-- The key of an object that stands for the value written in a text. -/
def embeddedKey : String := "$serde_json::private::RawValue"

/-- Whether members begin with the key of an embedded value. -/
def isEmbedding : List (Bytes × Tree) → Bool
  | [] => false
  | m :: _ => textOfRaw? m.1 = some embeddedKey

/-- The JSON text of the embedded value, if the members hold that and nothing else. -/
def embeddedText? : List (Bytes × Tree) → Option Bytes
  | [(_, .text raw)] => (textOfRaw? raw).map Bytes.ofText
  | _ => none

/-- The value of a tree in which at most `depth` brackets are open at a time; `embedded` reads the
texts of embedded values. -/
def ofTree? (embedded : Bytes → Option Value) : Nat → Tree → Option Value
  | _, .null => some .null
  | _, .bool b => some (.bool b)
  | _, .number l => ofLiteral? l
  | _, .text raw => (textOfRaw? raw).map .text
  | 0, .array _ => none
  | 0, .object _ => none
  | depth + 1, .array ts => (ts.mapM (ofTree? embedded depth)).map .array
  | depth + 1, .object ms =>
      if isEmbedding ms then (embeddedText? ms).bind embedded
      else
        (ms.mapM fun (m : Bytes × Tree) => do
          let key ← textOfRaw? m.1
          let value ← ofTree? embedded depth m.2
          some (key, value)).map objectOf

/-- The value of a JSON text with embedded values in so many layers. -/
def ofBytesWithin? : Nat → Bytes → Option Value
  | 0, _ => none
  | layers + 1, b => (Tree.ofBytes? b).bind (ofTree? (ofBytesWithin? layers) depthLimit)

/-- The value of a JSON text. An embedded text is shorter than the text around it, so there are
fewer layers than bytes. -/
def ofBytes? (b : Bytes) : Option Value := ofBytesWithin? (b.length + 1) b

/-- The items of a JSON text that is written as an array. -/
def listOfBytes? (b : Bytes) : Option (List Value) :=
  match Tree.ofBytes? b with
  | some (.array ts) => ts.mapM (ofTree? (ofBytesWithin? b.length) (depthLimit - 1))
  | _ => none

/-- An integer of the signed 64-bit range. -/
def int64? : Value → Option Int
  | .int n => if Word.Fits n then some n else none
  | _ => none

/-- A text. -/
def text? : Value → Option String
  | .text s => some s
  | _ => none

/-- The member under a key. -/
def member? (key : String) : Value → Option Value
  | .object ms => (ms.find? (·.1 = key)).map (·.2)
  | _ => none

/-- The fields of a record, in the order of `names`, each with its spellings: from an object that
has exactly one spelling of each, or from an array with one item per field. -/
def record? (names : List (List String)) : Value → Option (List Value)
  | .array items => if items.length = names.length then some items else none
  | .object ms =>
      names.mapM fun spellings =>
        match ms.filter (fun m => spellings.contains m.1) with
        | [m] => some m.2
        | _ => none
  | _ => none

/-- `null` where there is nothing. -/
def ofOption (f : Option Value) : Value := f.getD .null

theorem fits_of_int64? {v : Value} {n : Int} (h : v.int64? = some n) : Word.Fits n := by
  unfold int64? at h
  split at h
  · split at h <;> simp_all
  · simp at h

end Value

end RankLedger.Json
