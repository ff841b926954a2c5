import RankLedger.Settings
import RankLedger.Text.Alphanumeric
import RankLedger.Text.Basic

set_option autoImplicit false

/-! # Settings in a file

A file of settings has a line `NAME=value` for each. A value may stand in quotes, over several lines
if need be; what follows a blank and a `#` is a comment; `$NAME` and `$` with a name in braces stand
for values that are known by then. Reading ends at the first line that is not well written, and
keeps what came before it. -/

namespace RankLedger.Settings.File

/-! ## Lines -/

/-- What a line may still be part of. -/
inductive Open where
  | nothing
  | blank
  | escape
  | doubleQuote
  | doubleQuoteEscape
  | singleQuote
  | singleQuoteEscape
  | comment
  deriving DecidableEq, Repr

/-- What is open after a character outside of quotes; `afterBlank` tells whether a blank came
last. -/
def Open.outside (afterBlank : Bool) (c : Char) : Open :=
  if c = '\\' then .escape
  else if c = '"' then .doubleQuote
  else if c = '\'' then .singleQuote
  else if afterBlank then if c = '#' then .comment else .nothing
  else if Text.isBlank c && c ≠ '\n' && c ≠ '\r' then .blank
  else .nothing

/-- What is open after one more character. -/
def Open.next : Open → Char → Open
  | .nothing, c => outside false c
  | .blank, c => outside true c
  | .escape, _ => .nothing
  | .doubleQuote, c =>
      if c = '\\' then .doubleQuoteEscape else if c = '"' then .nothing else .doubleQuote
  | .doubleQuoteEscape, _ => .doubleQuote
  | .singleQuote, c =>
      if c = '\\' then .singleQuoteEscape else if c = '\'' then .nothing else .singleQuote
  | .singleQuoteEscape, _ => .singleQuote
  | .comment, _ => .comment

/-- What is open at the end of some text, and the text before a comment. -/
def scan : Open → List Char → Open × List Char
  | o, [] => (o, [])
  | o, c :: cs =>
      if o.next c = .comment then (.comment, [])
      else
        let (last, kept) := scan (o.next c) cs
        (last, c :: kept)

/-- The text without blanks in front. -/
def dropBlanks (cs : List Char) : List Char := cs.dropWhile Text.isBlank

/-- The text without blanks at the end. -/
def dropBlanksBehind (cs : List Char) : List Char := (dropBlanks cs.reverse).reverse

/-- The text without a line end behind. -/
def dropLineEnd (cs : List Char) : List Char :=
  match cs.reverse with
  | '\n' :: '\r' :: rest => rest.reverse
  | '\n' :: rest => rest.reverse
  | _ => cs

/-- The lines of a text, each with the line feed that ends it. -/
def cutLines : List Char → List (List Char)
  | [] => []
  | c :: cs =>
      if c = '\n' then [c] :: cutLines cs
      else
        match cutLines cs with
        | [] => [[c]]
        | line :: lines => (c :: line) :: lines

/-- Join lines while something is open over their ends; `front` came before. The end of all lines
must find nothing open, or the last entry has no text. -/
def joinLines : Open → List Char → List (List Char) → List (Option (List Char))
  | .nothing, _, [] => []
  | _, _, [] => [none]
  | o, front, line :: lines =>
      if (dropBlanks (front ++ line)).head? = some '#' then joinLines .nothing [] lines
      else
        match scan o line with
        | (.nothing, _) => some (dropLineEnd (front ++ line)) :: joinLines .nothing [] lines
        | (.comment, kept) => some (front ++ kept) :: joinLines .nothing [] lines
        | (o, _) => joinLines o (front ++ line) lines

/-! ## Values -/

/-- Where in a value the reader is; names are kept last character first. -/
inductive Place where
  | plain (isQuoted : Bool)
  /-- After the blank that ends a value. -/
  | past
  | single
  /-- After a backslash. -/
  | escaped (isQuoted : Bool)
  /-- In a name after `$`. -/
  | name (isQuoted : Bool) (soFar : List Char)
  /-- In a name in braces. -/
  | braced (isQuoted : Bool) (soFar : List Char)
  deriving DecidableEq, Repr

/-- The character that an escape stands for. -/
def unescape? (c : Char) : Option Char :=
  if c = 'n' then some '\n' else if "\\'\"$ ".toList.contains c then some c else none

/-- The characters of what a name stands for, whose last character comes first. -/
def resolve (known : String → String) (soFar : List Char) : List Char :=
  (known (String.ofList soFar.reverse)).toList

/-- Read a value from a place in it. The character that ends a name after `$` stands for itself. -/
def value? (known : String → String) : Place → List Char → Option (List Char)
  | .plain false, [] | .past, [] | .escaped false, [] => some []
  | .name false soFar, [] => some (resolve known soFar)
  | .plain true, [] | .single, [] | .escaped true, [] | .name true _, [] | .braced _ _, [] => none
  | .past, c :: cs =>
      if c = ' ' || c = '\t' then value? known .past cs else if c = '#' then some [] else none
  | .escaped isQuoted, c :: cs => do
      let c ← unescape? c
      let rest ← value? known (.plain isQuoted) cs
      some (c :: rest)
  | .single, c :: cs =>
      if c = '\'' then value? known (.plain false) cs
      else (value? known .single cs).map (c :: ·)
  | .name isQuoted soFar, c :: cs =>
      if Text.isAlphanumeric c then value? known (.name isQuoted (c :: soFar)) cs
      else if c = '\x7b' && soFar.isEmpty then value? known (.braced isQuoted []) cs
      else if c = '$' then (value? known (.name isQuoted []) cs).map (resolve known soFar ++ ·)
      else (value? known (.plain isQuoted) cs).map (resolve known soFar ++ c :: ·)
  | .braced isQuoted soFar, c :: cs =>
      if c = '\x7d' then (value? known (.plain isQuoted) cs).map (resolve known soFar ++ ·)
      else value? known (.braced isQuoted (c :: soFar)) cs
  | .plain isQuoted, c :: cs =>
      if c = '$' then value? known (.name isQuoted []) cs
      else if c = '\\' then value? known (.escaped isQuoted) cs
      else if c = '"' then value? known (.plain !isQuoted) cs
      else if isQuoted then (value? known (.plain true) cs).map (c :: ·)
      else if c = '\'' then value? known .single cs
      else if c = ' ' || c = '\t' then value? known .past cs
      else (value? known (.plain false) cs).map (c :: ·)

/-! ## Settings -/

/-- What a line holds. -/
inductive Line where
  | nothing
  | setting (name value : String)
  | malformed
  deriving DecidableEq, Repr

/-- Take a name from the front of a text. -/
def takeName? (cs : List Char) : Option (String × List Char) :=
  let name := cs.takeWhile fun c => c.isAlphanum || c = '_' || c = '.'
  match name with
  | c :: _ => if c.isAlpha || c = '_' then some (String.ofList name, cs.drop name.length) else none
  | [] => none

/-- The value behind an equals sign. -/
def valueOf? (known : String → String) (cs : List Char) : Option String :=
  match dropBlanks cs with
  | [] | '#' :: _ => some ""
  | cs => (value? known (.plain false) cs).map String.ofList

/-- The setting of a name and what follows it; the word `export` may stand before the name. -/
def setting? (known : String → String) (cs : List Char) : Option (String × String) := do
  let (name, rest) ← takeName? cs
  match dropBlanks rest with
  | '=' :: rest => (valueOf? known rest).map (name, ·)
  | rest =>
      if name = "export" then
        let (name, rest) ← takeName? rest
        match dropBlanks rest with
        | '=' :: rest => (valueOf? known rest).map (name, ·)
        | _ => none
      else none

/-- Read a line. -/
def line (known : String → String) (cs : List Char) : Line :=
  match dropBlanks (dropBlanksBehind cs) with
  | [] | '#' :: _ => .nothing
  | cs =>
      match setting? known cs with
      | some (name, value) => .setting name value
      | none => .malformed

/-- Add the settings of lines up to the first malformed one to those found before. A name stands for
its value in the surroundings, or else in the first line that sets it. -/
def settings (surroundings : Lookup) (found : List (String × String)) :
    List (Option (List Char)) → List (String × String)
  | [] => found
  | none :: _ => found
  | some cs :: rest =>
      match line (fun name => (surroundings name <|> found.lookup name).getD "") cs with
      | .nothing => settings surroundings found rest
      | .setting name value => settings surroundings (found ++ [(name, value)]) rest
      | .malformed => found

/-- The characters of a file without a byte order mark in front. -/
def characters (content : String) : List Char :=
  match content.toList with
  | '\ufeff' :: cs => cs
  | cs => cs

/-- The settings in a file. -/
def read (surroundings : Lookup) (content : String) : List (String × String) :=
  settings surroundings [] (joinLines .nothing [] (cutLines (characters content)))

/-- Look up settings in the surroundings first and in a file then; in a file the first line of a
name counts. -/
def lookup (surroundings : Lookup) (content : Option String) : Lookup := fun name =>
  surroundings name <|> ((content.map (read surroundings)).getD []).lookup name

/-- Every name that a text may ask the surroundings for: what stands behind a `$`, up to a character
that ends it. -/
def mentioned : List Char → List String
  | [] => []
  | '$' :: cs =>
      let name := match cs with
        | '\x7b' :: rest => rest.takeWhile (· ≠ '\x7d')
        | _ => cs.takeWhile Text.isAlphanumeric
      String.ofList name :: mentioned cs
  | _ :: cs => mentioned cs

end RankLedger.Settings.File
