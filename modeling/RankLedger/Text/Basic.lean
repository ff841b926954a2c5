set_option autoImplicit false

/-! # Characters and pieces of texts

A class of characters is given by the inclusive ranges of its code points; blanks are such a class.
Names are compared and folded in the twenty-six ASCII letters only, where every other character
stands for itself. -/

namespace RankLedger.Text

/-! ## Classes of characters -/

/-- Whether the code point of a character lies in one of some inclusive ranges. -/
def inRanges (ranges : List (Nat × Nat)) (c : Char) : Bool :=
  ranges.any fun r => r.1 ≤ c.toNat && c.toNat ≤ r.2

/-- The code points with the property `White_Space`, as inclusive ranges. -/
def blankRanges : List (Nat × Nat) :=
  [(0x9, 0xD), (0x20, 0x20), (0x85, 0x85), (0xA0, 0xA0), (0x1680, 0x1680), (0x2000, 0x200A),
    (0x2028, 0x2029), (0x202F, 0x202F), (0x205F, 0x205F), (0x3000, 0x3000)]

example : blankRanges.foldl (fun n r => n + (r.2 - r.1 + 1)) 0 = 25 := by decide

/-- Whether a character has the property `White_Space`. -/
def isBlank (c : Char) : Bool := inRanges blankRanges c

/-- The text without blanks at either end. -/
def trim (s : String) : String :=
  String.ofList (((s.toList.dropWhile isBlank).reverse.dropWhile isBlank).reverse)

/-- Whether a text holds nothing but blanks. -/
def allBlank (s : String) : Bool := s.toList.all isBlank

/-! ## Letter case -/

/-- The text with the ASCII capitals replaced by small letters. -/
def lowerAscii (s : String) : String := String.ofList (s.toList.map Char.toLower)

/-- Whether two texts are equal up to the case of ASCII letters. -/
def sameLetters (a b : String) : Bool := lowerAscii a == lowerAscii b

/-! ## Pieces -/

/-- The pieces of a text between the occurrences of a separator, in order; at least one. -/
def splitAt (sep : Char) (s : String) : List String := (go s.toList []).map String.ofList
where
  go : List Char → List Char → List (List Char)
    | [], piece => [piece.reverse]
    | c :: cs, piece => if c = sep then piece.reverse :: go cs [] else go cs (c :: piece)

/-- The text before the first occurrence of a separator and the text after it. -/
def cutAt? (sep : Char) (s : String) : Option (String × String) :=
  let cs := s.toList
  match cs.dropWhile (· ≠ sep) with
  | [] => none
  | _ :: rest => some (String.ofList (cs.takeWhile (· ≠ sep)), String.ofList rest)

end RankLedger.Text
