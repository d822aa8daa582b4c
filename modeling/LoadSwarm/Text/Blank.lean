/-
  White space of Unicode texts, and texts without anything else.

  * `isBlankChar`: the property White_Space.
  * `trim`: drops white space at both ends.
  * `isBlank`: nothing is left after trimming, that is, every character is white
    space.
-/

namespace LoadSwarm.Text

/-- White space, by the property White_Space of Unicode. -/
def isBlankChar (c : Char) : Bool :=
  let n := c.toNat
  (9 ≤ n && n ≤ 13) || n = 0x20 || n = 0x85 || n = 0xA0 || n = 0x1680 ||
    (0x2000 ≤ n && n ≤ 0x200A) || n = 0x2028 || n = 0x2029 || n = 0x202F || n = 0x205F || n = 0x3000

/-- A list of characters without white space at its front. -/
def trimFront (cs : List Char) : List Char := cs.dropWhile isBlankChar

/-- A list of characters without white space at its ends. -/
def trimChars (cs : List Char) : List Char := (trimFront (trimFront cs).reverse).reverse

/-- A text without white space at its ends. -/
def trim (s : String) : String := String.ofList (trimChars s.toList)

/-- A text of white space only. -/
def isBlank (s : String) : Bool := s.toList.all isBlankChar

/-- A text in which the letters A to Z are written small. -/
def lowerAscii (s : String) : String := s.map Char.toLower

/-- The parts of a list of characters between the occurrences of a separator. -/
def splitChars (sep : Char) : List Char → List (List Char)
  | [] => [[]]
  | c :: cs =>
    if c = sep then [] :: splitChars sep cs
    else match splitChars sep cs with
      | [] => [[c]]
      | p :: ps => (c :: p) :: ps

/-- The parts of a text between the occurrences of a separator. -/
def split (sep : Char) (s : String) : List String :=
  (splitChars sep s.toList).map String.ofList

/-- Whether a text begins with another. -/
def startsWith (front s : String) : Bool := front.toList.isPrefixOf s.toList

end LoadSwarm.Text
