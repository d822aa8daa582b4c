/-
  Reading a YAML text character by character.

  * `Cursor`: the characters that are left, and the place of the first of them.
  * Classes of characters: line ends, blanks, and what may end a word.
  * `Cursor.lineEnd`: takes a line end; all but the two separators count as `\n`.
  * `Cursor.spaces`, `Cursor.restOfLine`: skip blanks, skip up to the line end.
-/
import LoadSwarm.Yaml.Mark

namespace LoadSwarm.Yaml

/-- Line ends: return, line feed, next line, and the separators of lines and paragraphs. -/
def isBreak (c : Char) : Bool :=
  c = '\r' || c = '\n' || c.toNat = 0x85 || c.toNat = 0x2028 || c.toNat = 0x2029

/-- Spaces and tabs. -/
def isBlank (c : Char) : Bool := c = ' ' || c = '\t'

/-- Letters, digits, `_` and `-`. -/
def isWordChar (c : Char) : Bool := c.isAlphanum || c = '_' || c = '-'

/-- The text ends, or a blank or a line end comes. -/
def endsWord : List Char → Bool
  | [] => true
  | c :: _ => isBlank c || isBreak c

/-- The text ends, or a line end comes. -/
def endsLine : List Char → Bool
  | [] => true
  | c :: _ => isBreak c

/-- Three marks of a document's start or end, as a word of their own. -/
def isDocumentMark : List Char → Bool
  | '-' :: '-' :: '-' :: rest => endsWord rest
  | '.' :: '.' :: '.' :: rest => endsWord rest
  | _ => false

/-- What is left of a text, and where that begins. -/
structure Cursor where
  rest : List Char
  mark : Mark
  deriving DecidableEq, Repr

namespace Cursor

/-- The next character. -/
def peek? (c : Cursor) : Option Char := c.rest.head?

/-- Whether a certain character comes next. -/
def sees (c : Cursor) (x : Char) : Bool := c.peek? = some x

/-- Without the next character. -/
def skip (c : Cursor) : Cursor :=
  match c.rest with
  | [] => c
  | _ :: cs => ⟨cs, c.mark.next⟩

/-- Without the next `n` characters of the line. -/
def skipN (c : Cursor) : Nat → Cursor
  | 0 => c
  | n + 1 => c.skip.skipN n

/-- Skips the characters of a class, which has no line ends. -/
def skipWhile (p : Char → Bool) (mark : Mark) : List Char → Cursor
  | [] => ⟨[], mark⟩
  | c :: cs => if p c then skipWhile p mark.next cs else ⟨c :: cs, mark⟩

/-- Takes the characters of a class, which has no line ends. -/
def takeWhile (p : Char → Bool) (c : Cursor) : List Char × Cursor :=
  (c.rest.takeWhile p, skipWhile p c.mark c.rest)

/-- Without the blanks that come next. -/
def spaces (c : Cursor) : Cursor := skipWhile isBlank c.mark c.rest

/-- Without the rest of the line; its end is left. -/
def restOfLine (c : Cursor) : Cursor := skipWhile (!isBreak ·) c.mark c.rest

/-- Without a comment. -/
def comment (c : Cursor) : Cursor := if c.sees '#' then c.restOfLine else c

/-- Takes a line end: the character it counts as, if one comes. -/
def lineEnd (c : Cursor) : List Char × Cursor :=
  match c.rest with
  | '\r' :: '\n' :: cs => (['\n'], ⟨cs, c.mark.newLine 2⟩)
  | x :: cs =>
    if x = '\r' || x = '\n' || x.toNat = 0x85 then (['\n'], ⟨cs, c.mark.newLine 1⟩)
    else if x.toNat = 0x2028 || x.toNat = 0x2029 then ([x], ⟨cs, c.mark.newLine 1⟩)
    else ([], c)
  | [] => ([], c)

/-- Whether the mark of a document's start or end comes at the front of a line. -/
def atDocumentMark (c : Cursor) : Bool := c.mark.column = 0 && isDocumentMark c.rest

end Cursor

/-- Characters that may stand in a text. -/
def isAllowed (c : Char) : Bool :=
  let n := c.toNat
  n = 9 || n = 10 || n = 13 || (0x20 ≤ n && n ≤ 0x7E) || n = 0x85 || (0xA0 ≤ n && n ≤ 0xD7FF) ||
    (0xE000 ≤ n && n ≤ 0xFFFD && n ≠ 0xFEFF) || 0x10000 ≤ n

/-- Looks for a character that may not stand in a text; `offset` counts bytes. -/
def checkAllowed (offset : Nat) : List Char → Except SyntaxError Unit
  | [] => .ok ()
  | c :: cs =>
    if isAllowed c then checkAllowed (offset + c.utf8Size) cs
    else .error ⟨.controlCharacter, ⟨offset, 0, 0⟩, none⟩

/-- A cursor on a whole text without its byte order mark, if all of its characters may stand
    there. -/
def Cursor.ofText (cs : List Char) : Except SyntaxError Cursor :=
  match cs with
  | '\uFEFF' :: rest =>
    match checkAllowed 3 rest with
    | .ok () => .ok ⟨rest, Mark.start⟩
    | .error e => .error e
  | _ =>
    match checkAllowed 0 cs with
    | .ok () => .ok ⟨cs, Mark.start⟩
    | .error e => .error e

end LoadSwarm.Yaml
