/-
  Values and their YAML text.

  * `Value`: a scalar, a list of texts, or a record.
  * `TextShape`: what a text consists of, and the styles that this allows.
  * `textStyle`: the style of a text: several lines are literal, what would read
    as something else is quoted, and double quotes take whatever nothing else can.
  * `Value.render`: the text of a value, records in block style, two spaces a level.
-/
import LoadSwarm.Yaml.Scalar
import LoadSwarm.Yaml.Cursor

namespace LoadSwarm.Yaml

/-- A value that can be written. -/
inductive Value where
  | scalar (m : Meaning)
  | texts (items : List String)
  | record (members : List (String × Value))

/-! ## The style of a text -/

/-- Characters that are shown as they are; the line feed is one, the tab is not. -/
def isShown (c : Char) : Bool :=
  let n := c.toNat
  n = 0x0A || (0x20 ≤ n && n ≤ 0x7E) || (0xA0 ≤ n && n ≤ 0xD7FF) ||
    (0xE000 ≤ n && n ≤ 0xFFFD && n ≠ 0xFEFF) || 0x10000 ≤ n

/-- The text ends, or white space comes. -/
def isGap : List Char → Bool
  | [] => true
  | c :: _ => isBlank c || isBreak c || c.toNat = 0

/-- Whether a mark at the front of a text means something else than itself. -/
def startsWithMark : List Char → Bool
  | [] => false
  | c :: rest =>
    "#,[]\x7b\x7d&*!|>'\"%@".toList.contains c || c.toNat = 0x60 ||
      ((c = '?' || c = ':' || c = '-') && isGap rest)

/-- Whether a mark inside a text means something else: a colon before white space, or a number
    sign after it. -/
def hasInnerMark : List Char → Bool
  | [] => false
  | [_] => false
  | x :: y :: rest =>
    (y = ':' && isGap rest) || (y = '#' && isGap [x]) || hasInnerMark (y :: rest)

/-- Three marks of a document at the front of a text. -/
def startsLikeDocument : List Char → Bool
  | '-' :: '-' :: '-' :: _ => true
  | '.' :: '.' :: '.' :: _ => true
  | _ => false

/-- Whether a character of one class comes right before one of another. -/
def hasPair (p q : Char → Bool) : List Char → Bool
  | x :: y :: rest => (p x && q y) || hasPair p q (y :: rest)
  | _ => false

/-- A space. -/
def isSpace (c : Char) : Bool := c = ' '

/-- Only double quotes can hold a text with hidden characters, or with a space before a line
    end. -/
def needsDouble (cs : List Char) : Bool := cs.any (!isShown ·) || hasPair isSpace isBreak cs

/-- A plain scalar has no marks, no line ends, and no spaces at its ends. -/
def fitsPlain (cs : List Char) : Bool :=
  !(startsLikeDocument cs || startsWithMark cs || hasInnerMark cs || needsDouble cs ||
    cs.any isBreak || cs.head?.any isSpace || cs.getLast?.any isSpace)

/-- Single quotes hold no line end before a space. -/
def fitsSingle (cs : List Char) : Bool := !(needsDouble cs || hasPair isBreak isSpace cs)

/-- A literal scalar has no space at its end. -/
def fitsLiteral (cs : List Char) : Bool := !(needsDouble cs || cs.getLast?.any isSpace)

/-- Whether a plain scalar would be read as something else than its text. -/
def isAmbiguous (s : String) : Bool :=
  match Meaning.ofPlain s with
  | .text _ => hasSpareZero s.toList
  | _ => true

/-- The style that a text is written in. -/
def textStyle (s : String) : ScalarStyle :=
  let cs := s.toList
  if cs.contains '\n' then (if fitsLiteral cs then .literal else .doubleQuoted)
  else if !isAmbiguous s && fitsPlain cs then .plain
  else if fitsSingle cs then .singleQuoted
  else .doubleQuoted

/-! ## Texts in their styles -/

/-- Spaces. -/
def spacesText (n : Nat) : List Char := List.replicate n ' '

/-- The inside of a text in single quotes; `broken` after a line end. -/
def singleInside (indent : Nat) : Bool → List Char → List Char
  | broken, [] => if broken then spacesText indent else []
  | broken, c :: cs =>
    if isBreak c then c :: singleInside indent true cs
    else
      (if broken then spacesText indent else []) ++ (if c = '\'' then ['\'', '\''] else [c]) ++
        singleInside indent false cs

/-- A digit in hexadecimal. -/
def upperHex (n : Nat) : Char := (Nat.digitChar n).toUpper

/-- The lowest `width` hexadecimal digits of a number. -/
def hexDigits : Nat → Nat → List Char
  | 0, _ => []
  | width + 1, n => hexDigits width (n / 16) ++ [upperHex (n % 16)]

/-- The letter that stands for a character after a backslash. -/
def escapeLetter? (c : Char) : Option Char :=
  match c.toNat with
  | 0x00 => some '0'
  | 0x07 => some 'a'
  | 0x08 => some 'b'
  | 0x09 => some 't'
  | 0x0A => some 'n'
  | 0x0B => some 'v'
  | 0x0C => some 'f'
  | 0x0D => some 'r'
  | 0x1B => some 'e'
  | 0x22 => some '"'
  | 0x5C => some '\\'
  | 0x85 => some 'N'
  | 0xA0 => some '_'
  | 0x2028 => some 'L'
  | 0x2029 => some 'P'
  | _ => none

/-- A character inside double quotes. -/
def doubleChar (c : Char) : List Char :=
  if isShown c && !isBreak c && c ≠ '"' && c ≠ '\\' then [c]
  else
    match escapeLetter? c with
    | some x => ['\\', x]
    | none =>
      let n := c.toNat
      if n ≤ 0xFF then '\\' :: 'x' :: hexDigits 2 n
      else if n ≤ 0xFFFF then '\\' :: 'u' :: hexDigits 4 n
      else '\\' :: 'U' :: hexDigits 8 n

/-- The lines of a literal scalar; `fresh` at the front of a line. -/
def literalLines (indent : Nat) : Bool → List Char → List Char
  | _, [] => []
  | fresh, c :: cs =>
    if isBreak c then c :: literalLines indent true cs
    else (if fresh then spacesText indent else []) ++ c :: literalLines indent false cs

/-- The indicators of a literal scalar: the indentation if a line could hide it, and what
    becomes of the line ends after the text. -/
def literalHints (cs : List Char) : List Char :=
  (if cs.head?.any fun c => isSpace c || isBreak c then ['2'] else []) ++
    match cs.reverse with
    | [] => ['-']
    | [c] => if isBreak c then ['+'] else ['-']
    | c :: d :: _ => if !isBreak c then ['-'] else if isBreak d then ['+'] else []

/-- A text in its style; further lines are indented. -/
def writeText (indent : Nat) (s : String) : List Char :=
  let cs := s.toList
  match textStyle s with
  | .plain => cs
  | .singleQuoted => '\'' :: singleInside indent false cs ++ ['\'']
  | .literal => '|' :: literalHints cs ++ '\n' :: literalLines indent true cs
  | _ => '"' :: cs.flatMap doubleChar ++ ['"']

/-- A scalar; texts in their style. -/
def Meaning.write (indent : Nat) : Meaning → List Char
  | null => "null".toList
  | bool b => (if b then "true" else "false").toList
  | natural n => decimalDigits n
  | negative n => '-' :: decimalDigits n
  | wide isNegative n => (if isNegative then ['-'] else []) ++ decimalDigits n
  | float x => x.renderChars .scalar
  | text s => writeText indent s

/-- A text with a line end, unless a line end is its last character. -/
def endLine (cs : List Char) : List Char :=
  if cs.getLast?.any isBreak then cs else cs ++ ['\n']

/-! ## Records -/

mutual

/-- What follows the key of a member, whose record is indented to a column. -/
def Value.afterKey (indent : Nat) : Value → List Char
  | .scalar m => endLine (' ' :: m.write (indent + 2))
  | .texts [] => " []\n".toList
  | .texts items =>
    '\n' :: items.flatMap fun s =>
      endLine (spacesText indent ++ '-' :: ' ' :: writeText (indent + 2) s)
  | .record members => '\n' :: Value.memberLines (indent + 2) members

/-- The lines of the members of a record. -/
def Value.memberLines (indent : Nat) : List (String × Value) → List Char
  | [] => []
  | (key, v) :: rest =>
    spacesText indent ++ key.toList ++ ':' :: v.afterKey indent ++ memberLines indent rest

end

/-- The text of a record. -/
def renderRecord (members : List (String × Value)) : String :=
  String.ofList (Value.memberLines 0 members)

end LoadSwarm.Yaml
