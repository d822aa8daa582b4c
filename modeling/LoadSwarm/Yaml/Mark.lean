/-
  Places in a YAML text, and what can be wrong there.

  * `Mark`: a place by line and column, both from zero, with the number of
    characters before it.
  * `Problem` and `Activity`: what is wrong, and what was being read.
  * `SyntaxError.message`: problem and activity, each with its place; the first
    place of a text is left out, and so is the place of an activity that begins at
    the problem.
-/

namespace LoadSwarm.Yaml

/-- A place in a text. -/
structure Mark where
  index : Nat
  line : Nat
  column : Nat
  deriving DecidableEq, Repr

namespace Mark

/-- The first place of a text. -/
def start : Mark := ⟨0, 0, 0⟩

/-- The place after one more character of the line. -/
def next (m : Mark) : Mark := ⟨m.index + 1, m.line, m.column + 1⟩

/-- The first place of the next line, after a line end of `n` characters. -/
def newLine (m : Mark) (n : Nat) : Mark := ⟨m.index + n, m.line + 1, 0⟩

/-- Whether a place is worth telling. -/
def isTold (m : Mark) : Bool := m.line ≠ 0 || m.column ≠ 0

/-- Whether two places have the same line and column. -/
def sameSpot (m n : Mark) : Bool := m.line = n.line && m.column = n.column

/-- A place, counted from one. -/
def text (m : Mark) : String :=
  if m.isTold then "line " ++ toString (m.line + 1) ++ " column " ++ toString (m.column + 1)
  else "position " ++ toString m.index

/-- A place after a message, if it is worth telling. -/
def suffix (m : Mark) : String := if m.isTold then " at " ++ m.text else ""

end Mark

/-- What is wrong with a text. -/
inductive Problem where
  | controlCharacter
  | noColon
  | noTokenStart
  | blockEntryHere
  | keyHere
  | valueHere
  | unknownDirective
  | noDirectiveName
  | badDirectiveName
  | noLineEnd
  | noVersionPoint
  | longVersion
  | noVersionNumber
  | noSpace
  | noSpaceOrLineEnd
  | noName
  | noTagClose
  | noTagMark
  | noTagUri
  | noEscapedOctet
  | badLeadingOctet
  | badTrailingOctet
  | zeroIndent
  | tabInIndent
  | documentMarkInQuotes
  | endInQuotes
  | unknownEscape
  | noHexNumber
  | badCodePoint
  | colonInFlow
  | tabAgainstIndent
  | duplicateVersion
  | foreignVersion
  | duplicateTagHandle
  | noDocumentStart
  | undefinedTagHandle
  | noNodeContent
  | noDash
  | noKey
  | noCommaOrBracket
  | noCommaOrBrace
  deriving DecidableEq, Repr

/-- The wording of a problem. -/
def Problem.message : Problem → String
  | controlCharacter => "control characters are not allowed"
  | noColon => "could not find expected ':'"
  | noTokenStart => "found character that cannot start any token"
  | blockEntryHere => "block sequence entries are not allowed in this context"
  | keyHere => "mapping keys are not allowed in this context"
  | valueHere => "mapping values are not allowed in this context"
  | unknownDirective => "found unknown directive name"
  | noDirectiveName => "could not find expected directive name"
  | badDirectiveName => "found unexpected non-alphabetical character"
  | noLineEnd => "did not find expected comment or line break"
  | noVersionPoint => "did not find expected digit or '.' character"
  | longVersion => "found extremely long version number"
  | noVersionNumber => "did not find expected version number"
  | noSpace => "did not find expected whitespace"
  | noSpaceOrLineEnd => "did not find expected whitespace or line break"
  | noName => "did not find expected alphabetic or numeric character"
  | noTagClose => "did not find the expected '>'"
  | noTagMark => "did not find expected '!'"
  | noTagUri => "did not find expected tag URI"
  | noEscapedOctet => "did not find URI escaped octet"
  | badLeadingOctet => "found an incorrect leading UTF-8 octet"
  | badTrailingOctet => "found an incorrect trailing UTF-8 octet"
  | zeroIndent => "found an indentation indicator equal to 0"
  | tabInIndent => "found a tab character where an indentation space is expected"
  | documentMarkInQuotes => "found unexpected document indicator"
  | endInQuotes => "found unexpected end of stream"
  | unknownEscape => "found unknown escape character"
  | noHexNumber => "did not find expected hexdecimal number"
  | badCodePoint => "found invalid Unicode character escape code"
  | colonInFlow => "found unexpected ':'"
  | tabAgainstIndent => "found a tab character that violates indentation"
  | duplicateVersion => "found duplicate %YAML directive"
  | foreignVersion => "found incompatible YAML document"
  | duplicateTagHandle => "found duplicate %TAG directive"
  | noDocumentStart => "did not find expected <document start>"
  | undefinedTagHandle => "found undefined tag handle"
  | noNodeContent => "did not find expected node content"
  | noDash => "did not find expected '-' indicator"
  | noKey => "did not find expected key"
  | noCommaOrBracket => "did not find expected ',' or ']'"
  | noCommaOrBrace => "did not find expected ',' or '\x7d'"

/-- What was being read when a problem came up. -/
inductive Activity where
  | simpleKey
  | nextToken
  | directive
  | versionDirective
  | tagDirective
  | tagDirectiveHandle
  | tagDirectiveHandleEnd
  | tagDirectiveUri
  | anchor
  | aliasName
  | tag
  | tagUri
  | blockScalar
  | quotedScalar
  | quotedEscape
  | plainScalar
  | node
  | blockNode
  | flowNode
  | blockCollection
  | blockMapping
  | flowSequence
  | flowMapping
  deriving DecidableEq, Repr

/-- The wording of an activity. -/
def Activity.message : Activity → String
  | simpleKey => "while scanning a simple key"
  | nextToken => "while scanning for the next token"
  | directive => "while scanning a directive"
  | versionDirective => "while scanning a %YAML directive"
  | tagDirective => "while scanning a %TAG directive"
  | tagDirectiveHandle => "while scanning a tag directive"
  | tagDirectiveHandleEnd => "while parsing a tag directive"
  | tagDirectiveUri => "while parsing a %TAG directive"
  | anchor => "while scanning an anchor"
  | aliasName => "while scanning an alias"
  | tag => "while scanning a tag"
  | tagUri => "while parsing a tag"
  | blockScalar => "while scanning a block scalar"
  | quotedScalar => "while scanning a quoted scalar"
  | quotedEscape => "while parsing a quoted scalar"
  | plainScalar => "while scanning a plain scalar"
  | node => "while parsing a node"
  | blockNode => "while parsing a block node"
  | flowNode => "while parsing a flow node"
  | blockCollection => "while parsing a block collection"
  | blockMapping => "while parsing a block mapping"
  | flowSequence => "while parsing a flow sequence"
  | flowMapping => "while parsing a flow mapping"

/-- A problem with its place, and the activity that met it with the place where it began. -/
structure SyntaxError where
  problem : Problem
  place : Mark
  activity : Option (Activity × Mark) := none
  deriving DecidableEq, Repr

/-- The wording of a syntax error. -/
def SyntaxError.message (e : SyntaxError) : String :=
  e.problem.message ++
    (if e.place.isTold then e.place.suffix
     else if e.problem = .controlCharacter && e.place.index ≠ 0 then
       " at position " ++ toString e.place.index
     else "") ++
    match e.activity with
    | none => ""
    | some (a, began) =>
      ", " ++ a.message ++ (if began.sameSpot e.place then "" else began.suffix)

end LoadSwarm.Yaml
