/-
  The scalars of a YAML text.

  * `Gap`: the blanks and line ends between two words of a scalar; `Gap.folded`
    makes a single line end a space and drops one of several.
  * `Scalar.plain`, `Scalar.quoted`, `Scalar.block`: read a scalar, its text and
    its places.
-/
import LoadSwarm.Yaml.Cursor
import LoadSwarm.Yaml.Token

namespace LoadSwarm.Yaml.Lexer

/-! ## Between words -/

/-- Blanks and line ends between two words. -/
structure Gap where
  /-- blanks before any line end -/
  blanks : List Char := []
  /-- the first line end -/
  leading : List Char := []
  /-- the further line ends -/
  trailing : List Char := []
  /-- a line end was passed -/
  broken : Bool := false
  deriving DecidableEq, Repr

/-- What a gap contributes to the text. -/
def Gap.folded (g : Gap) : List Char :=
  if g.broken then
    if g.leading = ['\n'] then (if g.trailing = [] then [' '] else g.trailing)
    else g.leading ++ g.trailing
  else g.blanks

/-- A gap with one more blank; after a line end it is indentation. -/
def Gap.blank (g : Gap) (c : Char) : Gap :=
  if g.broken then g else { g with blanks := g.blanks ++ [c] }

/-- A gap with one more line end. -/
def Gap.line (g : Gap) (text : List Char) : Gap :=
  if g.broken then { g with trailing := g.trailing ++ text }
  else { g with blanks := [], leading := text, broken := true }

/-- Takes blanks and line ends.  A tab in the indentation of a plain scalar, left of column
    `indent`, is an error. -/
def scanGap (tabError : Option (Nat × SyntaxError)) :
    Nat → Gap → Cursor → Except SyntaxError (Gap × Cursor)
  | 0, g, c => .ok (g, c)
  | fuel + 1, g, c =>
    match c.peek? with
    | none => .ok (g, c)
    | some x =>
      if isBlank x then
        match tabError with
        | some (indent, e) =>
          if g.broken && c.mark.column < indent && x = '\t' then .error { e with place := c.mark }
          else scanGap tabError fuel (g.blank x) c.skip
        | none => scanGap tabError fuel (g.blank x) c.skip
      else if isBreak x then
        let (text, c) := c.lineEnd
        scanGap tabError fuel (g.line text) c
      else .ok (g, c)

/-! ## Plain scalars -/

/-- A character that ends a plain scalar in a flow collection. -/
def isFlowIndicator (c : Char) : Bool :=
  c = ',' || c = '[' || c = ']' || c = '{' || c = '}'

/-- Takes a word of a plain scalar. -/
def plainWord (flow : Bool) (start : Mark) : Mark → List Char →
    Except SyntaxError (List Char × Cursor)
  | m, [] => .ok ([], ⟨[], m⟩)
  | m, x :: cs =>
    let meetsIndicator := match cs with
      | y :: _ => isFlowIndicator y || y = '?'
      | [] => false
    if isBlank x || isBreak x then .ok ([], ⟨x :: cs, m⟩)
    else if flow && x = ':' && meetsIndicator then
      .error ⟨.colonInFlow, m, some (.plainScalar, start)⟩
    else if (x = ':' && endsWord cs) || (flow && isFlowIndicator x) then .ok ([], ⟨x :: cs, m⟩)
    else
      match plainWord flow start m.next cs with
      | .ok (w, c) => .ok (x :: w, c)
      | .error e => .error e

/-- A scalar that was read: its text, where it ends, what comes after it, and whether lines
    were passed after its end. -/
structure Scanned where
  text : List Char
  last : Mark
  cursor : Cursor
  passedLine : Bool := false

/-- Takes words and gaps; `gap` is the one before the next word. -/
def plainFrom (flow : Bool) (indent : Nat) (start : Mark) :
    Nat → List Char → Gap → Mark → Cursor → Except SyntaxError Scanned
  | 0, text, gap, last, c => .ok ⟨text, last, c, gap.broken⟩
  | fuel + 1, text, gap, last, c =>
    if c.atDocumentMark || c.sees '#' then .ok ⟨text, last, c, gap.broken⟩
    else do
      let (word, after) ← plainWord flow start c.mark c.rest
      let (text, last, broken) :=
        if word = [] then (text, last, gap.broken) else (text ++ gap.folded ++ word, after.mark, false)
      if !(endsWord after.rest) || after.rest = [] then return ⟨text, last, after, broken⟩
      let (gap, after) ←
        scanGap (some (indent, ⟨.tabAgainstIndent, start, some (.plainScalar, start)⟩))
          after.rest.length {} after
      if !flow && after.mark.column < indent then return ⟨text, last, after, gap.broken⟩
      plainFrom flow indent start fuel text gap last after

/-- Reads a plain scalar whose further lines are indented to column `indent` or more. -/
def plain (flow : Bool) (indent : Nat) (c : Cursor) : Except SyntaxError Scanned :=
  plainFrom flow indent c.mark (c.rest.length + 1) [] {} c.mark c

/-! ## Quoted scalars -/

/-- The character that an escape of one letter stands for. -/
def shortEscape? : Char → Option Char
  | '0' => some '\x00'
  | 'a' => some '\x07'
  | 'b' => some '\x08'
  | 't' => some '\t'
  | '\t' => some '\t'
  | 'n' => some '\n'
  | 'v' => some '\x0B'
  | 'f' => some '\x0C'
  | 'r' => some '\r'
  | 'e' => some '\x1B'
  | ' ' => some ' '
  | '"' => some '"'
  | '/' => some '/'
  | '\\' => some '\\'
  | 'N' => some '\u0085'
  | '_' => some '\u00A0'
  | 'L' => some '\u2028'
  | 'P' => some '\u2029'
  | _ => none

/-- The number of hexadecimal digits of a long escape. -/
def longEscape? : Char → Option Nat
  | 'x' => some 2
  | 'u' => some 4
  | 'U' => some 8
  | _ => none

/-- The value of a hexadecimal digit. -/
def hexDigit? (c : Char) : Option Nat :=
  if c.isDigit then some (c.toNat - '0'.toNat)
  else if 'a' ≤ c && c ≤ 'f' then some (c.toNat - 'a'.toNat + 10)
  else if 'A' ≤ c && c ≤ 'F' then some (c.toNat - 'A'.toNat + 10)
  else none

/-- The number that exactly `n` hexadecimal digits write. -/
def hexNumber? : Nat → Nat → List Char → Option Nat
  | 0, v, _ => some v
  | _ + 1, _, [] => none
  | n + 1, v, c :: cs => (hexDigit? c).bind fun d => hexNumber? n (16 * v + d) cs

/-- The character of a long escape whose digits come next. -/
def escapedChar (start : Mark) (digits : Nat) (c : Cursor) : Except SyntaxError (Char × Cursor) :=
  match hexNumber? digits 0 c.rest with
  | none => .error ⟨.noHexNumber, c.mark, some (.quotedEscape, start)⟩
  | some v =>
    if (0xD800 ≤ v && v ≤ 0xDFFF) || 0x10FFFF < v then
      .error ⟨.badCodePoint, c.mark, some (.quotedEscape, start)⟩
    else .ok (Char.ofNat v, c.skipN digits)

/-- How a word of a quoted scalar ends. -/
inductive WordEnd where
  | quote
  | gap
  | escapedLine
  deriving DecidableEq, Repr

/-- Takes a word of a quoted scalar. -/
def quotedWord (single : Bool) (start : Mark) :
    Nat → List Char → Cursor → Except SyntaxError (List Char × WordEnd × Cursor)
  | 0, text, c => .ok (text, .gap, c)
  | fuel + 1, text, c =>
    match c.rest with
    | [] => .ok (text, .gap, c)
    | x :: cs =>
      if isBlank x || isBreak x then .ok (text, .gap, c)
      else if single then
        if x = '\'' then
          match cs with
          | '\'' :: _ => quotedWord single start fuel (text ++ ['\'']) (c.skipN 2)
          | _ => .ok (text, .quote, c)
        else quotedWord single start fuel (text ++ [x]) c.skip
      else if x = '"' then .ok (text, .quote, c)
      else if x = '\\' then
        match cs with
        | [] => .error ⟨.unknownEscape, c.mark, some (.quotedEscape, start)⟩
        | y :: _ =>
          if isBreak y then .ok (text, .escapedLine, c.skip.lineEnd.2)
          else match shortEscape? y with
            | some z => quotedWord single start fuel (text ++ [z]) (c.skipN 2)
            | none =>
              match longEscape? y with
              | none => .error ⟨.unknownEscape, c.mark, some (.quotedEscape, start)⟩
              | some digits => do
                let (z, c) ← escapedChar start digits (c.skipN 2)
                quotedWord single start fuel (text ++ [z]) c
      else quotedWord single start fuel (text ++ [x]) c.skip

/-- Takes words and gaps up to the closing quote. -/
def quotedFrom (single : Bool) (start : Mark) :
    Nat → List Char → Cursor → Except SyntaxError Scanned
  | 0, _, c => .error ⟨.endInQuotes, c.mark, some (.quotedScalar, start)⟩
  | fuel + 1, text, c =>
    if c.atDocumentMark then .error ⟨.documentMarkInQuotes, c.mark, some (.quotedScalar, start)⟩
    else if c.rest = [] then .error ⟨.endInQuotes, c.mark, some (.quotedScalar, start)⟩
    else do
      let (text, ended, c) ← quotedWord single start c.rest.length text c
      if ended = .quote || c.sees (if single then '\'' else '"') then
        return ⟨text, c.skip.mark, c.skip, false⟩
      let (gap, c) ← scanGap none c.rest.length { broken := ended = .escapedLine } c
      quotedFrom single start fuel (text ++ gap.folded) c

/-- Reads a quoted scalar from its opening quote. -/
def quoted (single : Bool) (c : Cursor) : Except SyntaxError Scanned :=
  quotedFrom single c.mark (c.rest.length + 1) [] c.skip

/-! ## Block scalars -/

/-- What becomes of the line ends after a block scalar. -/
inductive Chomping where
  /-- one is kept -/
  | clip
  /-- none is kept -/
  | strip
  /-- all are kept -/
  | keep
  deriving DecidableEq, Repr

/-- Takes an indicator of chomping. -/
def chomping? (c : Cursor) : Option (Chomping × Cursor) :=
  if c.sees '+' then some (.keep, c.skip)
  else if c.sees '-' then some (.strip, c.skip)
  else none

/-- Takes a digit of indentation, which is not zero. -/
def indentDigit? (start : Mark) (c : Cursor) : Except SyntaxError (Option (Nat × Cursor)) :=
  match c.peek? with
  | some x =>
    if x = '0' then .error ⟨.zeroIndent, c.mark, some (.blockScalar, start)⟩
    else if x.isDigit then .ok (some (x.toNat - '0'.toNat, c.skip))
    else .ok none
  | none => .ok none

/-- Takes the indicators of chomping and indentation, in either order. -/
def blockHeader (start : Mark) (c : Cursor) : Except SyntaxError (Chomping × Nat × Cursor) := do
  match chomping? c with
  | some (chomp, c) =>
    match ← indentDigit? start c with
    | some (n, c) => return (chomp, n, c)
    | none => return (chomp, 0, c)
  | none =>
    match ← indentDigit? start c with
    | some (n, c) =>
      match chomping? c with
      | some (chomp, c) => return (chomp, n, c)
      | none => return (.clip, n, c)
    | none => return (.clip, 0, c)

/-- Skips spaces left of column `indent`, all of them where `indent` is zero. -/
def indentSpaces (indent : Nat) (mark : Mark) : List Char → Cursor
  | [] => ⟨[], mark⟩
  | x :: cs =>
    if (indent = 0 || mark.column < indent) && x = ' ' then indentSpaces indent mark.next cs
    else ⟨x :: cs, mark⟩

/-- The empty lines before a line of a block scalar. -/
structure EmptyLines where
  breaks : List Char
  /-- where the last of them ends -/
  last : Mark
  /-- the largest indentation -/
  widest : Nat
  cursor : Cursor

/-- Takes the empty lines before the next line of a block scalar. -/
def emptyLines (indent : Nat) (start : Mark) :
    Nat → EmptyLines → Except SyntaxError EmptyLines
  | 0, e => .ok e
  | fuel + 1, e =>
    let c := indentSpaces indent e.cursor.mark e.cursor.rest
    let e := { e with cursor := c, widest := max e.widest c.mark.column }
    if (indent = 0 || c.mark.column < indent) && c.sees '\t' then
      .error ⟨.tabInIndent, c.mark, some (.blockScalar, start)⟩
    else
      match c.lineEnd with
      | ([], _) => .ok e
      | (text, c) =>
        emptyLines indent start fuel { e with breaks := e.breaks ++ text, last := c.mark, cursor := c }

/-- The state of reading the lines of a block scalar. -/
structure BlockText where
  text : List Char := []
  /-- the line end of the last line -/
  leading : List Char := []
  /-- the empty lines after it -/
  trailing : List Char
  /-- the last line began with a blank -/
  blankBefore : Bool := false
  last : Mark
  cursor : Cursor

/-- Takes the lines of a block scalar. -/
def blockLines (folded : Bool) (indent : Nat) (start : Mark) :
    Nat → BlockText → Except SyntaxError BlockText
  | 0, b => .ok b
  | fuel + 1, b =>
    match b.cursor.peek? with
    | none => .ok b
    | some x =>
      if b.cursor.mark.column ≠ indent then .ok b
      else do
        let blank := isBlank x
        let joint :=
          if folded && b.leading = ['\n'] && !b.blankBefore && !blank then
            (if b.trailing = [] then [' '] else [])
          else b.leading
        let (line, c) := b.cursor.takeWhile (!isBreak ·)
        let (leading, c) := c.lineEnd
        let e ← emptyLines indent start (c.rest.length + 1) ⟨[], c.mark, 0, c⟩
        blockLines folded indent start fuel
          { text := b.text ++ joint ++ b.trailing ++ line
            leading := leading
            trailing := e.breaks
            blankBefore := blank
            last := e.last
            cursor := e.cursor }

/-- Reads a block scalar from its indicator; `parent` is the indentation around it. -/
def block (folded : Bool) (parent : Int) (c : Cursor) : Except SyntaxError Scanned := do
  let start := c.mark
  let (chomp, increment, c) ← blockHeader start c.skip
  let c := c.spaces.comment
  if !endsLine c.rest then .error ⟨.noLineEnd, c.mark, some (.blockScalar, start)⟩
  let c := c.lineEnd.2
  let asked := if increment = 0 then 0 else (max parent 0).toNat + increment
  let e ← emptyLines asked start (c.rest.length + 1) ⟨[], c.mark, 0, c⟩
  let indent := if asked = 0 then max (max e.widest (parent + 1).toNat) 1 else asked
  let b ← blockLines folded indent start (e.cursor.rest.length + 1)
    { trailing := e.breaks, last := e.last, cursor := e.cursor }
  let kept := match chomp with
    | .strip => []
    | .clip => b.leading
    | .keep => b.leading ++ b.trailing
  return ⟨b.text ++ kept, b.last, b.cursor, false⟩

end LoadSwarm.Yaml.Lexer
