/-
  The names of a YAML text: anchors, tags and directives.

  * `Name.anchor`: the letters after `&` or `*`.
  * `Name.tag`: the handle and the suffix of a tag; a tag without a handle has the
    handle `!`, and a lone `!` is a suffix without a handle.
  * `Name.directive`: a `%YAML` or `%TAG` line.
-/
import LoadSwarm.Yaml.Lexer.Scalar

namespace LoadSwarm.Yaml.Lexer

/-- A character that may come right after a name. -/
def endsName (cs : List Char) : Bool :=
  endsWord cs ||
    match cs with
    | c :: _ => c = '?' || c = ':' || c = ',' || c = ']' || c = '}' || c = '%' || c = '@' || c.toNat = 0x60
    | [] => true

/-- Reads the name of an anchor or alias from its indicator. -/
def anchorName (reading : Activity) (c : Cursor) : Except SyntaxError (String × Cursor) :=
  let (name, after) := c.skip.takeWhile isWordChar
  if name = [] || !endsName after.rest then .error ⟨.noName, after.mark, some (reading, c.mark)⟩
  else .ok (String.ofList name, after)

/-! ## Octets -/

/-- The number of octets of a character that begins with the given one. -/
def octetCount? (octet : Nat) : Option Nat :=
  if octet < 0x80 then some 1
  else if 0xC0 ≤ octet && octet < 0xE0 then some 2
  else if 0xE0 ≤ octet && octet < 0xF0 then some 3
  else if 0xF0 ≤ octet && octet < 0xF8 then some 4
  else none

/-- An octet written as `%` and two hexadecimal digits. -/
def escapedOctet? (cs : List Char) : Option Nat :=
  match cs with
  | '%' :: a :: b :: _ => do
    let x ← hexDigit? a
    let y ← hexDigit? b
    return 16 * x + y
  | _ => none

/-- Takes the further octets of a character. -/
def furtherOctets (failure : Problem → Mark → SyntaxError) :
    Nat → Nat → Cursor → Except SyntaxError (Nat × Cursor)
  | 0, v, c => .ok (v, c)
  | n + 1, v, c =>
    match escapedOctet? c.rest with
    | none => .error (failure .noEscapedOctet c.mark)
    | some o =>
      if o / 64 = 2 then furtherOctets failure n (64 * v + o % 64) (c.skipN 3)
      else .error (failure .badTrailingOctet c.mark)

/-- Takes a character written in octets. -/
def escapedOctets (failure : Problem → Mark → SyntaxError) (c : Cursor) :
    Except SyntaxError (Char × Cursor) :=
  match escapedOctet? c.rest with
  | none => .error (failure .noEscapedOctet c.mark)
  | some o =>
    match octetCount? o with
    | none => .error (failure .badLeadingOctet c.mark)
    | some 1 => .ok (Char.ofNat o, c.skipN 3)
    | some n => do
      let (v, c) ← furtherOctets failure (n - 1) (o % Nat.pow 2 (7 - n)) (c.skipN 3)
      return (Char.ofNat v, c)

/-! ## Tags -/

/-- A character of a tag; brackets and commas only where the whole URI is written. -/
def isUriChar (whole : Bool) (c : Char) : Bool :=
  isWordChar c || ";/?:@&=+$.%!~*'()".toList.contains c || (whole && (c = ',' || c = '[' || c = ']'))

/-- Takes the characters of a tag. -/
def uriChars (whole : Bool) (failure : Problem → Mark → SyntaxError) :
    Nat → List Char → Cursor → Except SyntaxError (List Char × Cursor)
  | 0, text, c => .ok (text, c)
  | fuel + 1, text, c =>
    match c.peek? with
    | none => .ok (text, c)
    | some x =>
      if !isUriChar whole x then .ok (text, c)
      else if x = '%' then do
        let (y, c) ← escapedOctets failure c
        uriChars whole failure fuel (text ++ [y]) c
      else uriChars whole failure fuel (text ++ [x]) c.skip

/-- Reads the URI of a tag; `head` is what was read of it already. -/
def uri (whole : Bool) (reading : Activity) (start : Mark) (head : List Char) (c : Cursor) :
    Except SyntaxError (List Char × Cursor) := do
  let failure := fun p m => SyntaxError.mk p m (some (reading, start))
  let (text, after) ← uriChars whole failure c.rest.length head.tail c
  if head = [] && after.mark = c.mark then .error (failure .noTagUri after.mark)
  else return (text, after)

/-- Takes `!`, letters, and `!` again if it comes. -/
def handle (c : Cursor) : List Char × Cursor :=
  let (name, after) := c.skip.takeWhile isWordChar
  if after.sees '!' then ('!' :: name ++ ['!'], after.skip) else ('!' :: name, after)

/-- Whether a handle is closed by a second mark. -/
def isClosed (handle : List Char) : Bool := 2 ≤ handle.length && handle.getLast? = some '!'

/-- Reads the handle and the suffix of a tag. -/
def tagParts (c : Cursor) : Except SyntaxError (List Char × List Char × Cursor) := do
  if c.skip.sees '<' then
    let (suffix, after) ← uri true .tagUri c.mark [] (c.skipN 2)
    if after.sees '>' then return ([], suffix, after.skip)
    else .error ⟨.noTagClose, after.mark, some (.tag, c.mark)⟩
  else
    let (front, after) := handle c
    if isClosed front then
      let (suffix, after) ← uri false .tagUri c.mark [] after
      return (front, suffix, after)
    else
      let (suffix, after) ← uri false .tagUri c.mark front after
      if suffix = [] then return ([], ['!'], after) else return (['!'], suffix, after)

/-- Reads a tag from its mark. -/
def tag (flow : Bool) (c : Cursor) : Except SyntaxError (String × String × Cursor) := do
  let (front, suffix, after) ← tagParts c
  if (flow && after.sees ',') || endsWord after.rest then
    return (String.ofList front, String.ofList suffix, after)
  else .error ⟨.noSpaceOrLineEnd, after.mark, some (.tag, c.mark)⟩

/-! ## Directives -/

/-- Reads a number of at most nine digits. -/
def versionNumber (start : Mark) (c : Cursor) : Except SyntaxError (Nat × Cursor) :=
  let (digits, after) := c.takeWhile Char.isDigit
  if digits = [] then .error ⟨.noVersionNumber, c.mark, some (.versionDirective, start)⟩
  else if 9 < digits.length then
    .error ⟨.longVersion, (c.skipN 9).mark, some (.versionDirective, start)⟩
  else .ok (digits.foldl (fun n d => 10 * n + (d.toNat - '0'.toNat)) 0, after)

/-- Reads the two numbers of a version. -/
def version (start : Mark) (c : Cursor) : Except SyntaxError (TokenKind × Cursor) := do
  let (major, c) ← versionNumber start c.spaces
  if !c.sees '.' then .error ⟨.noVersionPoint, c.mark, some (.versionDirective, start)⟩
  let (minor, c) ← versionNumber start c.skip
  return (.version major minor, c)

/-- Reads a handle and what it stands for. -/
def tagMeaning (start : Mark) (c : Cursor) : Except SyntaxError (TokenKind × Cursor) := do
  let c := c.spaces
  if !c.sees '!' then .error ⟨.noTagMark, c.mark, some (.tagDirectiveHandle, start)⟩
  let (front, c) := handle c
  if !(isClosed front || front = ['!']) then
    .error ⟨.noTagMark, c.mark, some (.tagDirectiveHandleEnd, start)⟩
  if !(c.peek?.any isBlank) then .error ⟨.noSpace, c.mark, some (.tagDirective, start)⟩
  let (text, c) ← uri true .tagDirectiveUri start [] c.spaces
  if !endsWord c.rest then .error ⟨.noSpaceOrLineEnd, c.mark, some (.tagDirective, start)⟩
  return (.tagDirective (String.ofList front) (String.ofList text), c)

/-- Reads a directive from its mark: what it says, where that ends, and what comes after its
    line. -/
def directive (c : Cursor) : Except SyntaxError (TokenKind × Mark × Cursor) := do
  let start := c.mark
  let (name, after) := c.skip.takeWhile isWordChar
  if name = [] then .error ⟨.noDirectiveName, after.mark, some (.directive, start)⟩
  if !endsWord after.rest then .error ⟨.badDirectiveName, after.mark, some (.directive, start)⟩
  let (kind, after) ←
    if name = "YAML".toList then version start after
    else if name = "TAG".toList then tagMeaning start after
    else .error ⟨.unknownDirective, after.mark, some (.directive, start)⟩
  let last := after.mark
  let after := after.spaces.comment
  if !endsLine after.rest then .error ⟨.noLineEnd, after.mark, some (.directive, start)⟩
  return (kind, last, after.lineEnd.2)

end LoadSwarm.Yaml.Lexer
