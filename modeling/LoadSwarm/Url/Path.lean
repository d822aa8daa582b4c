/-
  Paths of URLs as segments.

  * `splitSegments`: the segments of a path text; special schemes also end a
    segment at a backslash.
  * `Resolved.push`: adds a segment.  `.` adds nothing and `..` takes the last
    segment away; as the last of all they leave an empty segment.
  * `segmentsOf`: the encoded segments of a path text.
  * `Url.withPath`: the URL with another path, everything else kept.
-/
import LoadSwarm.Url.Basic

namespace LoadSwarm.Url

/-- Tabs and line ends have no meaning anywhere in a URL. -/
def isSkipped (c : Char) : Bool := c = '\t' || c = '\n' || c = '\r'

/-- A character that ends a segment. -/
def isSlash (kind : SchemeKind) (c : Char) : Bool := c = '/' || (kind.isSpecial && c = '\\')

/-- The segments between the slashes of a path text. -/
def splitSegments (kind : SchemeKind) : List Char → List (List Char)
  | [] => [[]]
  | c :: cs =>
    if isSlash kind c then [] :: splitSegments kind cs
    else match splitSegments kind cs with
      | [] => [[c]]
      | p :: ps => (c :: p) :: ps

/-- A segment with encoded points written out. -/
def plainDots : List Char → List Char
  | '%' :: '2' :: 'e' :: cs => '.' :: plainDots cs
  | '%' :: '2' :: 'E' :: cs => '.' :: plainDots cs
  | c :: cs => c :: plainDots cs
  | [] => []

/-- A segment that stands for the place itself. -/
def isSingleDot (s : List Char) : Bool := plainDots s = ['.']

/-- A segment that stands for the place above. -/
def isDoubleDot (s : List Char) : Bool := plainDots s = ['.', '.']

/-- A letter and a colon or bar. -/
def isDriveLetter : List Char → Bool
  | [a, b] => a.isAlpha && (b = ':' || b = '|')
  | _ => false

/-- The segments without the last one; the letter of a drive stays. -/
def dropLastSegment (kind : SchemeKind) (done : List (List Char)) : List (List Char) :=
  match done with
  | [d] => if kind = .file ∧ isDriveLetter d then [d] else []
  | ds => ds.dropLast

/-- Adds one segment to those before it. -/
def pushSegment (kind : SchemeKind) (last : Bool) (done : List (List Char)) (s : List Char) :
    List (List Char) :=
  if isDoubleDot s then dropLastSegment kind done ++ (if last then [[]] else [])
  else if isSingleDot s then done ++ (if last then [[]] else [])
  else if kind = .file ∧ done = [] ∧ isDriveLetter s then done ++ [[s.headD 'C', ':']]
  else done ++ [encode pathSet s]

/-- Adds the segments one after the other. -/
def pushSegments (kind : SchemeKind) (done : List (List Char)) : List (List Char) → List (List Char)
  | [] => done
  | [s] => pushSegment kind true done s
  | s :: t :: rest => pushSegments kind (pushSegment kind false done s) (t :: rest)

/-- A path of the file scheme has no empty segments at its front. -/
def trimLeading (kind : SchemeKind) (parts : List (List Char)) : List (List Char) :=
  if kind = .file then
    match parts.dropWhile (· = []) with
    | [] => [[]]
    | ps => ps
  else parts

/-- The encoded segments of a path text without its first slash. -/
def segmentsOf (kind : SchemeKind) (cs : List Char) : List (List Char) :=
  trimLeading kind (pushSegments kind [] (splitSegments kind (cs.filter (!isSkipped ·))))

/-- The path that a text writes: segments after an optional first slash.  Only outside the
    special schemes can a path be empty. -/
def readPath (kind : SchemeKind) (cs : List Char) : Path :=
  match cs.filter (!isSkipped ·) with
  | [] => if kind.isSpecial then .segments [[]] else .segments []
  | c :: rest => if isSlash kind c then .segments (segmentsOf kind rest) else .segments (segmentsOf kind (c :: rest))

/-- The URL with the path that a text writes.  An opaque path stays opaque. -/
def withPath (u : Url) (cs : List Char) : Url :=
  match u.path with
  | .opaquePath _ =>
    { u with path := .opaquePath (match cs with
        | '/' :: rest => "%2F".toList ++ encode controls (rest.filter (!isSkipped ·))
        | rest => encode controls (rest.filter (!isSkipped ·))) }
  | .segments _ => { u with path := readPath (schemeKind u.scheme) cs }

end LoadSwarm.Url
