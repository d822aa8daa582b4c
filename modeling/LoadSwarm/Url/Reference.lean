/-
  References to other URLs.

  * `Url.join`: the URL that a reference means inside a URL of the network.  A
    reference without a scheme keeps the parts of the URL up to the first that it
    writes itself.
-/
import LoadSwarm.Url.Parser

namespace LoadSwarm.Url

/-- The segments of a path, none for an opaque one. -/
def Path.segmentList : Path → List (List Char)
  | .segments ps => ps
  | .opaquePath _ => []

/-- The URL with the path, query and fragment that a text writes relative to the last segment. -/
def joinPath (base : Url) (kind : SchemeKind) (cs : List Char) : Url :=
  let tail := readTail kind (cs.dropWhile (!endsPath ·))
  let above := dropLastSegment kind base.path.segmentList
  let path := pushSegments kind above (splitSegments kind (cs.takeWhile (!endsPath ·)))
  { base with path := .segments path, query := tail.1, fragment := tail.2 }

/-- The URL that a reference without a scheme means. -/
def joinRelative (base : Url) (cs : List Char) : Except UrlError Url :=
  let kind := schemeKind base.scheme
  match cs with
  | [] => .ok { base with fragment := none }
  | '?' :: _ =>
    let tail := readTail kind cs
    .ok { base with query := tail.1, fragment := tail.2 }
  | '#' :: _ => .ok { base with fragment := (readTail kind cs).2 }
  | c :: _ =>
    if isSlash kind c then
      if 2 ≤ (cs.takeWhile (isSlash kind)).length then
        readAfterSlashes base.scheme kind (cs.dropWhile (isSlash kind))
      else .ok (readBelow base.scheme kind base.authority cs)
    else .ok (joinPath base kind cs)

/-- The URL that a reference means inside a URL of the network. -/
def join (base : Url) (reference : String) : Except UrlError Url :=
  let cs := cleanInput reference.toList
  match readScheme? cs with
  | none => joinRelative base cs
  | some (scheme, rest) =>
    if scheme = base.scheme ∧ (rest.takeWhile (isSlash (schemeKind scheme))).length < 2 then
      joinRelative base rest
    else parseChars cs

end LoadSwarm.Url
