/-
  A tree of files and directories.

  * `FileTree`: what is at each place; a place is a list of names.
  * `FilePath`: a path as names, `.` and `..` among them.
  * `FileTree.read`, `write`, `makeDirectory`, `makeDirectories`: what becomes of
    the tree, and why an operation failed.  An operation on one place leaves all
    the others as they are.
-/
import LoadSwarm.Text.Blank

namespace LoadSwarm

/-- Why an operation on files failed. -/
inductive FileError where
  | notFound
  | notDirectory
  | isDirectory
  | alreadyExists
  | nameTooLong
  | nulInName
  | notText
  deriving DecidableEq, Repr

/-- The wording of the reason. -/
def FileError.message : FileError → String
  | notFound => "No such file or directory (os error 2)"
  | notDirectory => "Not a directory (os error 20)"
  | isDirectory => "Is a directory (os error 21)"
  | alreadyExists => "File exists (os error 17)"
  | nameTooLong => "File name too long (os error 36)"
  | nulInName => "file name contained an unexpected NUL byte"
  | notText => "stream did not contain valid UTF-8"

/-- What a file holds. -/
inductive FileContent where
  | text (s : String)
  /-- octets that are no text -/
  | binary
  deriving DecidableEq, Repr

/-- What is at a place. -/
inductive FileEntry where
  | directory
  | file (content : FileContent)
  deriving DecidableEq, Repr

/-! ## Paths -/

/-- A path. -/
structure FilePath where
  text : String
  deriving DecidableEq, Repr

namespace FilePath

/-- Whether a path begins at the outermost directory. -/
def isAbsolute (p : FilePath) : Bool := Text.startsWith "/" p.text

/-- The names between the slashes. -/
def names (p : FilePath) : List String := (Text.split '/' p.text).filter (· ≠ "")

/-- Whether a path ends in a slash and so names a directory. -/
def asDirectory (p : FilePath) : Bool := p.text.toList.getLast? = some '/'

/-- The names that count: `.` only in front. -/
def steps (p : FilePath) : List String :=
  match p.names with
  | [] => []
  | n :: ns => (if n = "." && p.isAbsolute then [] else [n]) ++ ns.filter (· ≠ ".")

/-- The path of some names. -/
def ofSteps (absolute : Bool) (names : List String) : FilePath :=
  ⟨(if absolute then "/" else "") ++ "/".intercalate names⟩

/-- The path of the directory around; the outermost one has none. -/
def parent? (p : FilePath) : Option FilePath :=
  match p.steps with
  | [] => none
  | s :: ss => some (ofSteps p.isAbsolute ((s :: ss).dropLast))

/-- The longest path in octets. -/
def maxOctets : Nat := 4095

/-- The longest name in octets. -/
def maxNameOctets : Nat := 255

end FilePath

/-- The name of the outermost directory among places. -/
def outermost : String := "/"

/-- Whether a place is that of the directory that relative paths begin in, of one around it, or of
    the outermost one.  These directories always exist. -/
def isGround (place : List String) : Bool := place.all (· = "..") || place = [outermost]

/-! ## Trees -/

/-- Files and directories by their places.  The directory that relative paths begin in has the
    empty place, and those around it have places of `..` alone. -/
structure FileTree where
  entries : List (List String × FileEntry) := []
  deriving DecidableEq, Repr

namespace FileTree

/-- What is at a place. -/
def at? (t : FileTree) (place : List String) : Option FileEntry :=
  if isGround place then some .directory
  else (t.entries.find? (·.1 = place)).map (·.2)

/-- The tree with something else at a place. -/
def put (t : FileTree) (place : List String) (e : FileEntry) : FileTree :=
  ⟨(place, e) :: t.entries.filter (·.1 ≠ place)⟩

/-- The place that a name leads to from a directory. -/
def stepTo (place : List String) (name : String) : List String :=
  if name = "." then place
  else if name = ".." then
    if place = [outermost] then place
    else if isGround place then place ++ [name]
    else place.dropLast
  else place ++ [name]

/-- Follows names through directories; the last one may lead to anything or nothing. -/
def follow (t : FileTree) (place : List String) : List String → Except FileError (List String)
  | [] => .ok place
  | name :: rest =>
    if FilePath.maxNameOctets < name.utf8ByteSize then .error .nameTooLong
    else
      let next := stepTo place name
      if rest = [] then .ok next
      else
        match t.at? next with
        | some .directory => follow t next rest
        | some (.file _) => .error .notDirectory
        | none => .error .notFound

/-- The place that a path leads to. -/
def locate (t : FileTree) (p : FilePath) : Except FileError (List String) :=
  if p.text.toList.contains '\x00' then .error .nulInName
  else if p.text = "" then .error .notFound
  else if FilePath.maxOctets < p.text.utf8ByteSize then .error .nameTooLong
  else follow t (if p.isAbsolute then [outermost] else []) p.names

/-- What a path leads to. -/
def look (t : FileTree) (p : FilePath) : Except FileError FileEntry := do
  match t.at? (← t.locate p) with
  | some .directory => return .directory
  | some (.file c) => if p.asDirectory then .error .notDirectory else return .file c
  | none => .error .notFound

/-- Whether a path leads to anything. -/
def exists_ (t : FileTree) (p : FilePath) : Bool := (t.look p).toBool

/-- Whether a path leads to a directory. -/
def isDirectory (t : FileTree) (p : FilePath) : Bool :=
  match t.look p with
  | .ok .directory => true
  | _ => false

/-- The text of a file. -/
def read (t : FileTree) (p : FilePath) : Except FileError String := do
  match ← t.look p with
  | .directory => .error .isDirectory
  | .file .binary => .error .notText
  | .file (.text s) => return s

/-- Writes a file, a new one or in place of the old one. -/
def write (t : FileTree) (p : FilePath) (content : FileContent) : Except FileError FileTree := do
  let place ← t.locate p
  if p.asDirectory then .error .isDirectory
  match t.at? place with
  | some .directory => .error .isDirectory
  | _ => return t.put place (.file content)

/-- Makes a directory where nothing is. -/
def makeDirectory (t : FileTree) (p : FilePath) : Except FileError FileTree := do
  let place ← t.locate p
  match t.at? place with
  | some _ => .error .alreadyExists
  | none => return t.put place .directory

/-- Makes a directory unless it is there. -/
def ensureDirectory (t : FileTree) (p : FilePath) : FileTree × Except FileError Unit :=
  match t.makeDirectory p with
  | .ok t => (t, .ok ())
  | .error e => (t, if t.isDirectory p then .ok () else .error e)

/-- Makes a directory and those around it, at most `fuel` of them. -/
def makeWithParents : Nat → FileTree → FilePath → FileTree × Except FileError Unit
  | 0, t, p => t.ensureDirectory p
  | fuel + 1, t, p =>
    if p.text = "" then (t, .ok ())
    else
      match t.makeDirectory p with
      | .ok t => (t, .ok ())
      | .error e =>
        if e = .notFound then
          match p.parent? with
          | none => (t, .error e)
          | some q =>
            match makeWithParents fuel t q with
            | (t, .ok ()) => t.ensureDirectory p
            | (t, .error e) => (t, .error e)
        else (t, if t.isDirectory p then .ok () else .error e)

/-- Makes a directory and those around it where they are missing. -/
def makeDirectories (t : FileTree) (p : FilePath) : FileTree × Except FileError Unit :=
  makeWithParents (p.names.length + 1) t p

/-- Makes the directory that a path lies in. -/
def makeRoom (t : FileTree) (p : FilePath) : FileTree × Except FileError Unit :=
  match p.parent? with
  | some q => if q.text = "" then (t, .ok ()) else t.makeDirectories q
  | none => (t, .ok ())

/-- The tree of some files with the directories around them; a file that cannot be written is
    left out. -/
def ofFiles (files : List (FilePath × FileContent)) : FileTree :=
  files.foldl (fun t f =>
    let t := (t.makeRoom f.1).1
    (t.write f.1 f.2).toOption.getD t) {}

end FileTree

end LoadSwarm
