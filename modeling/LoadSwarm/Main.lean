/-
  The program.

  * `main`: runs the words of a command line.

  This layer reads variables, files and the clock, and prints.  It opens no
  connections: every request of a run is refused.
-/
import LoadSwarm.Program.Course
import Std.Time.DateTime.Timestamp

namespace LoadSwarm.Main

/-- The variables that the program looks at. -/
def readEnvironment : IO Environment := do
  let names := Program.logVariable :: Variable.all.map (·.name defaultFront)
  let values ← names.mapM fun name => return (name, ← IO.getEnv name)
  return fun name => (values.lookup name).join

/-- What a path leads to. -/
def readEntry (path : String) : IO (Option FileEntry) := do
  match ← (IO.FS.readBinFile path).toBaseIO with
  | .ok bytes =>
    match String.fromUTF8? bytes with
    | some s => return some (.file (.text s))
    | none => return some (.file .binary)
  | .error (.inappropriateType _ 21 _) => return some .directory
  | .error _ => return none

/-- The tree with what a path and the paths on the way to it lead to. -/
def readAround (files : FileTree) (path : FilePath) : IO FileTree := do
  let steps := path.steps
  let fronts := (List.range steps.length).map fun n => FilePath.ofSteps path.isAbsolute (steps.take (n + 1))
  fronts.foldlM (fun files front => do
    match files.locate front with
    | .ok place => return ((← readEntry front.text).map (files.put place)).getD files
    | .error _ => return files) files

/-- The paths that an invocation mentions. -/
def pathsOf (words : List String) : List FilePath :=
  match Invocation.read words with
  | .error _ => []
  | .ok i =>
    let other := match i.command with
      | .validate path => [path]
      | .generate path _ => [path]
      | _ => []
    (i.config.toList ++ other).map FilePath.mk

/-- The path of a place. -/
def pathOf (place : List String) : String :=
  match place with
  | "/" :: rest => (FilePath.ofSteps true rest).text
  | _ => (FilePath.ofSteps false place).text

/-- Writes what is new in a tree, directories before the files in them. -/
def writeChanges (old new : FileTree) : IO Unit := do
  let changed := new.entries.filter fun e => old.at? e.1 ≠ some e.2
  for (place, entry) in changed.mergeSort fun a b => a.1.length ≤ b.1.length do
    match entry with
    | .directory => IO.FS.createDirAll (pathOf place)
    | .file (.text s) => IO.FS.writeFile (pathOf place) s
    | .file .binary => pure ()

/-- The moment that it is. -/
def moment : IO Timestamp := do
  let nanos := (← Std.Time.Timestamp.now).toNanosecondsSinceUnixEpoch.val
  return ⟨nanos.fdiv 1000000000, (nanos.fmod 1000000000).toNat⟩

/-- Waits until some milliseconds have passed since a start. -/
def waitUntil (start millis : Nat) : IO Unit := do
  let passed := (← IO.monoMsNow) - start
  if passed < millis then IO.sleep (UInt32.ofNat (millis - passed))

/-- Drives a run and prints the lines of its log as they come. -/
partial def drive (w : Surroundings (User WordStream)) (sink : LogSink) (start printed : Nat)
    (p : Schedule (User WordStream)) : IO (Except RunFailure StatsReport) := do
  let fresh := (p.run.events.take (p.run.events.length - printed)).reverse.map (·.2.record)
  if !fresh.isEmpty then
    for line in Program.linesOf sink (some (← moment).microText) fresh do IO.eprint line
  match p.run.result?, p.next? w with
  | some result, _ => return result
  | none, some next =>
    waitUntil start next.run.now
    drive w sink start p.run.events.length next
  | none, none => return .error (.crashed "nothing is left to do")

/-- The random words of a seed. -/
def words (seed : UInt64) (i : Nat) : UInt64 :=
  let s := WordStream.ofSeed seed
  (s.wordAt (2 * i)).toUInt64 ||| ((s.wordAt (2 * i + 1)).toUInt64 <<< 32)

/-- A random seed. -/
def randomSeed : IO UInt64 := do
  let bytes ← IO.getRandomBytes 8
  return bytes.foldl (fun n b => n <<< 8 ||| b.toUInt64) 0

/-- The end of a run. -/
def run (r : LoadRun) (sink : LogSink) : IO Ending := do
  let w := r.surroundings Network.empty (words (← randomSeed)) (words (← randomSeed)) (← moment)
  let result ← drive w sink (← IO.monoMsNow) 0 { run := r.swarm.begin w 0 }
  return Program.finish r sink (some (← moment).microText) [] result

/-- Prints an ending. -/
def tell (e : Ending) : IO UInt32 := do
  IO.print e.output
  IO.eprint e.errorOutput
  return UInt32.ofNat e.status

end LoadSwarm.Main

/-- Runs the words of a command line. -/
def main (words : List String) : IO UInt32 := do
  let env ← LoadSwarm.Main.readEnvironment
  let files ← (LoadSwarm.Main.pathsOf words).foldlM LoadSwarm.Main.readAround {}
  let stamp := (← LoadSwarm.Main.moment).microText
  let (left, course) := LoadSwarm.Program.start LoadSwarm.Pattern.reader env files (some stamp) words
  LoadSwarm.Main.writeChanges files left
  match course with
  | .ended e => LoadSwarm.Main.tell e
  | .running sink lines r =>
    for line in lines do IO.eprint line
    LoadSwarm.Main.tell (← LoadSwarm.Main.run r sink)
