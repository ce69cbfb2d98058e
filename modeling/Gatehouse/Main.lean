import Gatehouse.Launch.Console
import Gatehouse.Launch.Session
import Std.Time.DateTime.Timestamp

/-!
The command line: `vipgate [FILE]` starts the gateway and `balancer [FILE]` the balancer, with the settings
of a file. A running gateway takes the requests of its control interface from the standard input, one on
each line, and ends with the input.
-/

open Gatehouse Gatehouse.Net Gatehouse.Host Gatehouse.Launch

namespace Gatehouse.CommandLine

/-! ## The machine -/

def faultOf : IO.Error → Files.Fault
  | .inappropriateType _ 21 _ => .folder
  | .inappropriateType .. => .notFolder
  | _ => .noSuchFile

def pathOf (place : Path) : String := String.ofList ("/" ++ Text.join "/" place)

def observePlace (fs : Files) (place : Path) : IO Files := do
  try
    return fs.put place (← IO.FS.readBinFile (pathOf place)).toList
  catch e =>
    if faultOf e = .folder ∧ !fs.hasFolder place then
      return { fs with folders := fs.folders ++ [place] }
    else return fs

/-- Looks at the place that a path text means, and at the folders on the way there. -/
def observe (working : Path) (fs : Files) (path : Text) : IO Files :=
  let place := Files.start working path ++ Files.names path
  (List.range (place.length + 1)).foldlM (fun fs n => observePlace fs (place.take n)) fs

def environment : IO (List (Text × Text)) := do
  let names := ["VIPGATE_INTERFACE", "VIPGATE_SUBNET", "VIPGATE_DOMAIN"]
  let values ← names.mapM fun name => return (← IO.getEnv name).map fun v => (name.toList, v.toList)
  return values.filterMap id

def processNumber : IO Nat := do
  let status ← IO.FS.readFile "/proc/self/stat"
  return (Text.decimal? (status.toList.takeWhile Char.isDigit)).getD 0

def isLocked (place : Path) : IO Bool := do
  try
    let file ← IO.FS.Handle.mk (pathOf place) .readWrite
    return !(← file.tryLock)
  catch _ => return false

def machine (file : Text) : IO Machine := do
  let working := Files.names (toString (← IO.currentDir)).toList
  let files ← observe working ⟨[], []⟩ file
  return {
    files := files
    working := working
    environment := ← environment
    process := ← processNumber
    locks := []
    taken := []
    refusal := listenFault?
    commands := fun _ _ => .missing
    record := []
    rootText := Text.utf8 "-----BEGIN CERTIFICATE-----\n-----END CERTIFICATE-----\n" }

def pidPlace? (m : Machine) (s : Settings) : Option Path :=
  s.server.pidFile.map fun path => Files.start m.working path ++ Files.names path

def observeAll (m : Machine) (s : Settings) : IO Machine := do
  let files ← s.paths.foldlM (observe m.working) m.files
  let locked ← (pidPlace? m s).toList.filterM isLocked
  return { m with files := files, locks := locked.map fun place => (place, 0) }

/-- Holds the lock of the PID file while something is done. -/
def holding {α : Type} (place? : Option Path) (action : IO α) : IO α := do
  match place? with
  | none => action
  | some place =>
    let file ← IO.FS.Handle.mk (pathOf place) .readWrite
    let _ ← file.tryLock
    let result ← action
    file.unlock
    return result

def apply (before after : Files) : IO Unit := do
  for (place, content) in after.files do
    if before.content? place ≠ some content then
      IO.FS.writeBinFile (pathOf place) ⟨content.toArray⟩
  for (place, _) in before.files do
    if !after.hasFile place then IO.FS.removeFile (pathOf place)

/-! ## Running -/

/-- The time. -/
def now : IO Time := return (← Std.Time.Timestamp.now).toNanosecondsSinceUnixEpoch.toInt

/-- Answers the requests on the lines of the standard input, up to its end. -/
partial def serve (input : IO.FS.Stream) (running : Running) (m : Machine) : IO (Running × Machine) := do
  let line ← input.getLine
  if line.isEmpty then return (running, m)
  match running, Console.request? (Text.trim line.toList) with
  | .gateway g, some request =>
    let (response, g, m) := g.answer m (← now) request
    IO.println (String.ofList (Console.answerLine response))
    serve input (.gateway g) m
  | running, _ => serve input running m

/-- Runs a program from its start to its end, and tells its exit status. -/
def runProgram (program : Program) (file : Option String) : IO UInt32 := do
  let ownFile := if program = .gateway then Gateway.defaultFile else Balancer.defaultFile
  let path := (file.map String.toList).getD ownFile
  let m ← machine path
  let m ← match Gateway.loadSettings m path with
    | .ok s => observeAll m s
    | .error _ => pure m
  match (program.start (file.map String.toList)).runOn m with
  | (.error refusal, after) =>
    apply m.files after.files
    IO.eprint (String.ofList refusal.report)
    return 1
  | (.ok running, after) =>
    apply m.files after.files
    let input ← IO.getStdin
    let pidFile := match running with
      | .gateway g => pidPlace? m g.settings
      | .balancer .. => none
    holding pidFile do
      let (running, last) ← serve input running after
      apply after.files (running.stop last).files
    return 0

end Gatehouse.CommandLine

def main (args : List String) : IO UInt32 :=
  match args with
  | "balancer" :: rest => CommandLine.runProgram .balancer rest.head?
  | "vipgate" :: rest => CommandLine.runProgram .gateway rest.head?
  | _ => do
    IO.eprintln "usage: vipgate [FILE] | balancer [FILE]"
    return 2
