import Gatehouse.Host.Files

/-!
The program that touches files: those that are not there are made empty, unless it is told not to.
-/

namespace Gatehouse.Host.Touch

/-- What the program is asked to do. -/
structure Request where
  /-- Whether files that are not there are left so. -/
  keep : Bool
  paths : List Text

def idleFlags : List Char := ['a', 'f', 'h', 'm']

/-- The request that arguments make, or what is wrong with them. -/
def Request.ofArguments? (r : Request) : List Text → Except Text Request
  | [] => .ok r
  | ['-', '-'] :: rest => .ok { r with paths := r.paths ++ rest }
  | argument :: rest =>
    match argument with
    | '-' :: '-' :: _ =>
      if argument = "--no-create".toList then Request.ofArguments? { r with keep := true } rest
      else .error ("unrecognized option '" ++ argument ++ "'")
    | '-' :: c :: flags =>
      match (c :: flags).find? fun f => f != 'c' && !idleFlags.contains f with
      | some f => .error ("invalid option -- '" ++ [f] ++ "'")
      | none => Request.ofArguments? { r with keep := r.keep || (c :: flags).contains 'c' } rest
    | path => Request.ofArguments? { r with paths := r.paths ++ [path] } rest

/-- What the system says, without the number of its error. -/
def cause (e : Files.Fault) : Text := (Text.cutAround " (os error" e.text).elim e.text (·.1)

/-- Touches one file: opens it for writing, then sets its times. -/
def touch (keep : Bool) (fs : Files) (working : Path) (path : Text) : Except Text Files :=
  let setting : Except Files.Fault Files := (fs.openFor working path).map fun _ => fs
  let complain (what : Text) (e : Files.Fault) : Text :=
    "touch: " ++ what ++ " '" ++ path ++ "': " ++ cause e ++ "\n"
  let settingTimes (opened : Option Files.Fault) : Except Text Files :=
    match setting, opened with
    | .ok fs, _ => .ok fs
    | .error e, none => .error (complain "setting times of" e)
    | .error _, some e => .error (complain "cannot touch" e)
  if keep then
    match setting with
    | .error .noSuchFile => .ok fs
    | _ => settingTimes none
  else
    match fs.target working path with
    | .ok place => .ok (if fs.hasFile place then fs else fs.put place [])
    | .error .folder => settingTimes none
    | .error e => settingTimes (some e)

/-- Touches all files that are asked for; what goes wrong with one does not keep it from the others. Tells
what the program writes to its error stream. -/
def touchAll (keep : Bool) (fs : Files) (working : Path) : List Text → Text × Files
  | [] => ([], fs)
  | path :: rest =>
    match touch keep fs working path with
    | .ok fs => touchAll keep fs working rest
    | .error complaint =>
      let later := touchAll keep fs working rest
      (complaint ++ later.1, later.2)

def helpLine : Text := "Try 'touch --help' for more information.\n"

/-- What the program writes to its error stream, which is nothing if all went well, and the files after
it. -/
def run (fs : Files) (working : Path) (arguments : List Text) : Text × Files :=
  match Request.ofArguments? ⟨false, []⟩ arguments with
  | .error complaint => ("touch: " ++ complaint ++ "\n" ++ helpLine, fs)
  | .ok ⟨_, []⟩ => ("touch: missing file operand\n" ++ helpLine, fs)
  | .ok ⟨keep, paths⟩ => touchAll keep fs working paths

end Gatehouse.Host.Touch
