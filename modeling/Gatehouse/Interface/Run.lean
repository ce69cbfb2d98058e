import Gatehouse.Interface.Commands
import Gatehouse.Host.Program

/-!
Running the commands of an interface on a host, with a record of those that were run.
-/

namespace Gatehouse.Interface

open Host

/-- What the programs of a host do with the n-th command that they are given. -/
abbrev Behaviour := Nat → Command → Program.Ending

def runCommand (host : Behaviour) (record : List Command) (c : Command) :
    Except Text Unit × List Command :=
  match Program.start c.program c.arguments (host record.length c) with
  | .error detail => (.error ("Failed to run " ++ c.program ++ ": " ++ detail), record)
  | .ok none => (.ok (), record ++ [c])
  | .ok (some stderr) =>
    (.error (Text.join " " (c.program :: c.arguments) ++ " failed: " ++ stderr), record ++ [c])

/-- Runs the stages of a plan up to the first that fails, and what follows its failure. -/
def runStages (host : Behaviour) (record : List Command) : List Stage →
    Except Text Unit × List Command
  | [] => (.ok (), record)
  | stage :: rest =>
    match runCommand host record stage.command with
    | (.ok (), record) => runStages host record rest
    | (.error detail, record) =>
      match stage.onFailure with
      | none => (.error detail, record)
      | some undo => (.error detail, (runCommand host record undo).2)

def perform (host : Behaviour) (family : Family) (record : List Command) (request : Request) :
    Except Text Unit × List Command :=
  runStages host record (plan family request)

/-- Does what is asked, one request after the other, and tells how each went. -/
def performAll (host : Behaviour) (family : Family) (record : List Command) : List Request →
    List (Except Text Unit) × List Command
  | [] => ([], record)
  | request :: rest =>
    let (result, record) := perform host family record request
    let (results, record) := performAll host family record rest
    (result :: results, record)

end Gatehouse.Interface
