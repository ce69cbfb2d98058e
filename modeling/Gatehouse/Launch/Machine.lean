import Gatehouse.Host.Files
import Gatehouse.Interface.Run
import Gatehouse.Net.Network

/-!
The machine on which a program starts: its files, the addresses and locks that others hold, and the commands
that can be run. A launch changes the machine step by step; what it has changed stays changed if it fails.
-/

namespace Gatehouse

open Net Host

/-- What a program finds on its machine, and changes there. -/
structure Machine where
  files : Files
  /-- The folder in which the program starts. -/
  working : Path
  environment : List (Text × Text)
  /-- The number of the program's process. -/
  process : Nat
  /-- The files that other processes have locked, with the numbers of these processes. -/
  locks : List (Path × Nat)
  /-- The addresses on which others listen. -/
  taken : List Socket
  /-- What the system says to a program that wants to listen while others listen. -/
  refusal : List Socket → Socket → Option Text
  /-- What the commands for the interface do. -/
  commands : Interface.Behaviour
  /-- Those that were run. -/
  record : List Interface.Command
  /-- The new root certificate that this launch makes, as it is written to a file. -/
  rootText : Bytes

namespace Machine

/-- The content of a file, as the system gives it or refuses it. -/
def read (m : Machine) (path : Text) : Except Files.Fault Bytes := m.files.read m.working path

/-- Whether something is there, a file or a folder. -/
def has (m : Machine) (path : Text) : Bool :=
  match m.read path with
  | .ok _ => true
  | .error f => f == .folder

/-- Does what is asked of the interface. -/
def ask (m : Machine) (family : Interface.Family) (request : Interface.Request) :
    Except Text Unit × Machine :=
  let (result, record) := Interface.perform m.commands family m.record request
  (result, { m with record := record })

def discard (m : Machine) (path : Text) : Machine :=
  match m.files.remove m.working path with
  | .ok files => { m with files := files }
  | .error _ => m

/-- The names of the files and folders in the working folder, in order. -/
def listing (m : Machine) : List Text :=
  let places := m.files.folders ++ m.files.files.map (·.1)
  let names := places.filterMap fun place =>
    match m.working.isPrefixOf? place with
    | some [name] => some name
    | _ => none
  names.mergeSort Text.le

end Machine

/-- A launch: it ends with a value or a fault, on a machine that it may have changed. -/
abbrev Launch (ε α : Type) := ExceptT ε (StateM Machine) α

namespace Launch

def ofResult {ε α : Type} : Except ε α → Launch ε α
  | .ok a => pure a
  | .error e => throw e

def orFault {ε δ α : Type} (result : Except δ α) (fault : δ → ε) : Launch ε α :=
  ofResult (result.mapError fault)

/-- Does something on the machine that has a result. -/
def act {ε δ α : Type} (action : Machine → Except δ α × Machine) : Launch ε (Except δ α) :=
  modifyGet action

def runOn {ε α : Type} (m : Machine) (launch : Launch ε α) : Except ε α × Machine := launch.run.run m

end Launch
end Gatehouse
