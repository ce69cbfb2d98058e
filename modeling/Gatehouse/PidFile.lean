import Gatehouse.Host.Files

/-!
The PID file: a file whose lock is held by the gateway that runs, and which is to hold the number of that process.

Opening and emptying it, taking its lock, and writing the number and the line feed are effects one after the other, and
so are taking its name away and letting the lock go in the end. Several processes do this on one path, and between two
effects of one of them the others have theirs: `next` is what a process does next, `World.run` is any interleaving.
`claim` is a start that nobody interferes with, as a gateway starts among the files of its host (`claimAt`).

Left out are ends that do not take the name away (a process that is killed, or that fails after it has the lock), writes
that the system refuses, and systems without locks.
-/

namespace Gatehouse.PidFile

open Host

/-- A file, whether or not a name still leads to it: its content, and the process that holds its lock. -/
structure Node where
  content : Bytes
  holder : Option Nat
  deriving DecidableEq

/-- The files that were ever under the name, the oldest first, and the one that is there now. -/
structure State where
  nodes : List Node
  named : Option Nat
  deriving DecidableEq

def State.empty : State := ⟨[], none⟩

def State.current? (s : State) : Option Node := s.named.bind fun n => s.nodes[n]?

def State.holder? (s : State) (n : Nat) : Option Nat := s.nodes[n]?.bind (·.holder)

def State.update (s : State) (n : Nat) (change : Node → Node) : State :=
  { s with nodes := s.nodes.modify n change }

/-! ## Effects -/

def number (pid : Nat) : Bytes := Text.utf8 (Text.ofNat pid)

def lineFeed : Bytes := [0x0A]

/-- What the file of a process is to hold. -/
def line (pid : Nat) : Bytes := number pid ++ lineFeed

/-- Opens the file under the name, which is made if it is not there. -/
def openNamed (s : State) : Nat × State :=
  match s.named with
  | some n => (n, s)
  | none => (s.nodes.length, ⟨s.nodes ++ [⟨[], none⟩], some s.nodes.length⟩)

def empty (s : State) (n : Nat) : State := s.update n fun f => { f with content := [] }

/-- Takes the lock of an open file that nobody has locked. -/
def lock (s : State) (n pid : Nat) : State := s.update n fun f => { f with holder := some pid }

/-- Bytes with others written over them at a place; what is missing before it is filled with zeros. -/
def overlay (content : Bytes) (place : Nat) (bytes : Bytes) : Bytes :=
  content.take place ++ List.replicate (place - content.length) 0 ++ bytes ++ content.drop (place + bytes.length)

def write (s : State) (n place : Nat) (bytes : Bytes) : State :=
  s.update n fun f => { f with content := overlay f.content place bytes }

/-- Takes the name away; a file that someone has open lives on. -/
def unlink (s : State) : State := { s with named := none }

/-- Closes an open file. A lock goes with it if it is that of the process. -/
def close (s : State) (n pid : Nat) : State :=
  s.update n fun f => if f.holder = some pid then { f with holder := none } else f

/-! ## Processes -/

/-- How far a process has come, and the file that it has open. -/
inductive Phase where
  /-- It does not run: it was not started, was refused, or has ended. -/
  | absent
  | opened (n : Nat)
  | emptied (n : Nat)
  | locked (n : Nat)
  | numbered (n : Nat)
  /-- Its line is complete, and it runs. -/
  | running (n : Nat)
  /-- It comes to its end and has taken the name away. -/
  | unlinked (n : Nat)
  deriving DecidableEq

/-- The next effect of a process, and how far it has come with that. A start whose lock is refused is over. -/
def next (s : State) (pid : Nat) : Phase → State × Phase
  | .absent => ((openNamed s).2, .opened (openNamed s).1)
  | .opened n => (empty s n, .emptied n)
  | .emptied n => if s.holder? n = none then (lock s n pid, .locked n) else (s, .absent)
  | .locked n => (write s n 0 (number pid), .numbered n)
  | .numbered n => (write s n (number pid).length lineFeed, .running n)
  | .running n => (unlink s, .unlinked n)
  | .unlinked n => (close s n pid, .absent)

/-- The files under the name, and every process. -/
structure World where
  file : State
  phase : Nat → Phase

namespace World

/-- No process runs yet. -/
def atRest (s : State) : World := ⟨s, fun _ => .absent⟩

/-- A process has its next effect, while the others wait. -/
def step (w : World) (pid : Nat) : World where
  file := (next w.file pid (w.phase pid)).1
  phase p := if p = pid then (next w.file pid (w.phase pid)).2 else w.phase p

/-- After these turns, each the next effect of the process that has it. -/
def run (w : World) (turns : List Nat) : World := turns.foldl step w

end World

/-! ## Starting without interference -/

def refusalText : Text := "Another instance is already running (PID file is locked)"

/-- Opens, locks and writes the file for a process; tells whether the process may run. -/
def claim (s : State) (pid : Nat) : Bool × State :=
  let (n, s) := openNamed s
  let s := empty s n
  if s.holder? n = none then (true, write (write (lock s n pid) n 0 (number pid)) n (number pid).length lineFeed)
  else (false, s)

/-! ## Among the files of a host -/

/-- The PID file as it is seen at a place, where these locks are held. -/
def observe (fs : Files) (locks : List (Path × Nat)) (place : Path) : State :=
  match fs.content? place with
  | none => .empty
  | some content => ⟨[⟨content, locks.lookup place⟩], some 0⟩

/-- Why a PID file cannot be had. -/
inductive Fault where
  /-- The system does not let it be opened. -/
  | file (f : Files.Fault)
  | locked
  deriving DecidableEq

def Fault.message : Fault → Text
  | file f => f.text
  | locked => refusalText

/-- Claims the PID file that a path text means, for a process among the files of a host. -/
def claimAt (fs : Files) (locks : List (Path × Nat)) (working : Path) (path : Text) (pid : Nat) :
    Except Fault Unit × Files :=
  match fs.target working path with
  | .error f => (.error (.file f), fs)
  | .ok place =>
    let (granted, s) := claim (observe fs locks place) pid
    let fs := (s.current?.elim fs) fun f => fs.put place f.content
    (if granted then .ok () else .error .locked, fs)

end Gatehouse.PidFile
