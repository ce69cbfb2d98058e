import Gatehouse.Text.Basic

/-!
A relay between a client and a backend: bytes are copied in both directions at once, and the end of one
stream ends the other side's input. It runs until both directions have ended, a read or a write fails, it
was idle for too long, or it is stopped. A read counts as activity, and so does the end of writing what was
read; what the other side takes in between does not.

The relay is a machine that takes one event at a time and tells what it does to the two sides.
-/

namespace Gatehouse.Relay

/-- The two ends of a relay. -/
inductive Side where
  | client
  | backend
  deriving DecidableEq

def Side.other : Side → Side
  | client => backend
  | backend => client

/-- What the system says of a failed read or write: the kind of failure, and its wording. -/
structure IoFault where
  kind : Text
  message : Text
  deriving DecidableEq

/-- How a relay ends. -/
inductive Ending where
  /-- Both directions have ended; the bytes that each has copied. -/
  | finished (clientToBackend backendToClient : Nat)
  | failed (f : IoFault)
  deriving DecidableEq

/-- The fault of a relay without activity for too long. -/
def idleFault : IoFault := ⟨"TimedOut", "idle timeout"⟩

def stoppedFault : IoFault := ⟨"ConnectionAborted", "endpoint closed"⟩

def writeZeroFault : IoFault := ⟨"WriteZero", "failed to write whole buffer"⟩

def chunkLimit : Nat := 16384

/-! ## State -/

/-- What one direction is doing. -/
inductive Phase where
  | reading
  /-- These bytes are yet to be written; so many were read together with them. -/
  | writing (rest : Bytes) (size : Nat)
  /-- The stream has ended, and the other side's input is being closed. -/
  | closing
  | ended
  deriving DecidableEq

/-- One direction: what it is doing, and how many bytes it has copied. -/
structure Direction where
  phase : Phase
  total : Nat
  deriving DecidableEq

/-- A relay: both directions, the time, the last activity, the idle time, and how it ended. -/
structure State where
  fromClient : Direction
  fromBackend : Direction
  now : Nat
  lastActivity : Nat
  idle : Nat
  ending : Option Ending

def State.start (now idle : Nat) : State := ⟨⟨.reading, 0⟩, ⟨.reading, 0⟩, now, now, idle, none⟩

def State.from (s : State) : Side → Direction
  | .client => s.fromClient
  | .backend => s.fromBackend

/-- The relay with the direction that starts at a side set. -/
def State.withFrom (s : State) (side : Side) (d : Direction) : State :=
  match side with
  | .client => { s with fromClient := d }
  | .backend => { s with fromBackend := d }

/-- The relay after some activity. -/
def State.active (s : State) : State := { s with lastActivity := s.now }

def State.finish (s : State) (e : Ending) : State := { s with ending := some e }

/-! ## Events -/

/-- What happens to a relay. The side is the one at which the direction starts. -/
inductive Event where
  /-- A read gives these bytes; none at the end of the stream. -/
  | read (side : Side) (bytes : Bytes)
  | readFailed (side : Side) (f : IoFault)
  /-- The other side takes so many of the bytes to be written. -/
  | taken (side : Side) (count : Nat)
  | writeFailed (side : Side) (f : IoFault)
  /-- The other side's input is closed. -/
  | closed (side : Side)
  /-- Time passes. -/
  | passed (time : Nat)
  | stop
  deriving DecidableEq

/-- What a relay does to a side. -/
inductive Action where
  | deliver (into : Side) (bytes : Bytes)
  | close (into : Side)
  deriving DecidableEq

def State.settle (s : State) : State :=
  if s.fromClient.phase = .ended ∧ s.fromBackend.phase = .ended then
    s.finish (.finished s.fromClient.total s.fromBackend.total)
  else s

/-- One event of a running relay. An event that its direction does not wait for changes nothing. -/
def State.react (s : State) : Event → State × List Action
  | .read side bytes =>
    let d := s.from side
    if d.phase = .reading then
      if bytes = [] then ((s.withFrom side { d with phase := .closing }).active, [])
      else ((s.withFrom side { d with phase := .writing bytes bytes.length }).active, [])
    else (s, [])
  | .readFailed side f =>
    if (s.from side).phase = .reading then (s.finish (.failed f), []) else (s, [])
  | .taken side count =>
    let d := s.from side
    match d.phase with
    | .writing rest size =>
      if count = 0 then (s.finish (.failed writeZeroFault), [])
      else
        let sent := rest.take count
        let left := rest.drop count
        if left = [] then
          ((s.withFrom side ⟨.reading, d.total + size⟩).active, [.deliver side.other sent])
        else (s.withFrom side { d with phase := .writing left size }, [.deliver side.other sent])
    | _ => (s, [])
  | .writeFailed side f =>
    match (s.from side).phase with
    | .writing _ _ => (s.finish (.failed f), [])
    | _ => (s, [])
  | .closed side =>
    let d := s.from side
    if d.phase = .closing then ((s.withFrom side { d with phase := .ended }).settle, [.close side.other])
    else (s, [])
  | .passed time =>
    let s := { s with now := s.now + time }
    if s.lastActivity + s.idle ≤ s.now then (s.finish (.failed idleFault), []) else (s, [])
  | .stop => (s.finish (.failed stoppedFault), [])

/-- One event. A relay that has ended does nothing any more. -/
def State.step (s : State) (e : Event) : State × List Action :=
  match s.ending with
  | some _ => (s, [])
  | none => s.react e

/-- The events of a list, one after the other, with all that the relay does. -/
def State.run (s : State) : List Event → State × List Action
  | [] => (s, [])
  | e :: rest =>
    let (s, actions) := s.step e
    let (s, later) := s.run rest
    (s, actions ++ later)

def delivered (into : Side) (actions : List Action) : Bytes :=
  actions.flatMap fun a =>
    match a with
    | .deliver side bytes => if side = into then bytes else []
    | .close _ => []

def closes (into : Side) (actions : List Action) : Bool := actions.contains (.close into)

end Gatehouse.Relay
