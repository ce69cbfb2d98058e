import Gatehouse.Relay.Basic

/-!
A relay between two pipes of limited capacity, run by a script from the outer ends. What arrives at an outer
end is read at once, so a step is over when all that it set going has come to rest.
-/

namespace Gatehouse.Relay.Pipes

/-- An outer end: whether it was given up, whether its sending half is closed, and whether it has seen the
end of what it receives. -/
structure Outer where
  dropped : Bool
  closed : Bool
  sawEnd : Bool

/-- The relay, once it runs, with its surroundings: the capacity of the pipes, the time, the signal that
stops it, and the outer ends. -/
structure State where
  relay : Option Relay.State
  capacity : Nat
  idle : Nat
  now : Nat
  stopped : Bool
  senderGone : Bool
  client : Outer
  backend : Outer

def State.start (capacity idle : Nat) (stopped : Bool) : State :=
  ⟨none, capacity, idle, 0, stopped, false, ⟨false, false, false⟩, ⟨false, false, false⟩⟩

/-- One step of a script. -/
inductive Step where
  | write (side : Side) (bytes : Bytes)
  | close (side : Side)
  | drop (side : Side)
  | advance (time : Nat)
  | stop
  | unstop
  | dropSender

/-- How a step went. -/
inductive Result where
  | ok
  /-- A write to an end that was given up. -/
  | closed
  | failed (f : IoFault)

/-- What an outer end received in a step, and whether it has seen the end. -/
structure Received where
  bytes : Bytes
  sawEnd : Bool

/-- What a step shows. -/
structure Report where
  result : Result
  client : Received
  backend : Received
  ending : Option Ending

def brokenPipe : IoFault := ⟨"BrokenPipe", "broken pipe"⟩

def State.outer (s : State) : Side → Outer
  | .client => s.client
  | .backend => s.backend

def State.withOuter (s : State) (side : Side) (o : Outer) : State :=
  match side with
  | .client => { s with client := o }
  | .backend => { s with backend := o }

/-! ## Starting and stopping -/

def State.isStopped (s : State) : Bool := s.stopped || s.senderGone

/-- The relay of a state, which starts now if it does not run yet. -/
def State.running (s : State) : Relay.State :=
  let relay := s.relay.getD (.start s.now s.idle)
  if s.isStopped then (relay.step .stop).1 else relay

def State.isOver (s : State) : Bool := s.running.ending.isSome

/-! ## Moving bytes -/

def pieces (size : Nat) : Nat → Bytes → List Bytes
  | 0, _ => []
  | fuel + 1, bytes =>
    if bytes = [] then []
    else bytes.take size :: pieces size fuel (bytes.drop size)

/-- What happens to the relay when bytes arrive at a side; a piece that the other side cannot take ends it. -/
def copyEvents (s : State) (side : Side) (bytes : Bytes) : List Event :=
  (pieces (max 1 (min s.capacity chunkLimit)) bytes.length bytes).flatMap fun piece =>
    [.read side piece,
     if (s.outer side.other).dropped then .writeFailed side brokenPipe else .taken side piece.length]

/-- How a write goes: it is done once all bytes are in the pipe, and fails if the relay ends before. -/
def writeResult (s : State) (after : Relay.State) (side : Side) (isFirst : Bool) (bytes : Bytes) : Result :=
  let outer := s.outer side
  if outer.dropped then .closed
  else if bytes = [] then .ok
  else if outer.closed then .failed brokenPipe
  else if s.isOver then
    if isFirst && decide (bytes.length ≤ s.capacity) then .ok else .failed brokenPipe
  else if after.ending.isSome && decide (s.capacity < bytes.length) then .failed brokenPipe
  else .ok

/-! ## Steps -/

def receive (o : Outer) (into : Side) (actions : List Action) (isOver : Bool) : Received × Outer :=
  if o.dropped then (⟨[], o.sawEnd⟩, o)
  else
    let sawEnd := o.sawEnd || isOver || closes into actions
    (⟨delivered into actions, sawEnd⟩, { o with sawEnd := sawEnd })

/-- Ends a step: gives the events to the relay, and what it does to the outer ends. -/
def State.finish (s : State) (events : List Event) (result : Relay.State → Result) : State × Report :=
  let (relay, actions) := s.running.run events
  let isOver := relay.ending.isSome
  let (client, clientOuter) := receive s.client .client actions isOver
  let (backend, backendOuter) := receive s.backend .backend actions isOver
  ({ s with relay := some relay, client := clientOuter, backend := backendOuter },
   ⟨result relay, client, backend, relay.ending⟩)

def endEvents (side : Side) : List Event := [.read side [], .closed side]

/-- One step of a script. A relay that has not run before starts after what the step does to the time and
to the signal. -/
def step (s : State) : Step → State × Report
  | .write side bytes =>
    let outer := s.outer side
    let events := if outer.dropped || outer.closed then [] else copyEvents s side bytes
    s.finish events fun after => writeResult s after side s.relay.isNone bytes
  | .close side =>
    let outer := s.outer side
    let events := if outer.closed then [] else endEvents side
    (s.withOuter side { outer with closed := true }).finish events fun _ => .ok
  | .drop side =>
    let outer := s.outer side
    let events := if outer.closed then [] else endEvents side
    (s.withOuter side { outer with closed := true, dropped := true }).finish events fun _ => .ok
  | .advance time =>
    let events := if s.relay.isSome then [.passed time] else []
    { s with now := s.now + time }.finish events fun _ => .ok
  | .stop => { s with stopped := true }.finish [] fun _ => .ok
  | .unstop => { s with stopped := false }.finish [] fun _ => .ok
  | .dropSender => { s with senderGone := true }.finish [] fun _ => .ok

/-- The reports of the steps of a script. -/
def run : State → List Step → List Report
  | _, [] => []
  | s, next :: rest =>
    let (s', report) := step s next
    report :: run s' rest

end Gatehouse.Relay.Pipes
