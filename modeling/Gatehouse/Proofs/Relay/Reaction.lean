import Gatehouse.Relay.Basic
import Mathlib.Data.List.Infix

/-!
What one event does to a relay. Main statement: `step_reaction`, by which a running relay does one of few things
whatever happens.
-/

namespace Gatehouse.Relay

variable {s : State} {side : Side} {e : Event}

/-! ## States -/

theorem Side.other_inj {side' : Side} : side.other = side'.other ↔ side = side' := by
  cases side <;> cases side' <;> decide

@[simp] theorem from_withFrom (s : State) (side side' : Side) (d : Direction) :
    (s.withFrom side' d).from side = if side = side' then d else s.from side := by
  cases side <;> cases side' <;> rfl

@[simp] theorem from_active (s : State) (side : Side) : s.active.from side = s.from side := by cases side <;> rfl

@[simp] theorem from_finish (s : State) (ending : Ending) (side : Side) :
    (s.finish ending).from side = s.from side := by
  cases side <;> rfl

@[simp] theorem from_settle (s : State) (side : Side) : s.settle.from side = s.from side := by
  rw [State.settle]
  split
  · exact from_finish s _ side
  · rfl

@[simp] theorem from_later (s : State) (now : Nat) (side : Side) : { s with now := now }.from side = s.from side := by
  cases side <;> rfl

@[simp] theorem ending_withFrom (s : State) (side : Side) (d : Direction) : (s.withFrom side d).ending = s.ending := by
  cases side <;> rfl

/-! ## Runs -/

theorem step_of_ended (he : s.ending ≠ none) (e : Event) : s.step e = (s, []) := by
  cases h : s.ending with
  | none => exact absurd h he
  | some ending => rw [State.step, h]

theorem step_of_running (running : s.ending = none) (e : Event) : s.step e = s.react e := by rw [State.step, running]

/-- A relay that has ended does nothing any more. -/
theorem run_of_ended (he : s.ending ≠ none) (events : List Event) : s.run events = (s, []) := by
  induction events with
  | nil => rfl
  | cons e rest ih => simp only [State.run, step_of_ended he, ih, List.append_nil]

theorem run_append (s : State) (before later : List Event) :
    s.run (before ++ later) =
      (((s.run before).1.run later).1, (s.run before).2 ++ ((s.run before).1.run later).2) := by
  induction before generalizing s with
  | nil => rfl
  | cons e rest ih => simp only [List.cons_append, State.run, ih, List.append_assoc]

/-! ## One event -/

/-- What a relay reads from a side at an event, if it reads from that side: nothing at the end of the stream. A read
that the direction does not wait for does not happen. -/
def State.read? (s : State) (side : Side) : Event → Option Bytes
  | .read at' bytes => if at' = side ∧ s.ending = none ∧ (s.from side).phase = .reading then some bytes else none
  | _ => none

/-- The side at which the direction starts that an event is about, if it is about one. -/
def Event.side? : Event → Option Side
  | .read side _ => some side
  | .readFailed side _ => some side
  | .taken side _ => some side
  | .writeFailed side _ => some side
  | .closed side => some side
  | .passed _ => none
  | .stop => none

/-- What a running relay does at an event: the state after it, and what is done to the two sides. -/
inductive Reaction (s : State) : Event → State → List Action → Prop where
  /-- The event is not waited for. -/
  | ignores {e : Event} {side : Side} (about : e.side? = some side) (unread : ∀ side, s.read? side e = none) :
    Reaction s e s []
  | fails {e : Event} {side : Side} (about : e.side? = some side) (unread : ∀ side, s.read? side e = none)
    (f : IoFault) : Reaction s e (s.finish (.failed f)) []
  | stops : Reaction s .stop (s.finish (.failed stoppedFault)) []
  | waits (time : Nat) (recent : s.now + time < s.lastActivity + s.idle) :
    Reaction s (.passed time) { s with now := s.now + time } []
  | tires (time : Nat) (idle : s.lastActivity + s.idle ≤ s.now + time) :
    Reaction s (.passed time) ({ s with now := s.now + time }.finish (.failed idleFault)) []
  | reads {side : Side} {bytes : Bytes} {total : Nat} (here : s.from side = ⟨.reading, total⟩) (hne : bytes ≠ []) :
    Reaction s (.read side bytes) (s.withFrom side ⟨.writing bytes bytes.length, total⟩).active []
  | ends {side : Side} {total : Nat} (here : s.from side = ⟨.reading, total⟩) :
    Reaction s (.read side []) (s.withFrom side ⟨.closing, total⟩).active []
  | writes {side : Side} {count size total : Nat} {sent left : Bytes}
    (here : s.from side = ⟨.writing (sent ++ left) size, total⟩) (unfinished : left ≠ []) :
    Reaction s (.taken side count) (s.withFrom side ⟨.writing left size, total⟩) [.deliver side.other sent]
  | completes {side : Side} {count size total : Nat} {sent : Bytes} (here : s.from side = ⟨.writing sent size, total⟩) :
    Reaction s (.taken side count) (s.withFrom side ⟨.reading, total + size⟩).active [.deliver side.other sent]
  | closes {side : Side} {total : Nat} (here : s.from side = ⟨.closing, total⟩) :
    Reaction s (.closed side) (s.withFrom side ⟨.ended, total⟩).settle [.close side.other]

theorem react_read (s : State) (side : Side) (bytes : Bytes) :
    Reaction s (.read side bytes) (s.react (.read side bytes)).1 (s.react (.read side bytes)).2 := by
  rcases here : s.from side with ⟨phase, total⟩
  by_cases reading : phase = .reading
  case neg =>
    have hreact : s.react (.read side bytes) = (s, []) := by simp only [State.react, here, reading, if_false]
    rw [hreact]
    refine .ignores rfl fun side' => if_neg ?_
    rintro ⟨rfl, -, reading'⟩
    rw [here] at reading'
    exact reading reading'
  subst reading
  by_cases hne : bytes = []
  · subst hne
    simp only [State.react, here, if_true]
    exact .ends here
  · simp only [State.react, here, hne, if_true, if_false]
    exact .reads here hne

theorem react_taken (s : State) (side : Side) (count : Nat) :
    Reaction s (.taken side count) (s.react (.taken side count)).1 (s.react (.taken side count)).2 := by
  simp only [State.react]
  split
  case h_2 => exact .ignores rfl fun _ => rfl
  rename_i rest size writing
  split
  -- a write that takes nothing is a fault
  case isTrue => exact .fails rfl (fun _ => rfl) _
  rcases here : s.from side with ⟨phase, total⟩
  obtain rfl : phase = .writing rest size := by simpa [here] using writing
  split
  case isTrue hleft =>
    have hsent : rest.take count = rest := List.take_of_length_le (List.drop_eq_nil_iff.mp hleft)
    rw [hsent]
    exact .completes here
  case isFalse hleft => exact .writes (by rw [here, List.take_append_drop]) hleft

/-- A running relay waits, ignores an event, ends, or goes on with one of its directions. -/
theorem react_reaction (s : State) (e : Event) : Reaction s e (s.react e).1 (s.react e).2 := by
  cases e with
  | read side bytes => exact react_read s side bytes
  | readFailed side f =>
    simp only [State.react]
    split
    · exact .fails rfl (fun _ => rfl) f
    · exact .ignores rfl fun _ => rfl
  | taken side count => exact react_taken s side count
  | writeFailed side f =>
    simp only [State.react]
    split
    · exact .fails rfl (fun _ => rfl) f
    · exact .ignores rfl fun _ => rfl
  | closed side =>
    rcases here : s.from side with ⟨phase, total⟩
    simp only [State.react, here]
    split
    case isTrue closing =>
      subst closing
      exact .closes here
    case isFalse => exact .ignores rfl fun _ => rfl
  | passed time =>
    simp only [State.react]
    split
    case isTrue idle => exact .tires time idle
    case isFalse recent => exact .waits time (Nat.lt_of_not_le recent)
  | stop => exact .stops

theorem step_reaction (running : s.ending = none) (e : Event) : Reaction s e (s.step e).1 (s.step e).2 := by
  rw [step_of_running running]
  exact react_reaction s e

end Gatehouse.Relay
