import Gatehouse.Proofs.Relay.Copying

/-!
When a relay ends because nothing happens. Main statement: `run_timeout`, by which it ends when nothing was noted for
the idle time. A read is noted, and so is the end of a write; the parts of a write before the last are not, and they
are all that can move within the idle time before a timeout. `slowWrite_times_out` is a run in which they do.
-/

namespace Gatehouse.Relay

variable {s : State} {side : Side} {e : Event} {d d' : Direction} {events : List Event} {t : Nat}

/-! ## Events -/

/-- Whether a relay takes note of an event at which this is done to the two sides: it reads something or the end of a
stream, or it writes the last of what it has read. -/
def State.NotesAs (s : State) (e : Event) (actions : List Action) : Prop :=
  ∃ side, s.read? side e ≠ none ∨
    ((s.from side).pending ≠ [] ∧ delivered side.other actions = (s.from side).pending)

def State.Notes (s : State) (e : Event) : Prop := s.NotesAs e (s.step e).2

/-- Whether a byte moves at an event. -/
def State.Moves (s : State) (e : Event) : Prop :=
  ∃ side, (s.entry side e).read ≠ [] ∨ (s.entry side e).written ≠ []

/-- Whether a part of what was read is written at an event, and the last of it is not. -/
def State.WritesPart (s : State) (e : Event) : Prop :=
  ∃ side, (s.entry side e).written ≠ [] ∧ (s.entry side e).written ≠ (s.from side).pending

theorem moves_of_writesPart (h : s.WritesPart e) : s.Moves e := by
  obtain ⟨side, hwritten, -⟩ := h
  exact ⟨side, .inr hwritten⟩

/-- Where bytes move, the relay takes note of it or they are part of a write. -/
theorem notes_or_writesPart_of_moves (h : s.Moves e) : s.Notes e ∨ s.WritesPart e := by
  obtain ⟨side, hread | hwritten⟩ := h
  · refine .inl ⟨side, .inl fun hnone => hread ?_⟩
    rw [State.entry, hnone]
    rfl
  · by_cases hlast : (s.entry side e).written = (s.from side).pending
    · exact .inl ⟨side, .inr ⟨hlast ▸ hwritten, hlast⟩⟩
    · exact .inr ⟨side, hwritten, hlast⟩

theorem not_notesAs_of_quiet (unread : ∀ side, s.read? side e = none) : ¬ s.NotesAs e [] := by
  rintro ⟨side, hread | ⟨hpending, hwritten⟩⟩
  · exact hread (unread side)
  · exact hpending hwritten.symm

/-! ## Time -/

/-- What a relay knows of time. -/
structure Clock where
  now : Nat
  lastActivity : Nat
  idle : Nat

def State.clock (s : State) : Clock := ⟨s.now, s.lastActivity, s.idle⟩

theorem clock_withFrom (s : State) (side : Side) (d : Direction) : (s.withFrom side d).clock = s.clock := by
  cases side <;> rfl

theorem clock_active (s : State) (side : Side) (d : Direction) :
    (s.withFrom side d).active.clock = ⟨s.now, s.now, s.idle⟩ := by
  cases side <;> rfl

theorem clock_settle (s : State) : s.settle.clock = s.clock := by
  rw [State.settle]
  split <;> rfl

/-- Whether there is something left of everything that is being written. -/
def State.Chunked (s : State) : Prop :=
  ∀ side rest size total, s.from side = ⟨.writing rest size, total⟩ → rest ≠ []

theorem State.Chunked.congr {s' : State} (h : s.Chunked) (same : ∀ side, s'.from side = s.from side) : s'.Chunked :=
  fun side rest size total here => h side rest size total ((same side).symm.trans here)

theorem State.Chunked.withFrom (h : s.Chunked) (hd : ∀ rest size, d.phase = .writing rest size → rest ≠ []) :
    (s.withFrom side d).Chunked := by
  intro side' rest size total here
  rw [from_withFrom] at here
  split at here
  · exact hd rest size (here ▸ rfl)
  · exact h side' rest size total here

theorem Reaction.chunked {s' : State} {actions : List Action} (reaction : Reaction s e s' actions) (h : s.Chunked) :
    s'.Chunked := by
  cases reaction with
  | ignores _ _ => exact h
  | fails _ _ f => exact h.congr (from_finish s _)
  | stops => exact h.congr (from_finish s _)
  | waits _ _ => exact h.congr (from_later s _)
  | tires _ _ => exact h.congr fun side => (from_finish _ _ side).trans (from_later s _ side)
  | reads _ hne =>
    refine (h.withFrom ?_).congr (from_active _)
    rintro rest size ⟨⟩
    exact hne
  | ends _ =>
    refine (h.withFrom ?_).congr (from_active _)
    rintro rest size ⟨⟩
  | writes _ unfinished =>
    refine h.withFrom ?_
    rintro rest size ⟨⟩
    exact unfinished
  | completes _ =>
    refine (h.withFrom ?_).congr (from_active _)
    rintro rest size ⟨⟩
  | closes _ =>
    refine (h.withFrom ?_).congr (from_settle _)
    rintro rest size ⟨⟩

/-- Events that a relay takes note of become its last activity, and at all others some time may pass. -/
theorem Reaction.clock {s' : State} {actions : List Action} (reaction : Reaction s e s' actions)
    (running : s.ending = none) (h : s.Chunked) :
    (s.NotesAs e actions → s'.clock = ⟨s.now, s.now, s.idle⟩) ∧
      (¬ s.NotesAs e actions → ∃ time, s'.clock = ⟨s.now + time, s.lastActivity, s.idle⟩) := by
  cases reaction with
  | ignores _ unread => exact ⟨fun notes => absurd notes (not_notesAs_of_quiet unread), fun _ => ⟨0, rfl⟩⟩
  | fails _ unread f => exact ⟨fun notes => absurd notes (not_notesAs_of_quiet unread), fun _ => ⟨0, rfl⟩⟩
  | stops => exact ⟨fun notes => absurd notes (not_notesAs_of_quiet fun _ => rfl), fun _ => ⟨0, rfl⟩⟩
  | waits time _ => exact ⟨fun notes => absurd notes (not_notesAs_of_quiet fun _ => rfl), fun _ => ⟨time, rfl⟩⟩
  | tires time _ => exact ⟨fun notes => absurd notes (not_notesAs_of_quiet fun _ => rfl), fun _ => ⟨time, rfl⟩⟩
  | @reads side bytes total here hne =>
    have hread : s.NotesAs (.read side bytes) [] := ⟨side, .inl (by simp [read?_here running here])⟩
    exact ⟨fun _ => clock_active s side _, fun unnoted => absurd hread unnoted⟩
  | @ends side total here =>
    have hread : s.NotesAs (.read side []) [] := ⟨side, .inl (by simp [read?_here running here])⟩
    exact ⟨fun _ => clock_active s side _, fun unnoted => absurd hread unnoted⟩
  | @writes side count size total sent left here unfinished =>
    refine ⟨?_, fun _ => ⟨0, clock_withFrom s side _⟩⟩
    rintro ⟨side', hread | ⟨hpending, hlast⟩⟩
    · exact absurd rfl hread
    · rw [delivered_deliver] at hlast
      split at hlast
      case isTrue hside =>
        subst hside
        rw [here] at hlast
        exact absurd (List.self_eq_append_right.mp hlast) unfinished
      case isFalse => exact absurd hlast.symm hpending
  | @completes side count size total sent here =>
    have hlast : s.NotesAs (.taken side count) [.deliver side.other sent] := by
      refine ⟨side, .inr ⟨?_, ?_⟩⟩
      · rw [here]
        exact h side _ _ _ here
      · rw [delivered_deliver, if_pos rfl, here]
        rfl
    exact ⟨fun _ => clock_active s side _, fun unnoted => absurd hlast unnoted⟩
  | @closes side total here =>
    refine ⟨?_, fun _ => ⟨0, (clock_settle _).trans (clock_withFrom s side _)⟩⟩
    rintro ⟨side', hread | ⟨hpending, hlast⟩⟩
    · exact absurd rfl hread
    · exact absurd hlast.symm hpending

theorem step_chunked (h : s.Chunked) (e : Event) : (s.step e).1.Chunked := by
  by_cases running : s.ending = none
  · exact (step_reaction running e).chunked h
  · rw [step_of_ended running]
    exact h

theorem step_clock (h : s.Chunked) (e : Event) :
    (s.Notes e → (s.step e).1.clock = ⟨s.now, s.now, s.idle⟩) ∧
      (¬ s.Notes e → ∃ time, (s.step e).1.clock = ⟨s.now + time, s.lastActivity, s.idle⟩) := by
  by_cases running : s.ending = none
  · exact (step_reaction running e).clock running h
  -- a relay that has ended takes note of nothing
  · have unread : ∀ side, s.read? side e = none := fun side => by cases e <;> simp [State.read?, running]
    rw [State.Notes, step_of_ended running]
    exact ⟨fun notes => absurd notes (not_notesAs_of_quiet unread), fun _ => ⟨0, rfl⟩⟩

/-! ## Runs -/

theorem run_snoc (s : State) (events : List Event) (e : Event) :
    (s.run (events ++ [e])).1 = ((s.run events).1.step e).1 := by
  rw [run_append]
  rfl

theorem run_chunked (h : s.Chunked) (events : List Event) : (s.run events).1.Chunked := by
  induction events generalizing s with
  | nil => exact h
  | cons e rest ih => exact ih (step_chunked h e)

/-- Whether all events of a kind happen in a run at least the idle time before `t`. -/
def State.LongBefore (s : State) (kind : State → Event → Prop) (events : List Event) (t : Nat) : Prop :=
  ∀ before e later, events = before ++ e :: later → kind (s.run before).1 e → (s.run before).1.now + s.idle ≤ t

theorem longBefore_snoc (s : State) (kind : State → Event → Prop) (events : List Event) (e : Event) (t : Nat) :
    s.LongBefore kind (events ++ [e]) t ↔
      s.LongBefore kind events t ∧ (kind (s.run events).1 e → (s.run events).1.now + s.idle ≤ t) := by
  refine ⟨fun h => ⟨?_, h events e [] rfl⟩, ?_⟩
  · intro before e' later hevents
    exact h before e' (later ++ [e]) (by rw [hevents, List.append_assoc, List.cons_append])
  · rintro ⟨h, hlast⟩ before e' later hevents
    rcases List.eq_nil_or_concat later with rfl | ⟨later, last, rfl⟩
    · obtain ⟨rfl, heq⟩ := List.append_inj' hevents rfl
      obtain ⟨rfl, -⟩ := List.cons.inj heq
      exact hlast
    · rw [List.concat_eq_append, ← List.cons_append, ← List.append_assoc] at hevents
      obtain ⟨rfl, -⟩ := List.append_inj' hevents rfl
      exact h before e' later rfl

/-- The last activity is the last event that was noted, and the clock does not go back. -/
theorem run_clock (h : s.Chunked) (recent : s.lastActivity ≤ s.now) (events : List Event) :
    let s' := (s.run events).1
    s'.idle = s.idle ∧ s.now ≤ s'.now ∧ s'.lastActivity ≤ s'.now ∧
      ∀ t, s'.lastActivity + s.idle ≤ t ↔ s.lastActivity + s.idle ≤ t ∧ s.LongBefore State.Notes events t := by
  induction events using List.reverseRecOn with
  | nil => exact ⟨rfl, Nat.le_refl _, recent, fun t => (and_iff_left fun before e later heq => by simp at heq).symm⟩
  | append_singleton events e ih =>
    obtain ⟨hidle, hnow, hrecent, hlast⟩ := ih
    obtain ⟨hnoted, hunnoted⟩ := step_clock (run_chunked h events) e
    simp only [run_snoc, longBefore_snoc]
    by_cases notes : (s.run events).1.Notes e
    · obtain ⟨hnow', hlast', hidle'⟩ := Clock.mk.inj (hnoted notes)
      refine ⟨hidle'.trans hidle, hnow.trans hnow'.ge, hlast'.trans hnow'.symm |>.le, fun t => ?_⟩
      have hbefore := hlast t
      rw [hlast']
      refine ⟨fun h => ?_, fun h => h.2.2 notes⟩
      -- what was noted before is not later than this event
      obtain ⟨hstart, hearlier⟩ := hbefore.mp (by omega)
      exact ⟨hstart, hearlier, fun _ => h⟩
    · obtain ⟨time, hclock⟩ := hunnoted notes
      obtain ⟨hnow', hlast', hidle'⟩ := Clock.mk.inj hclock
      refine ⟨hidle'.trans hidle, by omega, by omega, fun t => ?_⟩
      rw [hlast', and_iff_left fun noted => absurd noted notes]
      exact hlast t

/-! ## Between two notes -/

/-- What a direction writes that nothing is noted of is a part of what was left to be written, and some is still left. -/
theorem Copies.of_unnoted {x : Account} (c : Copies d x d') (unread : x.read = [])
    (unfinished : d.pending ≠ [] → x.written ≠ d.pending) :
    d.pending = x.written ++ d'.pending ∧ (d.pending ≠ [] → d'.pending ≠ []) := by
  cases c with
  | rests _ => exact ⟨rfl, id⟩
  | reads => exact ⟨unread.symm, fun h => absurd rfl h⟩
  | ends => exact ⟨rfl, fun h => absurd rfl h⟩
  | writes sent left =>
    refine ⟨rfl, ?_⟩
    rintro hpending rfl
    exact unfinished hpending (List.append_nil sent).symm
  | completes sent => exact ⟨(List.append_nil sent).symm, fun hpending => absurd rfl (unfinished hpending)⟩
  | closes => exact ⟨rfl, fun h => absurd rfl h⟩

theorem step_of_unnoted (unnoted : ¬ s.Notes e) (side : Side) :
    (s.entry side e).read = [] ∧ (s.entry side e).ended = false ∧
      (s.from side).pending = (s.entry side e).written ++ ((s.step e).1.from side).pending ∧
      ((s.from side).pending ≠ [] → ((s.step e).1.from side).pending ≠ []) := by
  have unread : s.read? side e = none := by
    by_contra hread
    exact unnoted ⟨side, .inl hread⟩
  have hread : (s.entry side e).read = [] := by
    rw [State.entry, unread]
    rfl
  have hended : (s.entry side e).ended = false := by
    rw [State.entry, unread]
    rfl
  refine ⟨hread, hended, (step_copies s side e).of_unnoted hread ?_⟩
  intro hpending hlast
  exact unnoted ⟨side, .inr ⟨hpending, hlast⟩⟩

/-- As long as nothing is noted, a relay reads nothing, and it writes no more than a part of what was left. -/
theorem account_of_unnoted (unnoted : ∀ before e later, events = before ++ e :: later → ¬ (s.run before).1.Notes e)
    (side : Side) :
    (s.account side events).read = [] ∧ (s.account side events).ended = false ∧
      (s.from side).pending = (s.account side events).written ++ ((s.run events).1.from side).pending ∧
      ((s.from side).pending ≠ [] → ((s.run events).1.from side).pending ≠ []) := by
  induction events generalizing s with
  | nil => exact ⟨rfl, rfl, rfl, id⟩
  | cons e rest ih =>
    have first : ¬ s.Notes e := unnoted [] e rest rfl
    obtain ⟨hread, hended, hpending, hleft⟩ := step_of_unnoted first side
    obtain ⟨hread', hended', hpending', hleft'⟩ := ih (s := (s.step e).1) fun before e' later heq =>
      unnoted (e :: before) e' later (by rw [heq, List.cons_append])
    refine ⟨by simp [State.account, hread, hread'], by simp [State.account, hended, hended'], ?_, hleft' ∘ hleft⟩
    rw [hpending, hpending', State.account, Account.add_written, List.append_assoc]
    rfl

/-! ## The watch -/

/-- A relay beside a watch, which sleeps until a deadline. -/
structure Watched where
  relay : State
  deadline : Nat

namespace Watched

/-- A relay with a watch that has just gone to sleep. -/
def start (now idle : Nat) : Watched := ⟨.start now idle, now + idle⟩

/-- One event. At its deadline the watch of a running relay wakes: it ends the relay if the last activity is as long ago
as the idle time, and sleeps until the deadline that follows from the last activity if not. -/
def step (w : Watched) (e : Event) : Watched × List Action :=
  match w.relay.ending, e with
  | none, .passed time =>
    let s := { w.relay with now := w.relay.now + time }
    if s.now < w.deadline then (⟨s, w.deadline⟩, [])
    else if s.lastActivity + s.idle ≤ s.now then (⟨s.finish (.failed idleFault), w.deadline⟩, [])
    else (⟨s, s.lastActivity + s.idle⟩, [])
  | _, _ => (⟨(w.relay.step e).1, w.deadline⟩, (w.relay.step e).2)

def run (w : Watched) : List Event → Watched × List Action
  | [] => (w, [])
  | e :: rest =>
    let (w, actions) := w.step e
    let (w, later) := w.run rest
    (w, actions ++ later)

/-- A watch that does not sleep for too long ends the relay as soon as it is idle for too long. -/
theorem step_relay {w : Watched} (h : w.deadline ≤ w.relay.lastActivity + w.relay.idle) (e : Event) :
    (w.step e).1.relay = (w.relay.step e).1 ∧ (w.step e).2 = (w.relay.step e).2 ∧
      ((w.step e).1.deadline = w.deadline ∨
        (w.step e).1.deadline = (w.step e).1.relay.lastActivity + (w.step e).1.relay.idle) := by
  unfold step
  split
  case h_2 => exact ⟨rfl, rfl, .inl rfl⟩
  rename_i time running
  simp only [step_of_running running, State.react]
  by_cases asleep : w.relay.now + time < w.deadline
  · have recent : ¬ w.relay.lastActivity + w.relay.idle ≤ w.relay.now + time := by omega
    simp [asleep, recent]
  · by_cases idle : w.relay.lastActivity + w.relay.idle ≤ w.relay.now + time
    · simp [asleep, idle]
    · simp [asleep, idle]

theorem run_relay {w : Watched} (h : w.deadline ≤ w.relay.lastActivity + w.relay.idle) (chunked : w.relay.Chunked)
    (recent : w.relay.lastActivity ≤ w.relay.now) (events : List Event) :
    (w.run events).1.relay = (w.relay.run events).1 ∧ (w.run events).2 = (w.relay.run events).2 := by
  induction events generalizing w with
  | nil => exact ⟨rfl, rfl⟩
  | cons e rest ih =>
    obtain ⟨hrelay, hactions, hdeadline⟩ := step_relay h e
    -- the last activity does not go back, so that the watch still does not sleep for too long
    obtain ⟨hidle, -, hrecent, hlast⟩ := run_clock chunked recent [e]
    have hlater := (hlast _).mp (Nat.le_refl _)
    have hstep : (w.relay.run [e]).1 = (w.step e).1.relay := hrelay.symm
    rw [hstep] at hidle hrecent hlater
    obtain ⟨hrest, hactions'⟩ := ih (w := (w.step e).1) (by omega) (hrelay ▸ step_chunked chunked e) hrecent
    rw [hrelay] at hrest hactions'
    exact ⟨hrest, by simp only [run, State.run, hactions, hactions']⟩

end Watched

/-! ## Timeouts -/

theorem start_chunked (now idle : Nat) : (State.start now idle).Chunked := by
  intro side rest size total here
  cases side <;> cases here

theorem ending_passed (running : s.ending = none) (time : Nat) :
    (s.step (.passed time)).1.ending = some (.failed idleFault) ↔ s.lastActivity + s.idle ≤ s.now + time := by
  rw [step_of_running running]
  simp only [State.react]
  split
  case isTrue idle => exact iff_of_true rfl idle
  case isFalse recent =>
    refine iff_of_false ?_ recent
    intro h
    rw [running] at h
    cases h

/-- In every run of a relay with a watch, whatever its reads, writes in parts and faults, and however they are timed:
the watch, whose deadline is that of an activity in the past, ends the relay as soon as nothing was noted for the idle
time. Then no byte moved within the idle time, unless a part of a write was taken that was not its last; and all that
can have moved is, in either direction, a part of one chunk that was read before, which is not all written yet. -/
theorem run_timeout (now idle : Nat) (events : List Event) (time : Nat) :
    let s := State.start now idle
    let s' := (s.run events).1
    let t := s'.now + time
    let timeout := (s'.step (.passed time)).1.ending = some (.failed idleFault)
    (((Watched.start now idle).run events).1.relay = s' ∧ ((Watched.start now idle).run events).2 = (s.run events).2) ∧
    (s'.ending = none →
      (timeout ↔ now + idle ≤ t ∧ s.LongBefore State.Notes events t) ∧
      (timeout →
        (s.LongBefore State.Moves events t ↔ s.LongBefore State.WritesPart events t) ∧
        ∀ before later, events = before ++ later → t < (s.run before).1.now + idle → ∀ side,
          let x := (s.run before).1.account side later
          x.read = [] ∧ x.ended = false ∧
            ((s.run before).1.from side).pending = x.written ++ (s'.from side).pending ∧
            (x.written ≠ [] → (s'.from side).pending ≠ []))) := by
  intro s s' t timeout
  have chunked : s.Chunked := start_chunked now idle
  obtain ⟨hidle, -, -, hlast⟩ := run_clock chunked (Nat.le_refl now) events
  refine ⟨Watched.run_relay (Nat.le_refl _) chunked (Nat.le_refl now) events, ?_⟩
  intro running
  have htimeout : timeout ↔ now + idle ≤ t ∧ s.LongBefore State.Notes events t := by
    refine (ending_passed running time).trans ?_
    rw [show s'.idle = s.idle from hidle]
    exact hlast t
  refine ⟨htimeout, ?_⟩
  intro ended
  obtain ⟨-, hnoted⟩ := htimeout.mp ended
  refine ⟨⟨?_, ?_⟩, ?_⟩
  · exact fun h before e later heq hpart => h before e later heq (moves_of_writesPart hpart)
  · intro h before e later heq hmoves
    exact (notes_or_writesPart_of_moves hmoves).elim (hnoted before e later heq) (h before e later heq)
  · intro before later heq hwithin side
    obtain ⟨-, -, hrecent, -⟩ := run_clock chunked (Nat.le_refl now) before
    have unnoted : ∀ front e rest, later = front ++ e :: rest → ¬ ((s.run before).1.run front).1.Notes e := by
      intro front e rest hlater hnotes
      have hrun : (s.run (before ++ front)).1 = ((s.run before).1.run front).1 := by rw [run_append]
      have hlong := hnoted (before ++ front) e rest (by rw [heq, hlater, List.append_assoc]) (hrun ▸ hnotes)
      -- the clock does not go back after the first part of the run
      obtain ⟨-, hnow, -⟩ := run_clock (run_chunked chunked before) hrecent front
      rw [hrun] at hlong
      exact absurd (Nat.lt_of_lt_of_le hwithin (Nat.add_le_add_right hnow idle)) (Nat.not_lt.mpr hlong)
    obtain ⟨hread, hended, hpending, hleft⟩ := account_of_unnoted unnoted side
    have hend : ((s.run before).1.run later).1 = s' := by
      simp only [s', heq, run_append]
    rw [hend] at hpending hleft
    refine ⟨hread, hended, hpending, ?_⟩
    intro hwritten
    refine hleft ?_
    rw [hpending]
    exact List.append_ne_nil_of_left_ne_nil hwritten _

/-- Three bytes are read, and the other side has taken one of them forty seconds later. -/
def slowWrite : List Event := [.read .client [1, 2, 3], .passed 40, .taken .client 1]

/-- The relay is ended a minute after the read, with two bytes still to be written. -/
theorem slowWrite_unfinished :
    ((State.start 0 60).run slowWrite).1.ending = none ∧
    ((State.start 0 60).run slowWrite).1.now + 20 = 60 ∧
    (((State.start 0 60).run slowWrite).1.step (.passed 20)).1.ending = some (.failed idleFault) ∧
    [1, 2, 3] = delivered .backend [.deliver .backend [1]] ++
      (((State.start 0 60).run slowWrite).1.from .client).pending := by
  have running : ((State.start 0 60).run slowWrite).1.ending = none := by decide
  obtain ⟨-, h⟩ := run_timeout 0 60 slowWrite 20
  obtain ⟨-, hmoved⟩ := h running
  have timeout : (((State.start 0 60).run slowWrite).1.step (.passed 20)).1.ending = some (.failed idleFault) := by
    decide
  obtain ⟨-, hpart⟩ := hmoved timeout
  obtain ⟨-, -, hpending, -⟩ := hpart [.read .client [1, 2, 3], .passed 40] [.taken .client 1] rfl (by decide) .client
  exact ⟨running, by decide, timeout, hpending⟩

/-- A relay ends as idle although a byte moved within the idle time: the part of the write that is taken is not noted. -/
theorem slowWrite_times_out :
    ¬ ∀ (now idle : Nat) (events : List Event) (time : Nat),
      let s := State.start now idle
      let s' := (s.run events).1
      s'.ending = none → (s'.step (.passed time)).1.ending = some (.failed idleFault) →
        s.LongBefore State.Moves events (s'.now + time) := by
  intro h
  have hlong := h 0 60 slowWrite 20 (by decide) (by decide) [.read .client [1, 2, 3], .passed 40] (.taken .client 1) []
    rfl ⟨.client, .inr (by decide)⟩
  exact absurd hlong (by decide)

end Gatehouse.Relay
