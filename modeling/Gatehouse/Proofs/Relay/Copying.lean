import Gatehouse.Proofs.Relay.Reaction

/-!
What a relay copies. Main statement: `run_fidelity`, by which each side is given what was read from the other, in order
and without loss, over every run: a prefix of it at any time, and all of it once both streams have ended.
-/

namespace Gatehouse.Relay

variable {s : State} {side : Side} {e : Event} {d d' : Direction} {a b : Nat}

/-! ## Actions -/

@[simp] theorem delivered_nil (into : Side) : delivered into [] = [] := rfl

@[simp] theorem delivered_deliver (into : Side) (bytes : Bytes) :
    delivered side.other [.deliver into.other bytes] = if side = into then bytes else [] := by
  cases side <;> cases into <;> simp [delivered, Side.other]

@[simp] theorem delivered_close (into : Side) : delivered side [.close into] = [] := rfl

theorem delivered_append (into : Side) (before later : List Action) :
    delivered into (before ++ later) = delivered into before ++ delivered into later := List.flatMap_append

@[simp] theorem closes_nil (into : Side) : closes into [] = false := rfl

@[simp] theorem closes_deliver (into : Side) (bytes : Bytes) : closes side [.deliver into bytes] = false := by
  simp [closes]

@[simp] theorem closes_close (into : Side) : closes side.other [.close into.other] = decide (side = into) := by
  simp [closes, Side.other_inj]

/-! ## Accounts -/

/-- What one direction has done: the bytes that it read, whether it came to the end of its stream, the bytes that it
wrote, and whether it closed the other side's input. -/
structure Account where
  read : Bytes
  ended : Bool
  written : Bytes
  closed : Bool

namespace Account

/-- The account of a direction that has done nothing. -/
def blank : Account := ⟨[], false, [], false⟩

/-- One account after another. -/
def add (x y : Account) : Account :=
  ⟨x.read ++ y.read, x.ended || y.ended, x.written ++ y.written, x.closed || y.closed⟩

@[simp] theorem add_read (x y : Account) : (x.add y).read = x.read ++ y.read := rfl

@[simp] theorem add_ended (x y : Account) : (x.add y).ended = (x.ended || y.ended) := rfl

@[simp] theorem add_written (x y : Account) : (x.add y).written = x.written ++ y.written := rfl

@[simp] theorem add_blank (x : Account) : x.add blank = x := by simp [add, blank]

@[simp] theorem blank_add (x : Account) : blank.add x = x := rfl

theorem add_assoc (x y z : Account) : (x.add y).add z = x.add (y.add z) := by
  simp [add, Bool.or_assoc]

end Account

/-- The account of a direction that reads this, if it reads, while this is done to the two sides. -/
def Account.of (side : Side) (read? : Option Bytes) (actions : List Action) : Account where
  read := read?.getD []
  ended := decide (read? = some [])
  written := delivered side.other actions
  closed := closes side.other actions

/-- What the direction that starts at a side does at one event. -/
def State.entry (s : State) (side : Side) (e : Event) : Account := .of side (s.read? side e) (s.step e).2

/-- What the direction that starts at a side does over some events. -/
def State.account (s : State) (side : Side) : List Event → Account
  | [] => .blank
  | e :: rest => (s.entry side e).add ((s.step e).1.account side rest)

theorem account_written (s : State) (side : Side) (events : List Event) :
    (s.account side events).written = delivered side.other (s.run events).2 := by
  induction events generalizing s with
  | nil => rfl
  | cons e rest ih =>
    simp only [State.account, Account.add, State.run, delivered_append, ih]
    rfl

theorem account_append (s : State) (side : Side) (before later : List Event) :
    s.account side (before ++ later) = (s.account side before).add ((s.run before).1.account side later) := by
  induction before generalizing s with
  | nil => rfl
  | cons e rest ih => simp only [List.cons_append, State.account, State.run, ih, Account.add_assoc]

/-! ## One direction -/

/-- What one event can do to one direction. -/
inductive Copies : Direction → Account → Direction → Prop where
  | rests (d : Direction) : Copies d .blank d
  | reads {total : Nat} {bytes : Bytes} :
    Copies ⟨.reading, total⟩ ⟨bytes, false, [], false⟩ ⟨.writing bytes bytes.length, total⟩
  | ends {total : Nat} : Copies ⟨.reading, total⟩ ⟨[], true, [], false⟩ ⟨.closing, total⟩
  | writes {total size : Nat} (sent left : Bytes) :
    Copies ⟨.writing (sent ++ left) size, total⟩ ⟨[], false, sent, false⟩ ⟨.writing left size, total⟩
  | completes {total size : Nat} (sent : Bytes) :
    Copies ⟨.writing sent size, total⟩ ⟨[], false, sent, false⟩ ⟨.reading, total + size⟩
  | closes {total : Nat} : Copies ⟨.closing, total⟩ ⟨[], false, [], true⟩ ⟨.ended, total⟩

/-- What is read and not yet written. -/
@[simp] def Direction.pending : Direction → Bytes
  | ⟨.writing rest _, _⟩ => rest
  | _ => []

/-- How many bytes were read that are not counted yet, since not all of them are written. -/
@[simp] def Direction.uncounted : Direction → Nat
  | ⟨.writing _ size, _⟩ => size
  | _ => 0

/-- The account of a direction agrees with its state. -/
structure Balanced (d : Direction) (x : Account) : Prop where
  read : x.read = x.written ++ d.pending
  count : x.read.length = d.total + d.uncounted
  ended : x.ended = true ↔ d.phase = .closing ∨ d.phase = .ended

theorem Balanced.start : Balanced ⟨.reading, 0⟩ .blank :=
  ⟨rfl, rfl, by simp [Account.blank]⟩

theorem Balanced.step {x y : Account} (h : Balanced d x) (c : Copies d y d') : Balanced d' (x.add y) := by
  obtain ⟨read, count, ended⟩ := h
  cases c with
  | rests _ =>
    rw [Account.add_blank]
    exact ⟨read, count, ended⟩
  | reads =>
    -- what is read was all written before
    have written : x.read = x.written := by simpa using read
    exact ⟨by simp [written], by simpa using count, by simpa using ended⟩
  | ends => exact ⟨by simpa using read, by simpa using count, by simp⟩
  | writes sent left => exact ⟨by simpa using read, by simpa using count, by simpa using ended⟩
  | completes sent => exact ⟨by simpa using read, by simpa using count, by simpa using ended⟩
  | closes => exact ⟨by simpa using read, by simpa using count, by simpa using ended⟩

/-! ## One event -/

theorem read?_here (running : s.ending = none) {total : Nat} (here : s.from side = ⟨.reading, total⟩) (bytes : Bytes) :
    s.read? side (.read side bytes) = some bytes := by
  simp [State.read?, running, here]

theorem read?_elsewhere {at' : Side} (hside : side ≠ at') (bytes : Bytes) :
    s.read? side (.read at' bytes) = none := by
  simp [State.read?, hside.symm]

/-- The direction that an event is about copies, and the other rests. -/
theorem Reaction.copies {s' : State} {actions : List Action} (reaction : Reaction s e s' actions)
    (running : s.ending = none) (side : Side) :
    Copies (s.from side) (.of side (s.read? side e) actions) (s'.from side) := by
  cases reaction with
  | ignores _ unread =>
    rw [unread]
    exact .rests _
  | fails _ unread f =>
    rw [unread, from_finish]
    exact .rests _
  | stops =>
    rw [from_finish]
    exact .rests _
  | waits time _ =>
    rw [from_later]
    exact .rests _
  | tires time _ =>
    rw [from_finish, from_later]
    exact .rests _
  | @reads at' bytes total here hne =>
    rw [from_active, from_withFrom]
    split
    case isTrue hside =>
      subst hside
      rw [read?_here running here, here]
      simpa [Account.of, hne] using Copies.reads
    case isFalse hside =>
      rw [read?_elsewhere hside]
      exact .rests _
  | @ends at' total here =>
    rw [from_active, from_withFrom]
    split
    case isTrue hside =>
      subst hside
      rw [read?_here running here, here]
      exact .ends
    case isFalse hside =>
      rw [read?_elsewhere hside]
      exact .rests _
  | @writes at' count size total sent left here _ =>
    rw [from_withFrom]
    split
    case isTrue hside =>
      subst hside
      rw [here]
      simpa [Account.of, State.read?] using Copies.writes sent left
    case isFalse hside => simpa [Account.of, Account.blank, State.read?, hside] using Copies.rests (s.from side)
  | @completes at' count size total sent here =>
    rw [from_active, from_withFrom]
    split
    case isTrue hside =>
      subst hside
      rw [here]
      simpa [Account.of, State.read?] using Copies.completes sent
    case isFalse hside => simpa [Account.of, Account.blank, State.read?, hside] using Copies.rests (s.from side)
  | @closes at' total here =>
    rw [from_settle, from_withFrom]
    split
    case isTrue hside =>
      subst hside
      rw [here]
      simpa [Account.of, State.read?] using Copies.closes
    case isFalse hside => simpa [Account.of, Account.blank, State.read?, hside] using Copies.rests (s.from side)

theorem entry_of_ended (he : s.ending ≠ none) (side : Side) (e : Event) : s.entry side e = .blank := by
  have unread : s.read? side e = none := by cases e <;> simp [State.read?, he]
  rw [State.entry, unread, step_of_ended he]
  rfl

/-- Whatever happens, each direction does one of few things. -/
theorem step_copies (s : State) (side : Side) (e : Event) :
    Copies (s.from side) (s.entry side e) ((s.step e).1.from side) := by
  by_cases running : s.ending = none
  · exact (step_reaction running e).copies running side
  -- a relay that has ended reads nothing and does nothing
  · rw [entry_of_ended running, step_of_ended running]
    exact .rests _

/-! ## Runs -/

theorem run_balanced {x : Account} (h : Balanced (s.from side) x) (events : List Event) :
    Balanced ((s.run events).1.from side) (x.add (s.account side events)) := by
  induction events generalizing s x with
  | nil => exact (Account.add_blank x).symm ▸ h
  | cons e rest ih =>
    have later := ih (h.step (step_copies s side e))
    rw [Account.add_assoc] at later
    exact later

theorem Copies.closing {x : Account} (c : Copies d x d') (h : x.closed = true) : d.phase = .closing := by
  cases c with
  | closes => rfl
  | rests _ => cases h
  | reads => cases h
  | ends => cases h
  | writes _ _ => cases h
  | completes _ => cases h

theorem account_of_ended (he : s.ending ≠ none) (side : Side) (events : List Event) :
    s.account side events = .blank := by
  induction events with
  | nil => rfl
  | cons e rest ih => rw [State.account, entry_of_ended he, step_of_ended he, Account.blank_add, ih]

/-- A direction whose stream has ended. -/
def Direction.IsOver (d : Direction) : Prop := d.phase = .closing ∨ d.phase = .ended

/-- A direction whose stream has ended has written and counted all that it read. -/
theorem Balanced.of_isOver {x : Account} (h : Balanced d x) (isOver : d.IsOver) :
    x.ended = true ∧ x.written = x.read ∧ d.total = x.read.length := by
  refine ⟨h.ended.mpr isOver, ?_⟩
  obtain ⟨phase, total⟩ := d
  have hread := h.read
  have hcount := h.count
  rcases isOver with rfl | rfl
  · exact ⟨by simpa using hread.symm, by simpa using hcount.symm⟩
  · exact ⟨by simpa using hread.symm, by simpa using hcount.symm⟩

/-- A direction whose stream has ended reads and writes nothing any more. -/
theorem Copies.of_isOver {x : Account} (c : Copies d x d') (isOver : d.IsOver) :
    d'.IsOver ∧ x.read = [] ∧ x.written = [] := by
  cases c with
  | rests _ => exact ⟨isOver, rfl, rfl⟩
  | closes => exact ⟨.inr rfl, rfl, rfl⟩
  | reads => simp [Direction.IsOver] at isOver
  | ends => simp [Direction.IsOver] at isOver
  | writes _ _ => simp [Direction.IsOver] at isOver
  | completes _ => simp [Direction.IsOver] at isOver

theorem account_of_isOver (isOver : (s.from side).IsOver) (events : List Event) :
    (s.account side events).read = [] ∧ (s.account side events).written = [] := by
  induction events generalizing s with
  | nil => exact ⟨rfl, rfl⟩
  | cons e rest ih =>
    obtain ⟨isOver', hread, hwritten⟩ := (step_copies s side e).of_isOver isOver
    obtain ⟨hread', hwritten'⟩ := ih isOver'
    exact ⟨by simp [State.account, hread, hread'], by simp [State.account, hwritten, hwritten']⟩

/-- What a relay reports that has finished. -/
def State.ReportsTotals (s : State) : Prop :=
  ∀ a b, s.ending = some (.finished a b) →
    s.fromClient.phase = .ended ∧ s.fromBackend.phase = .ended ∧ a = s.fromClient.total ∧ b = s.fromBackend.total

theorem reportsTotals_of_running (running : s.ending = none) : s.ReportsTotals := by
  intro a b h
  rw [running] at h
  cases h

theorem reportsTotals_failed (s : State) (f : IoFault) : (s.finish (.failed f)).ReportsTotals :=
  fun _ _ h => by cases h

theorem reportsTotals_settle (running : s.ending = none) : s.settle.ReportsTotals := by
  rw [State.settle]
  split
  case isTrue both =>
    intro a b h
    cases h
    exact ⟨both.1, both.2, rfl, rfl⟩
  case isFalse => exact reportsTotals_of_running running

theorem Reaction.reportsTotals {s' : State} {actions : List Action} (reaction : Reaction s e s' actions)
    (running : s.ending = none) : s'.ReportsTotals := by
  cases reaction with
  | ignores _ _ => exact reportsTotals_of_running running
  | fails _ _ f => exact reportsTotals_failed s f
  | stops => exact reportsTotals_failed s _
  | waits _ _ => exact reportsTotals_of_running running
  | tires _ _ => exact reportsTotals_failed _ _
  | reads _ _ => exact reportsTotals_of_running ((ending_withFrom s _ _).trans running)
  | ends _ => exact reportsTotals_of_running ((ending_withFrom s _ _).trans running)
  | writes _ _ => exact reportsTotals_of_running ((ending_withFrom s _ _).trans running)
  | completes _ => exact reportsTotals_of_running ((ending_withFrom s _ _).trans running)
  | closes _ => exact reportsTotals_settle ((ending_withFrom s _ _).trans running)

theorem step_reportsTotals (h : s.ReportsTotals) (e : Event) : (s.step e).1.ReportsTotals := by
  by_cases running : s.ending = none
  · exact (step_reaction running e).reportsTotals running
  · rw [step_of_ended running]
    exact h

theorem run_reportsTotals (h : s.ReportsTotals) (events : List Event) : (s.run events).1.ReportsTotals := by
  induction events generalizing s with
  | nil => exact h
  | cons e rest ih => exact ih (step_reportsTotals h e)

theorem start_balanced (now idle : Nat) (side : Side) (events : List Event) :
    Balanced (((State.start now idle).run events).1.from side) ((State.start now idle).account side events) := by
  have hstart : Balanced ((State.start now idle).from side) .blank := by
    cases side <;> exact .start
  exact run_balanced hstart events

/-- An input is closed at an event only if the stream has ended that it is closed for. -/
theorem closing_of_close (h : Action.close side.other ∈ (s.step e).2) : (s.from side).phase = .closing := by
  have hentry : (s.entry side e).closed = true := List.contains_iff_mem.mpr h
  exact (step_copies s side e).closing hentry

/-- In every state of every run, with reads of any size, partial writes and faults in any order: what a side was given
is a prefix of what was read from the other, and the rest is still to be written. The input of a side is closed only
when the other stream has ended and all of it was given, and nothing is given to that side afterwards. A relay finishes
only when both streams have ended and all that was read was given, and it reports how many bytes that was. A relay that
is stopped fails, and neither reads nor gives anything from then on. -/
theorem run_fidelity (now idle : Nat) (events : List Event) :
    let s := State.start now idle
    let s' := (s.run events).1
    let actions := (s.run events).2
    let received (side : Side) := (s.account side events).read
    (∀ side : Side, delivered side.other actions <+: received side ∧
      received side = delivered side.other actions ++ (s'.from side).pending) ∧
    (∀ (side : Side) (e : Event), Action.close side.other ∈ (s'.step e).2 →
      (s.account side events).ended = true ∧ delivered side.other actions = received side ∧
        ∀ later, delivered side.other (s.run (events ++ later)).2 = received side) ∧
    (∀ a b, s'.ending = some (.finished a b) →
      (∀ side : Side, (s.account side events).ended = true ∧ delivered side.other actions = received side) ∧
        a = (received .client).length ∧ b = (received .backend).length) ∧
    (s'.ending = none → ∀ later,
      let o := s.run (events ++ .stop :: later)
      o.1.ending = some (.failed stoppedFault) ∧ o.2 = actions ∧
        ∀ side, (s.account side (events ++ .stop :: later)).read = received side) := by
  intro s s' actions received
  have balanced : ∀ side, Balanced (s'.from side) (s.account side events) :=
    fun side => start_balanced now idle side events
  have hwritten : ∀ side, (s.account side events).written = delivered side.other actions :=
    fun side => account_written s side events
  refine ⟨?_, ?_, ?_, ?_⟩
  · intro side
    have hread := hwritten side ▸ (balanced side).read
    exact ⟨⟨_, hread.symm⟩, hread⟩
  · intro side e hclose
    -- at the end of its stream a direction has nothing left to write, and reads no more
    have isOver : (s'.from side).IsOver := .inl (closing_of_close hclose)
    obtain ⟨hended, hgiven, -⟩ := (balanced side).of_isOver isOver
    rw [hwritten] at hgiven
    refine ⟨hended, hgiven, ?_⟩
    intro later
    obtain ⟨-, hnothing⟩ := account_of_isOver isOver later
    rw [account_written] at hnothing
    rw [run_append, delivered_append, hnothing, List.append_nil]
    exact hgiven
  · intro a b hfinished
    have reports : s'.ReportsTotals := run_reportsTotals (reportsTotals_of_running rfl) events
    obtain ⟨hclient, hbackend, rfl, rfl⟩ := reports a b hfinished
    have isOver : ∀ side, (s'.from side).IsOver := by
      intro side
      cases side with
      | client => exact .inr hclient
      | backend => exact .inr hbackend
    refine ⟨?_, ((balanced .client).of_isOver (isOver .client)).2.2, ((balanced .backend).of_isOver (isOver .backend)).2.2⟩
    intro side
    obtain ⟨hended, hgiven, -⟩ := (balanced side).of_isOver (isOver side)
    exact ⟨hended, hwritten side ▸ hgiven⟩
  · intro running later o
    have hstop : s'.step .stop = (s'.finish (.failed stoppedFault), []) := step_of_running running .stop
    have hended : (s'.finish (.failed stoppedFault)).ending ≠ none := fun h => by cases h
    have ho : o = (s'.finish (.failed stoppedFault), actions) := by
      have hlater : s'.run (.stop :: later) = (s'.finish (.failed stoppedFault), []) := by
        simp only [State.run, hstop, run_of_ended hended, List.append_nil]
      simp only [o, run_append]
      rw [hlater, List.append_nil]
    refine ⟨by rw [ho]; rfl, by rw [ho], ?_⟩
    intro side
    have hentry : s'.entry side .stop = .blank := by
      rw [State.entry, hstop]
      rfl
    rw [account_append, State.account, hentry, hstop, Account.blank_add, account_of_ended hended, Account.add_blank]

/-- A run in which reads and writes of both directions mix, writes are taken in parts, and one stream ends before the
other. -/
def mixed : List Event :=
  [.read .client [1, 2, 3], .read .backend [9], .taken .client 2, .taken .backend 1, .taken .client 1, .read .client [],
    .closed .client, .read .backend [7, 8], .taken .backend 1, .taken .backend 1, .read .backend [], .closed .backend]

/-- The run finishes with all that was read, and at its third event the relay could be stopped with a part of it. -/
theorem mixed_faithful :
    (delivered .backend ((State.start 0 60).run mixed).2 = [1, 2, 3] ∧
      delivered .client ((State.start 0 60).run mixed).2 = [9, 7, 8]) ∧
    ((State.start 0 60).run (mixed.take 3 ++ .stop :: mixed.drop 3)).2 = [.deliver .backend [1, 2]] := by
  obtain ⟨-, -, finished, -⟩ := run_fidelity 0 60 mixed
  obtain ⟨hgiven, -⟩ := finished 3 3 (by decide)
  obtain ⟨-, -, -, stopped⟩ := run_fidelity 0 60 (mixed.take 3)
  obtain ⟨-, hactions, -⟩ := stopped (by decide) (mixed.drop 3)
  exact ⟨⟨(hgiven .client).2.trans (by decide), (hgiven .backend).2.trans (by decide)⟩, hactions.trans (by decide)⟩

end Gatehouse.Relay
