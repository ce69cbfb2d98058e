import Gatehouse.PidFile
import Mathlib.Data.List.Induction

/-!
The PID file over every interleaving of processes that start, are refused, run and end. Main statement: `run_holds`,
what a locked file under the name holds. `refused_empties` is the shortest run that ends with a process that runs and an
empty file.
-/

namespace Gatehouse.PidFile

variable {s : State} {w : World} {n m p q : Nat} {turns : List Nat} {content : Bytes}

/-! ## Effects -/

def State.content? (s : State) (n : Nat) : Option Bytes := s.nodes[n]?.map (·.content)

theorem current?_eq_some_iff {holder : Option Nat} :
    s.current? = some ⟨content, holder⟩ ↔
      ∃ n, s.named = some n ∧ s.content? n = some content ∧ s.holder? n = holder := by
  rw [State.current?, Option.bind_eq_some_iff]
  refine exists_congr fun n => and_congr_right fun _ => ?_
  rw [State.content?, State.holder?]
  rcases s.nodes[n]? with _ | ⟨content', holder'⟩ <;> simp

theorem content?_of_lt (h : n < s.nodes.length) : ∃ content, s.content? n = some content :=
  ⟨_, by rw [State.content?, List.getElem?_eq_getElem h, Option.map_some]⟩

theorem nodes_update (s : State) (n m : Nat) (change : Node → Node) :
    (s.update n change).nodes[m]? = if m = n then s.nodes[m]?.map change else s.nodes[m]? := by
  rw [State.update, List.getElem?_modify]
  by_cases h : m = n
  · subst h
    simp
  · simp [h, Ne.symm h]

theorem length_update (s : State) (n : Nat) (change : Node → Node) :
    (s.update n change).nodes.length = s.nodes.length := List.length_modify ..

/-- A change that keeps the content of a file. -/
theorem content?_update (s : State) (n m : Nat) {change : Node → Node} (h : ∀ f, (change f).content = f.content) :
    (s.update n change).content? m = s.content? m := by
  rw [State.content?, nodes_update, State.content?]
  split
  · rw [Option.map_map]
    exact congrArg (s.nodes[m]?.map ·) (funext h)
  · rfl

/-- A change of the content of a file. -/
theorem content?_rewrite (s : State) (n m : Nat) (change : Bytes → Bytes) :
    (s.update n fun f => { f with content := change f.content }).content? m =
      if m = n then (s.content? m).map change else s.content? m := by
  rw [State.content?, nodes_update, State.content?]
  split
  · rw [Option.map_map, Option.map_map]
    rfl
  · rfl

/-- A change that keeps the lock of a file. -/
theorem holder?_update (s : State) (n m : Nat) {change : Node → Node} (h : ∀ f, (change f).holder = f.holder) :
    (s.update n change).holder? m = s.holder? m := by
  rw [State.holder?, nodes_update, State.holder?]
  split
  · rcases s.nodes[m]? with _ | f
    · rfl
    · exact h f
  · rfl

@[simp] theorem named_empty (s : State) (n : Nat) : (empty s n).named = s.named := rfl

@[simp] theorem length_empty (s : State) (n : Nat) : (empty s n).nodes.length = s.nodes.length := length_update ..

@[simp] theorem holder?_empty (s : State) (n m : Nat) : (empty s n).holder? m = s.holder? m :=
  holder?_update s n m fun _ => rfl

theorem content?_empty (s : State) (n m : Nat) :
    (empty s n).content? m = if m = n then (s.content? m).map fun _ => [] else s.content? m :=
  content?_rewrite s n m fun _ => []

@[simp] theorem named_lock (s : State) (n p : Nat) : (lock s n p).named = s.named := rfl

@[simp] theorem length_lock (s : State) (n p : Nat) : (lock s n p).nodes.length = s.nodes.length := length_update ..

@[simp] theorem content?_lock (s : State) (n p m : Nat) : (lock s n p).content? m = s.content? m :=
  content?_update s n m fun _ => rfl

theorem holder?_lock (hn : n < s.nodes.length) (p m : Nat) :
    (lock s n p).holder? m = if m = n then some p else s.holder? m := by
  rw [State.holder?, lock, nodes_update, State.holder?]
  split
  case isTrue hm =>
    rw [hm, List.getElem?_eq_getElem hn]
    rfl
  case isFalse => rfl

section Write

variable (s : State) (n place : Nat) (bytes : Bytes)

@[simp] theorem named_write : (write s n place bytes).named = s.named := rfl

@[simp] theorem length_write : (write s n place bytes).nodes.length = s.nodes.length := length_update ..

@[simp] theorem holder?_write (m : Nat) : (write s n place bytes).holder? m = s.holder? m :=
  holder?_update s n m fun _ => rfl

theorem content?_write (m : Nat) :
    (write s n place bytes).content? m =
      if m = n then (s.content? m).map (overlay · place bytes) else s.content? m :=
  content?_rewrite s n m (overlay · place bytes)

end Write

@[simp] theorem length_close (s : State) (n p : Nat) : (close s n p).nodes.length = s.nodes.length := length_update ..

@[simp] theorem content?_close (s : State) (n p m : Nat) : (close s n p).content? m = s.content? m := by
  refine content?_update s n m fun f => ?_
  split <;> rfl

theorem holder?_close (s : State) (n p m : Nat) :
    (close s n p).holder? m = if m = n ∧ s.holder? m = some p then none else s.holder? m := by
  rw [State.holder?, close, nodes_update, State.holder?]
  by_cases hm : m = n
  · rcases s.nodes[m]? with _ | ⟨content, holder⟩
    · simp
    · by_cases hp : holder = some p <;> simp [hm, hp]
  · simp [hm]

@[simp] theorem holder?_unlink (s : State) (m : Nat) : (unlink s).holder? m = s.holder? m := rfl

theorem openNamed_of_named (h : s.named = some n) : openNamed s = (n, s) := by rw [openNamed, h]

theorem openNamed_of_unnamed (h : s.named = none) :
    openNamed s = (s.nodes.length, ⟨s.nodes ++ [⟨[], none⟩], some s.nodes.length⟩) := by rw [openNamed, h]

@[simp] theorem named_openNamed (s : State) : (openNamed s).2.named = some (openNamed s).1 := by
  cases h : s.named with
  | none => rw [openNamed_of_unnamed h]
  | some n => rw [openNamed_of_named h, h]

theorem length_le_openNamed (s : State) : s.nodes.length ≤ (openNamed s).2.nodes.length := by
  cases h : s.named with
  | none => simp [openNamed_of_unnamed h]
  | some n => simp [openNamed_of_named h]

theorem openNamed_lt (h : ∀ n, s.named = some n → n < s.nodes.length) :
    (openNamed s).1 < (openNamed s).2.nodes.length := by
  cases hs : s.named with
  | none => simp [openNamed_of_unnamed hs]
  | some n =>
    rw [openNamed_of_named hs]
    exact h n hs

/-- An old file is opened only if the name leads to it. -/
theorem named_of_openNamed (h : (openNamed s).1 < s.nodes.length) : s.named = some (openNamed s).1 := by
  cases hs : s.named with
  | none =>
    rw [openNamed_of_unnamed hs] at h
    exact absurd h (Nat.lt_irrefl _)
  | some n => rw [openNamed_of_named hs]

@[simp] theorem holder?_openNamed (s : State) (m : Nat) : (openNamed s).2.holder? m = s.holder? m := by
  cases h : s.named with
  | none =>
    rw [openNamed_of_unnamed h, State.holder?, State.holder?]
    rcases Nat.lt_trichotomy m s.nodes.length with hlt | rfl | hgt
    · rw [List.getElem?_append_left hlt]
    · simp
    · rw [List.getElem?_eq_none (Nat.le_of_lt hgt), List.getElem?_eq_none (by simp; omega)]
  | some n => rw [openNamed_of_named h]

theorem content?_openNamed (h : m < s.nodes.length) : (openNamed s).2.content? m = s.content? m := by
  cases hs : s.named with
  | none => rw [openNamed_of_unnamed hs, State.content?, State.content?, List.getElem?_append_left h]
  | some n => rw [openNamed_of_named hs]

theorem overlay_nil (place : Nat) (bytes : Bytes) : overlay [] place bytes = List.replicate place 0 ++ bytes := by
  simp [overlay]

theorem overlay_append (content bytes : Bytes) : overlay content content.length bytes = content ++ bytes := by
  simp [overlay]

/-- A start that nobody interferes with leaves the line of its process under the name, unless it is refused. -/
theorem claim_content (named : ∀ n, s.named = some n → n < s.nodes.length) (granted : (claim s p).1 = true) :
    (claim s p).2.current? = some ⟨line p, some p⟩ := by
  have hn := openNamed_lt named
  obtain ⟨old, hold⟩ := content?_of_lt hn
  by_cases free : s.holder? (openNamed s).1 = none
  · have hclaim : (claim s p).2 = write (write (lock (empty (openNamed s).2 (openNamed s).1) (openNamed s).1 p)
        (openNamed s).1 0 (number p)) (openNamed s).1 (number p).length lineFeed := by simp [claim, free]
    rw [hclaim, current?_eq_some_iff]
    refine ⟨(openNamed s).1, by simp, ?_, ?_⟩
    · simp [content?_write, content?_empty, hold, overlay_nil, overlay_append, line]
    · simp [holder?_lock, hn]
  · simp [claim, free] at granted

/-! ## What a turn keeps -/

/-- The file that a process has open. -/
def Phase.file? : Phase → Option Nat
  | absent => none
  | opened n | emptied n | locked n | numbered n | running n | unlinked n => some n

/-- The file whose lock a process has. -/
def Phase.held? : Phase → Option Nat
  | absent | opened _ | emptied _ => none
  | locked n | numbered n | running n | unlinked n => some n

theorem file?_next {phase : Phase} (h : (next s p phase).2.file? = some n) :
    phase = .absent ∧ (openNamed s).1 = n ∨ phase.file? = some n := by
  cases phase with
  | absent => exact .inl ⟨rfl, Option.some.inj h⟩
  | emptied m =>
    rw [next] at h
    split at h
    · exact .inr h
    · cases h
  | unlinked m => cases h
  | _ => exact .inr h

/-- Where a process comes from. -/
theorem before_next (s : State) (p : Nat) (phase : Phase) :
    match (next s p phase).2 with
    | .absent => True
    | .opened _ => phase = .absent
    | .emptied n => phase = .opened n
    | .locked n => phase = .emptied n ∧ s.holder? n = none
    | .numbered n => phase = .locked n
    | .running n => phase = .numbered n
    | .unlinked n => phase = .running n := by
  cases phase with
  | emptied n => by_cases free : s.holder? n = none <;> simp [next, free]
  | unlinked n => trivial
  | _ => rfl

/-- A process has a lock until it closes a file whose name it has taken away. -/
theorem held?_next {phase : Phase} (h : phase.held? = some n) :
    (next s p phase).2.held? = some n ∨ phase = .unlinked n := by
  cases phase with
  | locked m => exact .inl h
  | numbered m => exact .inl h
  | running m => exact .inl h
  | unlinked m => exact .inr (congrArg _ (Option.some.inj h))
  | _ => cases h

namespace World

/-- What holds between turns. The lock of a file is that of the process whose phase says so, and a process that ends has
taken the name away. So while the name leads to a file that a process has emptied, it stays empty until one has its lock
and writes. -/
structure Sound (w : World) : Prop where
  named : ∀ n, w.file.named = some n → n < w.file.nodes.length
  opened : ∀ p n, (w.phase p).file? = some n → n < w.file.nodes.length
  locked : ∀ p n, w.file.holder? n = some p ↔ (w.phase p).held? = some n
  unlinked : ∀ p n, w.phase p = .unlinked n → w.file.named ≠ some n
  emptied : ∀ p n, w.phase p = .emptied n → w.file.named = some n → w.file.holder? n = none → w.file.content? n = some []
  unwritten : ∀ p n, w.phase p = .locked n → w.file.named = some n → w.file.content? n = some []

theorem file_step (w : World) (q : Nat) : (w.step q).file = (next w.file q (w.phase q)).1 := rfl

theorem phase_step (w : World) (q p : Nat) :
    (w.step q).phase p = if p = q then (next w.file q (w.phase q)).2 else w.phase p := rfl

theorem phase_step_self (w : World) (q : Nat) : (w.step q).phase q = (next w.file q (w.phase q)).2 := if_pos rfl

theorem phase_step_of_ne (w : World) (h : p ≠ q) : (w.step q).phase p = w.phase p := if_neg h

theorem Sound.file_lt (h : w.Sound) (held : (w.phase p).held? = some n) : n < w.file.nodes.length := by
  refine h.opened p n ?_
  cases hp : w.phase p <;> simp_all [Phase.held?, Phase.file?]

theorem Sound.eq_of_held (h : w.Sound) (hp : (w.phase p).held? = some n) (hq : (w.phase q).held? = some n) : p = q :=
  Option.some.inj (((h.locked p n).mpr hp).symm.trans ((h.locked q n).mpr hq))

theorem length_le_step (w : World) (q : Nat) : w.file.nodes.length ≤ (w.step q).file.nodes.length := by
  rw [file_step]
  cases w.phase q with
  | absent => exact length_le_openNamed _
  | opened n => simp [next]
  | emptied n =>
    rw [next]
    split <;> simp
  | locked n => simp [next]
  | numbered n => simp [next]
  | running n => exact Nat.le_refl _
  | unlinked n => simp [next]

/-- The name leads to what a process has opened with this turn, or to where it led before, or nowhere. -/
theorem step_named (w : World) (q : Nat) :
    (w.step q).file = (openNamed w.file).2 ∨ (w.step q).file.named = w.file.named ∨ (w.step q).file.named = none := by
  rw [file_step]
  cases w.phase q with
  | absent => exact .inl rfl
  | emptied n =>
    refine .inr (.inl ?_)
    rw [next]
    split <;> rfl
  | running n => exact .inr (.inr rfl)
  | _ => exact .inr (.inl rfl)

/-- No turn gives the name back to a file that it was taken from. -/
theorem named_of_step (hn : n < w.file.nodes.length) (h : (w.step q).file.named = some n) : w.file.named = some n := by
  rcases step_named w q with hopen | hsame | hnone
  · rw [hopen, named_openNamed, Option.some.injEq] at h
    exact (named_of_openNamed (h ▸ hn)).trans (congrArg some h)
  · exact hsame.symm.trans h
  · cases hnone.symm.trans h

/-- A turn of a process that does not have the lock of a file leaves what it holds, or empties it. -/
theorem content?_step (hn : n < w.file.nodes.length) (other : (w.phase q).held? ≠ some n) :
    (w.step q).file.content? n =
      if w.phase q = .opened n then (w.file.content? n).map fun _ => [] else w.file.content? n := by
  rw [file_step]
  cases hq : w.phase q with
  | absent => simp [next, content?_openNamed hn]
  | opened m =>
    rw [next, content?_empty]
    simp [eq_comm]
  | emptied m =>
    rw [next]
    split <;> simp
  | locked m =>
    have : n ≠ m := fun h => other (by rw [hq, h, Phase.held?])
    simp [next, content?_write, this]
  | numbered m =>
    have : n ≠ m := fun h => other (by rw [hq, h, Phase.held?])
    simp [next, content?_write, this]
  | running m => rfl
  | unlinked m => simp [next]

theorem empty_of_step (hn : n < w.file.nodes.length) (other : (w.phase q).held? ≠ some n)
    (h : w.file.content? n = some []) : (w.step q).file.content? n = some [] := by
  rw [content?_step hn other, h]
  split <;> rfl

theorem Sound.named_lt_step (h : w.Sound) (hn : (w.step q).file.named = some n) :
    n < (w.step q).file.nodes.length := by
  rcases step_named w q with hopen | hsame | hnone
  · rw [hopen, named_openNamed, Option.some.injEq] at hn
    rw [hopen, ← hn]
    exact openNamed_lt h.named
  · exact Nat.lt_of_lt_of_le (h.named n (hsame.symm.trans hn)) (length_le_step w q)
  · cases hnone.symm.trans hn

theorem Sound.opened_lt_step (h : w.Sound) (hp : ((w.step q).phase p).file? = some n) :
    n < (w.step q).file.nodes.length := by
  by_cases hpq : p = q
  · subst hpq
    rw [phase_step_self] at hp
    rcases file?_next hp with ⟨hq, rfl⟩ | hq
    · rw [file_step, hq]
      exact openNamed_lt h.named
    · exact Nat.lt_of_lt_of_le (h.opened p n hq) (length_le_step w p)
  · rw [phase_step_of_ne w hpq] at hp
    exact Nat.lt_of_lt_of_le (h.opened p n hp) (length_le_step w q)

theorem Sound.locked_step (h : w.Sound) (q p n : Nat) :
    (w.step q).file.holder? n = some p ↔ ((w.step q).phase p).held? = some n := by
  have before := h.locked
  have bound := h.opened q
  rw [file_step, phase_step]
  -- only a turn behind `emptied` or `unlinked` touches a lock, and then it is the lock of `q`
  cases hq : w.phase q <;> grind [next, Phase.held?, Phase.file?, holder?_openNamed, holder?_empty, holder?_lock,
    holder?_write, holder?_unlink, holder?_close]

theorem Sound.unlinked_step (h : w.Sound) (hp : (w.step q).phase p = .unlinked n) :
    (w.step q).file.named ≠ some n := by
  by_cases hpq : p = q
  · subst hpq
    have before := before_next w.file p (w.phase p)
    rw [phase_step_self] at hp
    rw [hp] at before
    rw [file_step, before]
    exact nofun
  · rw [phase_step_of_ne w hpq] at hp
    exact fun hn => h.unlinked p n hp (named_of_step (h.opened p n (by rw [hp, Phase.file?])) hn)

/-- A file that the name still leads to does not lose its lock. -/
theorem Sound.holder?_of_step (h : w.Sound) (hn : n < w.file.nodes.length) (named : (w.step q).file.named = some n)
    (free : (w.step q).file.holder? n = none) : w.file.holder? n = none := by
  refine Option.eq_none_iff_forall_ne_some.mpr fun r hr => ?_
  have held := (h.locked r n).mp hr
  have lost : ((w.step q).phase r).held? ≠ some n := fun keeps => by
    cases free.symm.trans ((h.locked_step q r n).mpr keeps)
  by_cases hrq : r = q
  · subst hrq
    rw [phase_step_self] at lost
    exact h.unlinked r n ((held?_next held).resolve_left lost) (named_of_step hn named)
  · rw [phase_step_of_ne w hrq] at lost
    exact lost held

theorem Sound.emptied_step (h : w.Sound) (hp : (w.step q).phase p = .emptied n)
    (named : (w.step q).file.named = some n) (free : (w.step q).file.holder? n = none) :
    (w.step q).file.content? n = some [] := by
  by_cases hpq : p = q
  · subst hpq
    have before := before_next w.file p (w.phase p)
    rw [phase_step_self] at hp
    rw [hp] at before
    obtain ⟨content, hcontent⟩ := content?_of_lt (h.opened p n (by rw [before, Phase.file?]))
    rw [file_step, before, next, content?_empty, if_pos rfl, hcontent, Option.map_some]
  · rw [phase_step_of_ne w hpq] at hp
    have hn := h.opened p n (by rw [hp, Phase.file?])
    have freeBefore := h.holder?_of_step hn named free
    refine empty_of_step hn (fun held => ?_) (h.emptied p n hp (named_of_step hn named) freeBefore)
    cases freeBefore.symm.trans ((h.locked q n).mpr held)

theorem Sound.unwritten_step (h : w.Sound) (hp : (w.step q).phase p = .locked n)
    (named : (w.step q).file.named = some n) : (w.step q).file.content? n = some [] := by
  by_cases hpq : p = q
  · subst hpq
    have before := before_next w.file p (w.phase p)
    rw [phase_step_self] at hp
    rw [hp] at before
    obtain ⟨hq, free⟩ := before
    have hn := h.opened p n (by rw [hq, Phase.file?])
    rw [file_step, hq, next, if_pos free, content?_lock]
    exact h.emptied p n hq (named_of_step hn named) free
  · rw [phase_step_of_ne w hpq] at hp
    have held : (w.phase p).held? = some n := by rw [hp, Phase.held?]
    have hn := h.file_lt held
    exact empty_of_step hn (fun other => hpq (h.eq_of_held held other)) (h.unwritten p n hp (named_of_step hn named))

theorem Sound.step (h : w.Sound) (q : Nat) : (w.step q).Sound where
  named _ := h.named_lt_step
  opened _ _ := h.opened_lt_step
  locked := h.locked_step q
  unlinked _ _ := h.unlinked_step
  emptied _ _ := h.emptied_step
  unwritten _ _ := h.unwritten_step

theorem atRest_sound (named : ∀ n, s.named = some n → n < s.nodes.length) (free : ∀ f ∈ s.nodes, f.holder = none) :
    (atRest s).Sound where
  named := named
  opened := nofun
  locked p n := by
    refine iff_of_false (fun hn => ?_) nofun
    obtain ⟨f, hf, hp⟩ := Option.bind_eq_some_iff.mp hn
    cases (free f (List.mem_of_getElem? hf)).symm.trans hp
  unlinked := nofun
  emptied := nofun
  unwritten := nofun

theorem run_append (w : World) (turns later : List Nat) : w.run (turns ++ later) = (w.run turns).run later :=
  List.foldl_append

theorem run_snoc (w : World) (turns : List Nat) (q : Nat) : w.run (turns ++ [q]) = (w.run turns).step q :=
  run_append w turns [q]

theorem Sound.run (h : w.Sound) (turns : List Nat) : (w.run turns).Sound := by
  induction turns generalizing w with
  | nil => exact h
  | cons q rest ih => exact ih (h.step q)

/-- Without interference, a start is five turns of its process, or three if it is refused. -/
theorem run_claim (absent : w.phase p = .absent) :
    if (claim w.file p).1 then
      (w.run (List.replicate 5 p)).file = (claim w.file p).2 ∧
        (w.run (List.replicate 5 p)).phase p = .running (openNamed w.file).1
    else
      (w.run (List.replicate 3 p)).file = (claim w.file p).2 ∧ (w.run (List.replicate 3 p)).phase p = .absent := by
  by_cases free : w.file.holder? (openNamed w.file).1 = none
  · simp [claim, run, World.step, next, absent, free]
  · simp [claim, run, World.step, next, absent, free]

/-! ## What a locked file holds -/

/-- Whether one of these turns empties a file. -/
def empties (n : Nat) (w : World) : List Nat → Bool
  | [] => false
  | q :: rest => w.phase q == .opened n || empties n (w.step q) rest

theorem empties_snoc (n : Nat) (w : World) (turns : List Nat) (q : Nat) :
    empties n w (turns ++ [q]) = (empties n w turns || (w.run turns).phase q == .opened n) := by
  induction turns generalizing w with
  | nil => simp [empties, run]
  | cons r rest ih =>
    rw [List.cons_append, empties, ih, empties, Bool.or_assoc]
    rfl

/-- What a process that has the lock of a file has made of it with these turns. -/
inductive Holds (w : World) (p n : Nat) (turns : List Nat) : Bytes → Prop
  /-- It has not written yet. -/
  | locked (now : (w.run turns).phase p = .locked n) : Holds w p n turns []
  /-- It has written its number, after the turns `before`. -/
  | numbered {before later : List Nat} (now : (w.run turns).phase p = .numbered n) (split : turns = before ++ p :: later)
      (writes : (w.run before).phase p = .locked n) (waits : p ∉ later) :
      Holds w p n turns (if empties n (w.run (before ++ [p])) later then [] else number p)
  /-- It has written the line feed, too, after the turns `between`, and runs. -/
  | running {before between later : List Nat} (now : (w.run turns).phase p = .running n)
      (split : turns = before ++ p :: (between ++ p :: later)) (writes : (w.run before).phase p = .locked n)
      (waits : p ∉ between) (stays : p ∉ later) :
      Holds w p n turns
        (if empties n (w.run (before ++ p :: (between ++ [p]))) later then []
        else if empties n (w.run (before ++ [p])) between then List.replicate (number p).length 0 ++ lineFeed
        else line p)

/-- While a process has the lock, others can do no more to the file than empty it. -/
theorem Holds.snoc_of_ne (h : Holds w p n turns content) (hpq : p ≠ q) :
    Holds w p n (turns ++ [q]) (if (w.run turns).phase q = .opened n then [] else content) := by
  have still : (w.run (turns ++ [q])).phase p = (w.run turns).phase p := by rw [run_snoc, phase_step_of_ne _ hpq]
  cases h with
  | locked now =>
    rw [ite_self]
    exact .locked (still.trans now)
  | @numbered before later now split writes waits =>
    have hrun : (w.run (before ++ [p])).run later = w.run turns := by
      rw [← run_append, split]
      simp
    have hsplit : turns ++ [q] = before ++ p :: (later ++ [q]) := by simp [split]
    have hlater := Holds.numbered (still.trans now) hsplit writes (by simp [waits, hpq])
    rw [empties_snoc, hrun] at hlater
    convert hlater using 1
    by_cases hq : (w.run turns).phase q = .opened n <;> simp [hq]
  | @running before between later now split writes waits stays =>
    have hrun : (w.run (before ++ p :: (between ++ [p]))).run later = w.run turns := by
      rw [← run_append, split]
      simp
    have hsplit : turns ++ [q] = before ++ p :: (between ++ p :: (later ++ [q])) := by simp [split]
    have hlater := Holds.running (still.trans now) hsplit writes waits (by simp [stays, hpq])
    rw [empties_snoc, hrun] at hlater
    convert hlater using 1
    by_cases hq : (w.run turns).phase q = .opened n <;> simp [hq]

theorem Holds.write_number (h : (w.run turns).phase p = .locked n) (empty : (w.run turns).file.content? n = some [])
    (after : (w.run (turns ++ [p])).file.content? n = some content) : Holds w p n (turns ++ [p]) content := by
  have now : (w.run (turns ++ [p])).phase p = .numbered n := by rw [run_snoc, phase_step_self, h, next]
  have split : turns ++ [p] = turns ++ p :: [] := rfl
  rw [run_snoc, file_step, h, next, content?_write, if_pos rfl, empty, Option.map_some, overlay_nil] at after
  rw [← Option.some.inj after]
  exact .numbered now split h List.not_mem_nil

theorem Holds.write_lineFeed {old : Bytes} (so : Holds w p n turns old) (h : (w.run turns).phase p = .numbered n)
    (before : (w.run turns).file.content? n = some old)
    (after : (w.run (turns ++ [p])).file.content? n = some content) : Holds w p n (turns ++ [p]) content := by
  have now : (w.run (turns ++ [p])).phase p = .running n := by rw [run_snoc, phase_step_self, h, next]
  rw [run_snoc, file_step, h, next, content?_write, if_pos rfl, before, Option.map_some] at after
  rw [← Option.some.inj after]
  cases so with
  | locked now => cases h.symm.trans now
  | @numbered first between _ split writes waits =>
    have hsplit : turns ++ [p] = first ++ p :: (between ++ p :: []) := by simp [split]
    convert Holds.running now hsplit writes waits List.not_mem_nil using 1
    by_cases hbetween : empties n (w.run (first ++ [p])) between = true
    · simp [empties, hbetween, overlay_nil]
    · simp [empties, hbetween, overlay_append, line]
  | running now => cases h.symm.trans now

/-- What is under the name is what the process that has the lock of it has made of it. -/
def Traced (w : World) (turns : List Nat) : Prop :=
  ∀ p n content, (w.run turns).file.named = some n → ((w.run turns).phase p).held? = some n →
    (w.run turns).file.content? n = some content → Holds w p n turns content

theorem Traced.own_turn (traced : Traced w turns) (sound : (w.run turns).Sound)
    (named : (w.run (turns ++ [p])).file.named = some n) (held : ((w.run (turns ++ [p])).phase p).held? = some n)
    (holds : (w.run (turns ++ [p])).file.content? n = some content) : Holds w p n (turns ++ [p]) content := by
  have soundAfter := sound.step p
  rw [← run_snoc] at soundAfter
  have namedBefore (hn : n < (w.run turns).file.nodes.length) : (w.run turns).file.named = some n :=
    named_of_step hn (by rwa [← run_snoc])
  have origin := before_next (w.run turns).file p ((w.run turns).phase p)
  rw [← phase_step_self, ← run_snoc] at origin
  cases hp : (w.run (turns ++ [p])).phase p with
  | locked m =>
    rw [hp] at held
    obtain rfl : m = n := Option.some.inj held
    obtain rfl : [] = content := Option.some.inj ((soundAfter.unwritten p m hp named).symm.trans holds)
    exact .locked hp
  | numbered m =>
    rw [hp] at held origin
    obtain rfl : m = n := Option.some.inj held
    have hn := sound.file_lt (by rw [origin, Phase.held?])
    exact .write_number origin (sound.unwritten p m origin (namedBefore hn)) holds
  | running m =>
    rw [hp] at held origin
    obtain rfl : m = n := Option.some.inj held
    have heldBefore : ((w.run turns).phase p).held? = some m := by rw [origin, Phase.held?]
    have hn := sound.file_lt heldBefore
    obtain ⟨old, hold⟩ := content?_of_lt hn
    exact (traced p m old (namedBefore hn) heldBefore hold).write_lineFeed origin hold holds
  | unlinked m =>
    rw [hp] at held
    obtain rfl : m = n := Option.some.inj held
    exact absurd named (soundAfter.unlinked p m hp)
  | _ =>
    rw [hp] at held
    cases held

theorem Traced.other_turn (traced : Traced w turns) (sound : (w.run turns).Sound) (hpq : p ≠ q)
    (named : (w.run (turns ++ [q])).file.named = some n) (held : ((w.run (turns ++ [q])).phase p).held? = some n)
    (holds : (w.run (turns ++ [q])).file.content? n = some content) : Holds w p n (turns ++ [q]) content := by
  rw [run_snoc, phase_step_of_ne _ hpq] at held
  rw [run_snoc] at named holds
  have hn := sound.file_lt held
  obtain ⟨old, hold⟩ := content?_of_lt hn
  have other : ((w.run turns).phase q).held? ≠ some n := fun hq => hpq (sound.eq_of_held held hq)
  have hsnoc := (traced p n old (named_of_step hn named) held hold).snoc_of_ne hpq
  rw [content?_step hn other, hold] at holds
  convert hsnoc using 1
  refine (Option.some.inj ?_).symm
  rw [← holds]
  split <;> rfl

theorem Sound.traced (sound : w.Sound) (idle : ∀ p, w.phase p = .absent) (turns : List Nat) : Traced w turns := by
  induction turns using List.reverseRecOn with
  | nil =>
    intro p n content _ held
    rw [show w.run [] = w from rfl, idle p] at held
    cases held
  | append_singleton turns q ih =>
    intro p n content named held holds
    by_cases hpq : p = q
    · subst hpq
      exact ih.own_turn (sound.run turns) named held holds
    · exact ih.other_turn (sound.run turns) hpq named held holds

end World

/-- Whatever file was left behind, a process that has the lock of the file under the name has made of it what `Holds`
says: the file is empty before the process writes, and holds its number when it has written that, then its line. But
others that start can empty the file in between, and then it is empty, or lacks the number that was written first;
nothing writes the line again. -/
theorem run_holds (named : ∀ n, s.named = some n → n < s.nodes.length) (free : ∀ f ∈ s.nodes, f.holder = none)
    (current : ((World.atRest s).run turns).file.current? = some ⟨content, some p⟩) :
    ∃ n, ((World.atRest s).run turns).file.named = some n ∧ World.Holds (.atRest s) p n turns content := by
  have sound := World.atRest_sound named free
  obtain ⟨n, hn, hcontent, hholder⟩ := current?_eq_some_iff.mp current
  have held := ((sound.run turns).locked p n).mp hholder
  exact ⟨n, hn, sound.traced (fun _ => rfl) turns p n content hn held hcontent⟩

/-- Over a file that was left behind, a second process empties the file after the first has written its number. -/
theorem halfway_emptied :
    ((World.atRest ⟨[⟨line 7, none⟩], some 0⟩).run [1, 1, 1, 1, 2, 2, 1]).file.current? = some ⟨[0x00, 0x0A], some 1⟩ ∧
      ∃ n, ((World.atRest ⟨[⟨line 7, none⟩], some 0⟩).run [1, 1, 1, 1, 2, 2, 1]).file.named = some n ∧
        World.Holds (.atRest ⟨[⟨line 7, none⟩], some 0⟩) 1 n [1, 1, 1, 1, 2, 2, 1] [0x00, 0x0A] :=
  ⟨by decide, run_holds (by simp) (by simp) (by decide)⟩

/-- While one process runs, another is started. It is refused, and the file of the first is empty from then on. -/
theorem refused_empties :
    let w := World.atRest .empty |>.run [1, 1, 1, 1, 1, 2, 2, 2]
    w.phase 1 = .running 0 ∧ w.phase 2 = .absent ∧ w.file.current? = some ⟨[], some 1⟩ ∧ [] ≠ line 1 := by
  decide

end Gatehouse.PidFile
