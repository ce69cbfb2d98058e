import Gatehouse.Fault

/-!
Computations that may fail, one after the other: what those that succeed or fail have gone through.
-/

namespace Gatehouse

variable {ε α β : Type}

theorem bind_eq_error {x : Except ε α} {f : α → Except ε β} {e : ε} (h : (x >>= f) = .error e) :
    x = .error e ∨ ∃ a, f a = .error e := by
  cases x with
  | error e' =>
    obtain rfl := Except.error.inj h
    exact .inl rfl
  | ok a => exact .inr ⟨a, h⟩

theorem bind_eq_ok {x : Except ε α} {f : α → Except ε β} {b : β} (h : (x >>= f) = .ok b) :
    ∃ a, x = .ok a ∧ f a = .ok b := by
  cases x with
  | error e => cases h
  | ok a => exact ⟨a, rfl, h⟩

theorem map_eq_ok {x : Except ε α} {f : α → β} {b : β} (h : x.map f = .ok b) : ∃ a, x = .ok a ∧ f a = b := by
  cases x with
  | error e => cases h
  | ok a => exact ⟨a, rfl, Except.ok.inj h⟩

theorem forM_eq_ok {as : List α} {f : α → Except ε Unit} (h : as.forM f = .ok ()) : ∀ a ∈ as, f a = .ok () := by
  induction as with
  | nil => exact fun a hm => absurd hm List.not_mem_nil
  | cons a rest ih =>
    obtain ⟨⟨⟩, hfirst, hrest⟩ := bind_eq_ok h
    exact List.forall_mem_cons.mpr ⟨hfirst, ih hrest⟩

/-- A fold that succeeds has succeeded at every member. -/
theorem foldlM_eq_ok {as : List α} {f : β → α → Except ε β} {b last : β} (h : as.foldlM f b = .ok last) :
    ∀ a ∈ as, ∃ before after, f before a = .ok after := by
  induction as generalizing b with
  | nil => exact fun a hm => absurd hm List.not_mem_nil
  | cons a rest ih =>
    obtain ⟨next, hfirst, hrest⟩ := bind_eq_ok h
    exact List.forall_mem_cons.mpr ⟨⟨b, next, hfirst⟩, ih hrest⟩

end Gatehouse
