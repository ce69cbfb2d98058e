import Gatehouse.Proofs.Http.SingleHop

/-!
Whether a request asks for another protocol. By the grammar of lists it does if it has an `Upgrade` field and some
`Connection` value has the element `upgrade`. Main statement: `isUpgrade_exact`, by which it is taken to do so if its
first `Connection` value holds the word anywhere, and how the two differ.
-/

namespace Gatehouse.Http.Fields

variable {value : Bytes} {word : Text}

/-! ## What is asked for -/

/-- The option that asks for another protocol. -/
def upgradeOption : Text := "upgrade"

/-- Whether some value lists the option. -/
def ListsUpgrade (fields : Fields) : Prop := ∃ value ∈ fields.values "connection", upgradeOption ∈ elements value

/-- Whether a request asks for another protocol. -/
def AsksUpgrade (fields : Fields) : Prop := fields.values "upgrade" ≠ [] ∧ fields.ListsUpgrade

/-- Whether the first value can be read and has an element with the option somewhere in it. -/
def MentionsUpgrade (fields : Fields) : Prop :=
  ∃ first ∈ fields.get? "connection", readable? first ≠ none ∧ ∃ element ∈ elements first, upgradeOption <:+: element

instance (fields : Fields) : Decidable fields.ListsUpgrade :=
  inferInstanceAs (Decidable (∃ value ∈ fields.values "connection", _))

instance (fields : Fields) : Decidable fields.AsksUpgrade := inferInstanceAs (Decidable (_ ∧ _))

/-! ## What is looked for -/

/-- A word of other characters than commas, spaces and tabs stands in a value if it stands in one of the elements. -/
theorem exists_mem_elements_iff (hne : word ≠ []) (hcomma : ',' ∉ word) (hgap : ∀ c, isGap c = true → c.toLower ∉ word) :
    (∃ element ∈ elements value, word <:+: element) ↔
      word <:+: Text.lower (value.map fun b => Char.ofNat b.toNat) := by
  rw [Text.infix_split_iff hcomma hne, Text.split_lower ',' (by decide), elements]
  refine ⟨?_, ?_⟩
  · rintro ⟨element, hm, hin⟩
    obtain ⟨part, hpart, rfl⟩ := List.mem_map.mp (List.mem_filter.mp hm).1
    exact ⟨Text.lower part, List.mem_map_of_mem hpart, (Text.infix_lower_trimBoth_iff hgap part).mp hin⟩
  · rintro ⟨piece, hm, hin⟩
    obtain ⟨part, hpart, rfl⟩ := List.mem_map.mp hm
    have hin := (Text.infix_lower_trimBoth_iff hgap part).mpr hin
    refine ⟨_, List.mem_filter.mpr ⟨List.mem_map_of_mem hpart, ?_⟩, hin⟩
    -- an element that holds a word is not empty
    apply decide_eq_true
    intro hnil
    rw [hnil, List.infix_nil] at hin
    exact hne hin

theorem gap_not_mem_upgrade (c : Char) (h : isGap c = true) : c.toLower ∉ upgradeOption := by
  rw [isGap, Bool.or_eq_true, beq_iff_eq, beq_iff_eq] at h
  rcases h with rfl | rfl
  · decide
  · decide

theorem holds_upgrade_iff {t : Text} (h : readable? value = some t) :
    Text.holds "upgrade" (Text.lower t) = true ↔ ∃ element ∈ elements value, upgradeOption <:+: element := by
  obtain ⟨rfl, -⟩ := chars_of_readable h
  rw [Text.holds_iff, exists_mem_elements_iff (by decide) (by decide) gap_not_mem_upgrade]
  rfl

theorem isUpgrade_iff (fields : Fields) :
    fields.isUpgrade = true ↔ fields.values "upgrade" ≠ [] ∧ fields.MentionsUpgrade := by
  rw [isUpgrade, Bool.and_eq_true, has_iff, and_comm, MentionsUpgrade, text?]
  refine and_congr_right fun _ => ?_
  cases fields.get? "connection" with
  | none => simp
  | some first =>
    rw [Option.bind_some]
    cases hread : readable? first with
    | none => simp [hread]
    | some t =>
      show Text.holds "upgrade" (Text.lower t) = true ↔ _
      rw [holds_upgrade_iff hread]
      refine ⟨fun hin => ⟨first, rfl, ?_, hin⟩, ?_⟩
      · rw [hread]
        exact Option.some_ne_none t
      · rintro ⟨other, hother, -, hin⟩
        obtain rfl := Option.some.inj hother
        exact hin

/-- A request is taken to ask for another protocol if it has an `Upgrade` field and its first `Connection` value, if that
can be read, has an element with the word `upgrade` in it. So it is taken to ask and does not exactly if no value lists
`upgrade` itself, and it asks and is not taken to exactly if some value lists it but the first does not even mention it. -/
theorem isUpgrade_exact (fields : Fields) :
    (fields.isUpgrade = true ↔ fields.values "upgrade" ≠ [] ∧ fields.MentionsUpgrade) ∧
    (fields.isUpgrade = true ∧ ¬ fields.AsksUpgrade ↔
      fields.values "upgrade" ≠ [] ∧ fields.MentionsUpgrade ∧ ¬ fields.ListsUpgrade) ∧
    (fields.isUpgrade = false ∧ fields.AsksUpgrade ↔
      fields.values "upgrade" ≠ [] ∧ ¬ fields.MentionsUpgrade ∧ fields.ListsUpgrade) := by
  refine ⟨isUpgrade_iff fields, ?_, ?_⟩
  · rw [isUpgrade_iff, and_assoc]
    apply and_congr_right
    intro hupgrade
    exact and_congr_right fun _ => not_congr (and_iff_right hupgrade)
  · rw [← Bool.not_eq_true, isUpgrade_iff, AsksUpgrade, and_left_comm]
    apply and_congr_right
    intro hupgrade
    exact and_congr_left fun _ => not_congr (and_iff_right hupgrade)

/-- A request whose only `Connection` option has the word in it. -/
def hinting : Fields := [("connection", Text.utf8 "x-upgrade-hint"), ("upgrade", Text.utf8 "websocket")]

/-- A request that lists the option in its second `Connection` field. -/
def listingLater : Fields :=
  [("connection", Text.utf8 "keep-alive"), ("connection", Text.utf8 "Upgrade"), ("upgrade", Text.utf8 "websocket")]

/-- The first is taken to ask for another protocol, which it does not, and the second is not, which it does. -/
theorem upgrade_misjudged :
    ¬ (hinting.isUpgrade = true ↔ hinting.AsksUpgrade) ∧ ¬ (listingLater.isUpgrade = true ↔ listingLater.AsksUpgrade) := by
  have htaken : hinting.isUpgrade = true := by decide
  have hasks : listingLater.AsksUpgrade := by decide
  refine ⟨fun hsame => ?_, fun hsame => ?_⟩
  · exact absurd (hsame.mp htaken) (by decide)
  · exact absurd (hsame.mpr hasks) (by decide)

end Gatehouse.Http.Fields
