import Gatehouse.Proofs.Except
import Gatehouse.Proofs.Http.Fields

/-!
The fields of a single hop: those of a fixed list, and those that a `Connection` field names. Main statement:
`stripHopByHop_exact`, by which exactly the fields that are not marked as such are left when they go.
-/

namespace Gatehouse.Http.Fields

variable {fields : Fields} {name : Text}

/-! ## What is for a single hop -/

def isGap (c : Char) : Bool := c == ' ' || c == '\t'

/-- The elements of a list in a value, whatever its bytes are: what stands between the commas, without spaces and
tabs at either end, in lower case. -/
def elements (value : Bytes) : List Text :=
  ((Text.split ',' (value.map fun b => Char.ofNat b.toNat)).map fun element =>
    Text.lower (Text.trimBoth isGap element)).filter (· ≠ [])

/-- Whether the fields of a name are for a single hop. -/
def SingleHop (fields : Fields) (name : Text) : Prop :=
  name ∈ hopByHop ∨ name = "upgrade" ∨ ∃ value ∈ fields.values "connection", name ∈ elements value

/-- Whether nothing that can be read says that the fields of a name are for a single hop. -/
def Unmarked (fields : Fields) (name : Text) : Prop :=
  name ∉ hopByHop ∧ name ≠ "upgrade" ∧
    ∀ value ∈ fields.values "connection", name ∈ elements value → readable? value = none

instance (fields : Fields) (name : Text) : Decidable (fields.SingleHop name) :=
  inferInstanceAs (Decidable (_ ∨ _ ∨ ∃ value ∈ fields.values "connection", _))

instance (fields : Fields) (name : Text) : Decidable (fields.Unmarked name) :=
  inferInstanceAs (Decidable (_ ∧ _ ∧ ∀ value ∈ fields.values "connection", _ → _))

/-- The options of a value that can be read are its elements: all that is blank in it are spaces and tabs. -/
theorem connectionOptions_of_readable {value : Bytes} {t : Text} (h : readable? value = some t) :
    connectionOptions value = elements value := by
  obtain ⟨htext, hvisible⟩ := chars_of_readable h
  have hblank : ∀ c ∈ value.map fun b => Char.ofNat b.toNat, Text.isBlank c = isGap c := by
    rw [← htext]
    exact fun c hm => Text.isBlank_of_visible (hvisible c hm)
  have hsame : ∀ part ∈ Text.split ',' (value.map fun b => Char.ofNat b.toNat),
      Text.lower (Text.trim part) = Text.lower (Text.trimBoth isGap part) := by
    intro part hpart
    rw [Text.trim, Text.trimBoth_congr fun c hc => hblank c (Text.mem_of_mem_split hpart hc)]
  rw [connectionOptions, h, elements, htext]
  exact congrArg (List.filter (· ≠ [])) (List.map_congr_left hsame)

theorem mem_allConnectionOptions_iff : name ∈ fields.allConnectionOptions ↔
    ∃ value ∈ fields.values "connection", name ∈ elements value ∧ readable? value ≠ none := by
  rw [allConnectionOptions, List.mem_flatMap]
  refine exists_congr fun value => and_congr_right fun _ => ?_
  cases hread : readable? value with
  | none => simp [connectionOptions, hread]
  | some t => simp [connectionOptions_of_readable hread]

theorem unmarked_iff :
    fields.Unmarked name ↔ ¬ (name ∈ fields.allConnectionOptions ∨ name ∈ hopByHop ∨ name = "upgrade") := by
  rw [mem_allConnectionOptions_iff, not_or, not_or]
  refine ⟨?_, ?_⟩
  · rintro ⟨hfixed, hupgrade, hunread⟩
    refine ⟨?_, hfixed, hupgrade⟩
    rintro ⟨value, hm, hnamed, hread⟩
    exact hread (hunread value hm hnamed)
  · rintro ⟨hoptions, hfixed, hupgrade⟩
    refine ⟨hfixed, hupgrade, fun value hm hnamed => ?_⟩
    by_contra hread
    exact hoptions ⟨value, hm, hnamed, hread⟩

/-! ## What is left -/

/-- When the fields of a single hop go, those that are not marked as such are left. -/
theorem stripHopByHop_eq_filter (fields : Fields) :
    fields.stripHopByHop = fields.filter fun field => decide (fields.Unmarked field.1) := by
  rw [stripHopByHop_eq]
  apply List.filter_congr
  intro field _
  exact decide_eq_decide.mpr unmarked_iff.symm

theorem values_stripHopByHop_unmarked (fields : Fields) (name : Text) :
    fields.stripHopByHop.values name = if fields.Unmarked name then fields.values name else [] := by
  rw [stripHopByHop_eq_filter, values_filter fun name => decide (fields.Unmarked name)]
  simp only [decide_eq_true_eq]

/-- Fields that are left are left again: `Connection` is not there any more to name one. -/
theorem unmarked_stripHopByHop (h : fields.Unmarked name) : fields.stripHopByHop.Unmarked name := by
  have hgone : fields.stripHopByHop.values "connection" = [] := by
    rw [values_stripHopByHop_unmarked, if_neg fun hleft => hleft.1 (by decide)]
  refine ⟨h.1, h.2.1, fun value hm => ?_⟩
  rw [hgone] at hm
  cases hm

theorem stripHopByHop_again (fields : Fields) : fields.stripHopByHop.stripHopByHop = fields.stripHopByHop := by
  rw [stripHopByHop_eq_filter fields.stripHopByHop, List.filter_eq_self]
  intro field hm
  rw [stripHopByHop_eq_filter, List.mem_filter] at hm
  exact decide_eq_true (unmarked_stripHopByHop (of_decide_eq_true hm.2))

/-- Fields that were read have the names that they came under, in lower case. -/
theorem ofList_eq {sent : List (Text × Bytes)} (h : ofList sent = .ok fields) :
    fields = sent.map fun field => (Text.lower field.1, field.2) := by
  induction sent generalizing fields with
  | nil => exact (Except.ok.inj h).symm
  | cons first rest ih =>
    rw [ofList, List.mapM_cons] at h
    obtain ⟨one, hone, h⟩ := bind_eq_ok h
    obtain ⟨others, hothers, h⟩ := bind_eq_ok h
    obtain rfl := Except.ok.inj h
    have hfirst : one = (Text.lower first.1, first.2) := by
      rw [field] at hone
      split_ifs at hone
      exact (Except.ok.inj hone).symm
    rw [hfirst, ih hothers, List.map_cons]

/-- What is left when the fields of a single hop go are the fields that nothing marks as such, in their order: of every
name all values, or none. Names are compared in lower case, in whatever case they came. A second time changes nothing. -/
theorem stripHopByHop_exact (fields : Fields) :
    fields.stripHopByHop = fields.filter (fun field => decide (fields.Unmarked field.1)) ∧
    (∀ name, fields.stripHopByHop.values name = if fields.Unmarked name then fields.values name else []) ∧
    (∀ sent, ofList sent = .ok fields →
      fields.stripHopByHop =
        (sent.filter fun field => decide (fields.Unmarked (Text.lower field.1))).map fun field =>
          (Text.lower field.1, field.2)) ∧
    fields.stripHopByHop.stripHopByHop = fields.stripHopByHop := by
  refine ⟨stripHopByHop_eq_filter fields, values_stripHopByHop_unmarked fields, ?_, stripHopByHop_again fields⟩
  intro sent hsent
  have hfields := ofList_eq hsent
  calc fields.stripHopByHop
      = fields.filter fun field => decide (fields.Unmarked field.1) := stripHopByHop_eq_filter fields
    _ = (sent.map fun field => (Text.lower field.1, field.2)).filter fun field =>
          decide (fields.Unmarked field.1) := by rw [← hfields]
    _ = _ := by
        rw [List.filter_map]
        rfl

/-- Fields as a client may send them: names in any case, two `Connection` fields, options between blanks and commas. -/
def mixedCase : List (Text × Bytes) :=
  [("Host", Text.utf8 "a.test"), ("Connection", Text.utf8 "close, X-Drop"), ("CONNECTION", Text.utf8 " ,\tx-other ,"),
    ("X-DROP", Text.utf8 "1"), ("x-Other", Text.utf8 "2"), ("Te", Text.utf8 "trailers"), ("Upgrade", Text.utf8 "h2c"),
    ("X-Keep", Text.utf8 "3"), ("x-keep", Text.utf8 "4")]

theorem mixedCase_left :
    ∃ fields, ofList mixedCase = .ok fields ∧
      fields.stripHopByHop =
        ([("host", Text.utf8 "a.test"), ("x-keep", Text.utf8 "3"), ("x-keep", Text.utf8 "4")] : Fields) := by
  have hread : ofList mixedCase = .ok (mixedCase.map fun field => (Text.lower field.1, field.2)) := by decide
  obtain ⟨-, -, hsent, -⟩ := stripHopByHop_exact (mixedCase.map fun field => (Text.lower field.1, field.2))
  exact ⟨_, hread, (hsent mixedCase hread).trans (by decide)⟩

end Gatehouse.Http.Fields
