import Gatehouse.Control.Api
import Gatehouse.Proofs.Percent
import Gatehouse.Proofs.Table

/-!
Forms. A list of fields can be written in many ways, and each of them is read as these fields. Main statement:
`formOf_exact`, by which a request gives every key the last of its values, the body coming behind the query.
-/

namespace Gatehouse

namespace Form

variable {form : Form} {fields query body : List (Text × Text)} {key value k : Text}

/-! ## What forms hold -/

theorem get?_cons (field : Text × Text) (rest : Form) (k : Text) :
    get? (field :: rest) k = if k = field.1 then some field.2 else get? rest k := by
  rw [get?, List.lookup_cons, get?]
  by_cases hk : k = field.1
  · rw [if_pos hk, beq_iff_eq.mpr hk]
  · rw [if_neg hk, beq_eq_false_iff_ne.mpr hk]

/-- The value of the last field with a key. -/
def last? (fields : List (Text × Text)) (key : Text) : Option Text := fields.reverse.lookup key

theorem last?_append (front back : List (Text × Text)) (key : Text) :
    last? (front ++ back) key = (last? back key).or (last? front key) := by
  rw [last?, List.reverse_append, List.lookup_append, last?, last?]

theorem last?_cons (field : Text × Text) (rest : List (Text × Text)) (key : Text) :
    last? (field :: rest) key = (last? rest key).or (if key = field.1 then some field.2 else none) := by
  rw [← List.singleton_append, last?_append, last?, last?, List.reverse_singleton, List.lookup_cons, List.lookup_nil]
  by_cases hkey : key = field.1
  · simp [hkey]
  · simp [hkey, beq_eq_false_iff_ne.mpr hkey]

/-- Where keys are distinct, the last value of a key is the only one. -/
theorem last?_of_nodup (h : (form.map (·.1)).Nodup) (key : Text) : last? form key = form.get? key :=
  Table.lookup_perm h form.reverse_perm key

theorem keys_set (form : Form) (key value : Text) : (form.set key value).map (·.1) =
    if key ∈ form.map (·.1) then form.map (·.1) else form.map (·.1) ++ [key] := by
  have hany : form.any (·.1 == key) = true ↔ key ∈ form.map (·.1) := by simp
  rw [set]
  by_cases hkey : key ∈ form.map (·.1)
  · rw [if_pos (hany.mpr hkey), if_pos hkey, List.map_map]
    refine List.map_congr_left fun field _ => ?_
    rw [Function.comp_apply]
    split
    · exact Eq.symm ‹_›
    · rfl
  · rw [if_neg (mt hany.mp hkey), if_neg hkey, List.map_append]
    rfl

theorem nodup_set (h : (form.map (·.1)).Nodup) (key value : Text) : ((form.set key value).map (·.1)).Nodup := by
  rw [keys_set]
  split
  · exact h
  · rename_i hkey
    rw [List.nodup_append]
    refine ⟨h, List.nodup_singleton key, ?_⟩
    rintro other hm _ hkey' rfl
    rw [List.mem_singleton] at hkey'
    exact hkey (hkey' ▸ hm)

theorem get?_replaced (form : Form) (key value k : Text) :
    get? (form.map fun field => if field.1 = key then (key, value) else field) k =
      if k = key then (form.get? k).map fun _ => value else form.get? k := by
  induction form with
  | nil => simp [get?]
  | cons field rest ih =>
    rw [List.map_cons, get?_cons, get?_cons, ih]
    by_cases hown : field.1 = key
    · by_cases hk : k = key <;> simp [hown, hk]
    · by_cases hk : k = key
      · simp [hk, Ne.symm hown, if_neg hown]
      · simp [hk, if_neg hown]

theorem get?_ne_none (hm : key ∈ form.map (·.1)) : form.get? key ≠ none := by
  obtain ⟨field, hfield, rfl⟩ := List.mem_map.mp hm
  rw [get?, Ne, List.lookup_eq_none_iff]
  intro hother
  exact absurd (hother field hfield) (by simp)

theorem get?_eq_none (hm : key ∉ form.map (·.1)) : form.get? key = none := by
  rw [get?, List.lookup_eq_none_iff]
  intro field hfield
  rw [bne_iff_ne]
  rintro rfl
  exact hm (List.mem_map.mpr ⟨field, hfield, rfl⟩)

/-- A field that was set has its new value, and every other one the value that it had. -/
theorem get?_set (form : Form) (key value k : Text) :
    (form.set key value).get? k = if k = key then some value else form.get? k := by
  have hany : form.any (·.1 == key) = true ↔ key ∈ form.map (·.1) := by simp
  rw [set]
  by_cases hkey : key ∈ form.map (·.1)
  · rw [if_pos (hany.mpr hkey), get?_replaced]
    split
    · rename_i hk
      obtain ⟨old, hold⟩ := Option.ne_none_iff_exists'.mp (get?_ne_none hkey)
      rw [hk, hold]
      rfl
    · rfl
  · rw [if_neg (mt hany.mp hkey), get?, List.lookup_append, List.lookup_cons, List.lookup_nil]
    by_cases hk : k = key
    · have hnone := get?_eq_none hkey
      rw [get?, ← hk] at hnone
      simp [hk, hk ▸ hnone]
    · simp [get?, hk, beq_eq_false_iff_ne.mpr hk]

theorem get?_overlay (form : Form) (fields : List (Text × Text)) (key : Text) :
    (overlay form fields).get? key = (last? fields key).or (form.get? key) := by
  induction fields generalizing form with
  | nil => rfl
  | cons field rest ih =>
    have hstep : overlay form (field :: rest) = overlay (form.set field.1 field.2) rest := rfl
    rw [hstep, ih, get?_set, last?_cons, Option.or_assoc]
    split <;> rfl

theorem nodup_overlay (h : (form.map (·.1)).Nodup) (fields : List (Text × Text)) :
    ((overlay form fields).map (·.1)).Nodup := by
  induction fields generalizing form with
  | nil => exact h
  | cons field rest ih => exact ih (nodup_set h field.1 field.2)

theorem nodup_parse (t : Text) : ((parse t).map (·.1)).Nodup := by
  have hempty : (([] : Form).map (·.1)).Nodup := List.nodup_nil
  exact nodup_overlay hempty (pairs t)

theorem get?_parse (t key : Text) : (parse t).get? key = last? (pairs t) key := by
  rw [parse, get?_overlay]
  exact Option.or_none

/-- The fields of a query and a body, one list behind the other. -/
theorem get?_ofRequest (queryText bodyText key : Text) :
    (ofRequest queryText bodyText).get? key = last? (pairs queryText ++ pairs bodyText) key := by
  rw [ofRequest, get?_overlay, last?_of_nodup (nodup_parse bodyText), get?_parse, get?_parse, last?_append]

/-! ## What fields are written as -/

/-- The characters that do not stand for themselves in a form: the space and those with a meaning. -/
def special : List Char := [' ', '%', '+', '&', '=']

/-- Whether a text is a key or value as a form writes it: in percent coding, with `+` or percent coding for a space. -/
def PartOf (coded t : Text) : Prop := Text.Codes special (some '+') coded (Text.utf8 t)

/-- Whether a text is a field as a form writes it. -/
def FieldOf (coded : Text) (field : Text × Text) : Prop :=
  ∃ key value, PartOf key field.1 ∧ PartOf value field.2 ∧ coded = key ++ '=' :: value

/-- Whether a text is a list of fields as a form writes it. -/
def Spells (t : Text) (fields : List (Text × Text)) : Prop :=
  ∃ pieces, List.Forall₂ FieldOf pieces fields ∧ t = Text.join "&" pieces

theorem PartOf.decodePart? {coded t : Text} (h : PartOf coded t) : decodePart? coded = some t :=
  (h.unblank (by decide) (by decide)).unescape? (by decide)

theorem PartOf.not_mem {coded t : Text} (h : PartOf coded t) : '&' ∉ coded ∧ '=' ∉ coded :=
  ⟨Text.Codes.not_mem h (by decide) (by decide) (by decide), Text.Codes.not_mem h (by decide) (by decide) (by decide)⟩

theorem FieldOf.decodePair? {coded : Text} {field : Text × Text} (h : FieldOf coded field) :
    decodePair? coded = some field := by
  obtain ⟨key, value, hkey, hvalue, rfl⟩ := h
  rw [Form.decodePair?, Text.cutFirst_append hkey.not_mem.2]
  simp only [Option.getD_some, hkey.decodePart?, hvalue.decodePart?]
  rfl

theorem FieldOf.ne_nil {coded : Text} {field : Text × Text} (h : FieldOf coded field) : coded ≠ [] := by
  obtain ⟨key, value, -, -, rfl⟩ := h
  exact List.append_ne_nil_of_right_ne_nil _ (List.cons_ne_nil _ _)

theorem FieldOf.not_mem {coded : Text} {field : Text × Text} (h : FieldOf coded field) : '&' ∉ coded := by
  obtain ⟨key, value, hkey, hvalue, rfl⟩ := h
  rw [List.mem_append, List.mem_cons]
  rintro (hm | heq | hm)
  · exact hkey.not_mem.1 hm
  · exact absurd heq (by decide)
  · exact hvalue.not_mem.1 hm

theorem FieldOf.ascii {coded : Text} {field : Text × Text} (h : FieldOf coded field) : ∀ c ∈ coded, c.toNat < 128 := by
  have hplus : ∀ c, some '+' = some c → c.toNat < 128 := by
    rintro c ⟨⟩
    decide
  obtain ⟨key, value, hkey, hvalue, rfl⟩ := h
  intro c hm
  rcases List.mem_append.mp hm with hm | hm
  · exact hkey.ascii hplus c hm
  · rcases List.mem_cons.mp hm with rfl | hm
    · decide
    · exact hvalue.ascii hplus c hm

/-- The pieces of what spells a list of fields, one for each. -/
theorem Spells.exists_pieces {t : Text} (h : Spells t fields) : ∃ pieces, List.Forall₂ FieldOf pieces fields ∧
    (Text.split '&' t).filter (· ≠ []) = pieces ∧ ∀ c ∈ t, c = '&' ∨ ∃ piece ∈ pieces, c ∈ piece := by
  obtain ⟨pieces, hpieces, rfl⟩ := h
  refine ⟨pieces, hpieces, ?_⟩
  cases hpieces with
  | nil => exact ⟨rfl, fun c hm => absurd hm List.not_mem_nil⟩
  | @cons piece field pieces fields hfirst hrest =>
    have hall := List.Forall₂.cons hfirst hrest
    have hwhole : ∀ coded ∈ piece :: pieces, coded ≠ [] ∧ '&' ∉ coded :=
      ((List.forall₂_and_left _ _).mp (hall.imp fun coded own hown => ⟨⟨hown.ne_nil, hown.not_mem⟩, hown⟩)).1
    have hsplit : Text.split '&' (Text.join "&" (piece :: pieces)) = piece :: pieces :=
      Text.split_join '&' (List.cons_ne_nil _ _) fun coded hm => (hwhole coded hm).2
    refine ⟨?_, fun c hm => ?_⟩
    · rw [hsplit, List.filter_eq_self]
      exact fun coded hm => decide_eq_true (hwhole coded hm).1
    · have hcut := Text.mem_split_of_mem '&' hm
      rwa [hsplit] at hcut

theorem filterMap_pieces {pieces : List Text} (h : List.Forall₂ FieldOf pieces fields) :
    pieces.filterMap Form.decodePair? = fields := by
  induction h with
  | nil => rfl
  | cons hfirst hrest ih => rw [List.filterMap_cons, hfirst.decodePair?, ih]

/-- What spells a list of fields is read as these fields. -/
theorem Spells.pairs {t : Text} (h : Spells t fields) : pairs t = fields := by
  obtain ⟨pieces, hpieces, hsplit, -⟩ := h.exists_pieces
  rw [Form.pairs, hsplit, filterMap_pieces hpieces]

theorem Spells.ascii {t : Text} (h : Spells t fields) : ∀ c ∈ t, c.toNat < 128 := by
  obtain ⟨pieces, hpieces, -, hwithin⟩ := h.exists_pieces
  have hall : ∀ coded ∈ pieces, ∀ c ∈ coded, c.toNat < 128 :=
    ((List.forall₂_and_left _ _).mp (hpieces.imp fun coded own hown => ⟨hown.ascii, hown⟩)).1
  intro c hm
  rcases hwithin c hm with rfl | ⟨piece, hpiece, hc⟩
  · decide
  · exact hall piece hpiece c hc

/-! ## One way to write fields -/

/-- The fields with every byte that is not unreserved escaped. -/
def write (fields : List (Text × Text)) : Text :=
  Text.join "&" (fields.map fun field => Text.escape field.1 ++ '=' :: Text.escape field.2)

theorem partOf_escape (t : Text) : PartOf (Text.escape t) t := Text.codes_escape (by simp [special]) t

theorem spells_write (fields : List (Text × Text)) : Spells (write fields) fields := by
  refine ⟨_, ?_, rfl⟩
  rw [List.forall₂_map_left_iff, List.forall₂_same]
  exact fun field _ => ⟨_, _, partOf_escape field.1, partOf_escape field.2, rfl⟩

end Form

namespace Control

open Http

/-- However the fields of a query and those of a body are written, the form of a request has every key of either once, with
the last of its values in the query followed by the body, and no other key. -/
theorem formOf_exact (r : Request) {query body : List (Text × Text)} {bodyText : Text}
    (hquery : Form.Spells (r.uri.query?.getD []) query) (hbody : Form.Spells bodyText body)
    (hbytes : r.body = Text.utf8 bodyText) :
    ((formOf r).map (·.1)).Nodup ∧
      (∀ key value, (key, value) ∈ formOf r ↔ Form.last? (query ++ body) key = some value) ∧
      ∀ key, (formOf r).get? key = Form.last? (query ++ body) key := by
  have hread : formOf r = Form.ofRequest (r.uri.query?.getD []) bodyText := by
    rw [formOf, hbytes, Text.ofUtf8Lossy_ascii hbody.ascii]
  have hget : ∀ key, (formOf r).get? key = Form.last? (query ++ body) key := by
    intro key
    rw [hread, Form.get?_ofRequest, hquery.pairs, hbody.pairs]
  have hnodup : ((formOf r).map (·.1)).Nodup := Form.nodup_overlay (Form.nodup_parse _) _
  refine ⟨hnodup, fun key value => ?_, hget⟩
  rw [← hget key]
  exact (Table.lookup_iff_mem hnodup).symm

/-- A request whose query and body both give `a` and the empty key. The query has both spellings of a space, and escapes
in either letter case. -/
def twofold : Request where
  method := "POST"
  uri := ⟨none, [], "/endpoints/h?a=1&%c3%bC%26=x+y%20z&="⟩
  version := .http11
  fields := []
  body := Text.utf8 (Form.write [("a", "=+% "), ("", "z")])

theorem twofold_spelled : Form.Spells (twofold.uri.query?.getD []) [("a", "1"), ("ü&", "x y z"), ("", "")] := by
  refine ⟨["a=1", "%c3%bC%26=x+y%20z", "="], .cons ?_ (.cons ?_ (.cons ?_ .nil)), by rfl⟩
  · exact ⟨"a", "1", .bare (by decide) (by decide) .nil, .bare (by decide) (by decide) .nil, rfl⟩
  · refine ⟨"%c3%bC%26", "x+y%20z", ?_, ?_, rfl⟩
    · have hbytes : Text.utf8 "ü&" = [0xC3, 0xBC, 0x26] := by rfl
      rw [Form.PartOf, hbytes]
      exact .escaped (h := 12) (l := 3) rfl rfl (.escaped (h := 11) (l := 12) rfl rfl
        (.escaped (h := 2) (l := 6) rfl rfl .nil))
    · have hbytes : Text.utf8 "x y z" = [0x78, 0x20, 0x79, 0x20, 0x7A] := by rfl
      rw [Form.PartOf, hbytes]
      exact .bare (c := 'x') (by decide) (by decide) (.blank rfl (.bare (c := 'y') (by decide) (by decide)
        (.escaped (h := 2) (l := 0) rfl rfl (.bare (c := 'z') (by decide) (by decide) .nil))))
  · exact ⟨[], [], .nil, .nil, rfl⟩

/-- The body wins for both keys, and a key that is nowhere has no value. -/
theorem twofold_read :
    Form.Spells (twofold.uri.query?.getD []) [("a", "1"), ("ü&", "x y z"), ("", "")] ∧
      Form.Spells (Form.write [("a", "=+% "), ("", "z")]) [("a", "=+% "), ("", "z")] ∧
      (formOf twofold).get? "a" = some "=+% ".toList ∧ (formOf twofold).get? "ü&" = some "x y z".toList ∧
      (formOf twofold).get? [] = some "z".toList ∧ (formOf twofold).get? "b" = none := by
  have hbody := Form.spells_write [("a", "=+% "), ("", "z")]
  obtain ⟨-, -, hget⟩ := formOf_exact twofold twofold_spelled hbody rfl
  exact ⟨twofold_spelled, hbody, hget "a", hget "ü&", hget [], hget "b"⟩

end Control
end Gatehouse
