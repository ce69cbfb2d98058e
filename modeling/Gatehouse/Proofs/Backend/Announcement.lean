import Gatehouse.Proofs.Backend.Forward

/-!
The fields that tell about a client, as a listener sets them. Main statement: `withForwarding_exact`, by which each of
them is there once, all others are as they were, and setting them a second time changes nothing.
-/

namespace Gatehouse.Backend

open Http

variable {fields : Fields} {fresh : Text} {client : Client}

/-! ## The id of a request -/

/-- A request whose first id can be read keeps it, byte for byte. -/
theorem utf8_requestId {given : Bytes} (hfirst : fields.get? "x-request-id" = some given)
    (hread : Fields.readable? given ≠ none) (fresh : Text) : Text.utf8 (fields.requestId fresh) = given := by
  obtain ⟨id, hid⟩ := Option.ne_none_iff_exists'.mp hread
  rw [Fields.requestId, Fields.text?, hfirst, Option.bind_some, hid, Option.getD_some]
  exact (Fields.readable?_eq_some_iff.mp hid).1.symm

/-- The id of a request can be read again where it is written. -/
theorem readable?_requestId (fields : Fields) (legible : ∀ c ∈ fresh, Fields.IsVisible c) :
    Fields.readable? (Text.utf8 (fields.requestId fresh)) = some (fields.requestId fresh) := by
  rw [Fields.requestId]
  cases hgiven : fields.text? "x-request-id" with
  | none => exact Fields.readable?_eq_some_iff.mpr ⟨rfl, legible⟩
  | some id =>
    obtain ⟨value, -, hread⟩ := Option.bind_eq_some_iff.mp hgiven
    exact Fields.readable?_eq_some_iff.mpr ⟨rfl, (Fields.readable?_eq_some_iff.mp hread).2⟩

/-! ## What is set -/

/-- The fields that tell about the client stand behind all others. -/
theorem withForwarding_eq (fields : Fields) (fresh : Text) (client : Client) :
    fields.withForwarding fresh client.peer client.port client.scheme =
      (fields.requestId fresh,
        (fields.filter fun field => decide (field.1 ∉ (clientFields (fields.requestId fresh) client).map (·.1))) ++
          clientFields (fields.requestId fresh) client) := by
  rw [← Fields.foldl_put_eq_append (clientFields_once _ client)]
  rfl

/-- Each of them is there once. -/
theorem values_withForwarding_of_mem {name : Text} {value : Bytes}
    (hm : (name, value) ∈ clientFields (fields.requestId fresh) client) :
    (fields.withForwarding fresh client.peer client.port client.scheme).2.values name = [value] := by
  rw [values_withForwarding, if_pos (List.mem_map.mpr ⟨_, hm, rfl⟩)]
  exact Fields.values_of_mem (clientFields_once _ client) hm

theorem values_withForwarding_of_other {name : Text}
    (hother : name ∉ (["x-request-id", "x-forwarded-for", "x-forwarded-port", "x-forwarded-proto"] : List Text)) :
    (fields.withForwarding fresh client.peer client.port client.scheme).2.values name = fields.values name := by
  rw [values_withForwarding, clientFields_names, if_neg hother]

/-- A second time the id is the one that was set, and everything is set to what it is. -/
theorem withForwarding_again (fields : Fields) (client : Client) (legible : ∀ c ∈ fresh, Fields.IsVisible c)
    (later : Text) :
    (fields.withForwarding fresh client.peer client.port client.scheme).2.withForwarding later client.peer client.port
        client.scheme =
      fields.withForwarding fresh client.peer client.port client.scheme := by
  have hvalues : (fields.withForwarding fresh client.peer client.port client.scheme).2.values "x-request-id" =
      [Text.utf8 (fields.requestId fresh)] := values_withForwarding_of_mem (by simp [clientFields])
  have hid : (fields.withForwarding fresh client.peer client.port client.scheme).2.requestId later =
      fields.requestId fresh := by
    rw [Fields.requestId, Fields.text?, Fields.get?, hvalues, List.head?_cons, Option.bind_some,
      readable?_requestId fields legible, Option.getD_some]
  rw [withForwarding_eq _ later, hid, withForwarding_eq fields fresh]
  have hown : (clientFields (fields.requestId fresh) client).filter (fun field =>
      decide (field.1 ∉ (clientFields (fields.requestId fresh) client).map (·.1))) = [] :=
    List.filter_eq_nil_iff.mpr fun field hm => by simpa using ⟨_, hm⟩
  rw [List.filter_append, hown, List.append_nil, List.filter_filter]
  simp only [Bool.and_self]

/-- What a listener tells about a client stands in the fields exactly once, whatever stood there under its names: the
client's address, the listener's port and scheme, and an id, which is the client's first if that can be read and the
fresh one otherwise, and can stand in a field. All other fields have the values that they had. Setting all this a second
time, with another fresh id at hand, gives the same id and the same fields. -/
theorem withForwarding_exact (fields : Fields) (fresh : Text) (client : Client)
    (legible : ∀ c ∈ fresh, Fields.IsVisible c) :
    ∃ id told, fields.withForwarding fresh client.peer client.port client.scheme = (id, told) ∧
      told.values "x-forwarded-for" = [Text.utf8 client.peer] ∧
      told.values "x-forwarded-port" = [Text.utf8 (Text.ofNat client.port)] ∧
      told.values "x-forwarded-proto" = [Text.utf8 client.scheme.name] ∧
      told.values "x-request-id" = [Text.utf8 id] ∧ (Text.utf8 id).all Fields.isValueByte = true ∧
      (∀ given, fields.get? "x-request-id" = some given → Fields.readable? given ≠ none → Text.utf8 id = given) ∧
      (fields.text? "x-request-id" = none → id = fresh) ∧
      (∀ name, name ∉ (["x-request-id", "x-forwarded-for", "x-forwarded-port", "x-forwarded-proto"] : List Text) →
        told.values name = fields.values name) ∧
      ∀ later, told.withForwarding later client.peer client.port client.scheme = (id, told) := by
  refine ⟨fields.requestId fresh, (fields.withForwarding fresh client.peer client.port client.scheme).2, rfl,
    ?_, ?_, ?_, ?_, ?_, ?_, ?_, ?_, ?_⟩
  · exact values_withForwarding_of_mem (by simp [clientFields])
  · exact values_withForwarding_of_mem (by simp [clientFields])
  · exact values_withForwarding_of_mem (by simp [clientFields])
  · exact values_withForwarding_of_mem (by simp [clientFields])
  · exact Fields.isValueByte_of_readable (readable?_requestId fields legible)
  · exact fun given hfirst hread => utf8_requestId hfirst hread fresh
  · intro hnone
    rw [Fields.requestId, hnone, Option.getD_none]
  · exact fun name hother => values_withForwarding_of_other hother
  · exact withForwarding_again fields client legible

/-- Fields of a client that sends some of them itself, twice or in bytes that cannot be read. -/
def pretending : Fields :=
  [("x-request-id", Text.utf8 "req-1"), ("accept", Text.utf8 "a"), ("x-forwarded-for", Text.utf8 "6.6.6.6"),
    ("x-request-id", [0xFF]), ("x-forwarded-for", [0xFF]), ("accept", Text.utf8 "b")]

/-- The first id is kept, the other fields tell of the listener, and a second time nothing changes. -/
theorem pretending_told :
    (∀ c ∈ ("67e55044-10b1-426f-9247-bb680e5fe0c8" : Text), Fields.IsVisible c) ∧
      ∃ id told, pretending.withForwarding "67e55044-10b1-426f-9247-bb680e5fe0c8" visitor.peer visitor.port
          visitor.scheme = (id, told) ∧
        told.values "x-forwarded-for" = [Text.utf8 "127.0.0.1"] ∧ told.values "x-request-id" = [Text.utf8 "req-1"] ∧
        told.values "accept" = [Text.utf8 "a", Text.utf8 "b"] ∧
        told.withForwarding "other" visitor.peer visitor.port visitor.scheme = (id, told) := by
  have legible : ∀ c ∈ ("67e55044-10b1-426f-9247-bb680e5fe0c8" : Text), Fields.IsVisible c := by
    simp [Fields.IsVisible]
  obtain ⟨id, told, heq, hpeer, -, -, hid, -, hgiven, -, hothers, hagain⟩ :=
    withForwarding_exact pretending "67e55044-10b1-426f-9247-bb680e5fe0c8" visitor legible
  refine ⟨legible, id, told, heq, hpeer, ?_, ?_, hagain "other"⟩
  · rw [hid, hgiven (Text.utf8 "req-1") (by decide) (by decide)]
  · rw [hothers "accept" (by decide)]
    decide

end Gatehouse.Backend
