import Gatehouse.Proofs.Backend.Forward
import Gatehouse.Proofs.Http.SingleHop

/-!
What a backend is sent of the fields of a single hop. Main statement: `outgoing_singleHop`, by which it is sent none of
them, except for those that only an unreadable `Connection` value names, and except that all of them go with a request
for another protocol.
-/

namespace Gatehouse.Backend

open Http

variable {r sent : Request} {route : Route} {overHttp2 upgrade : Bool}

/-! ## What a backend is sent of it -/

/-- The `Host` field for the authority that was chosen, if that can be a value. -/
def ownHost (r : Request) (route : Route) : List Bytes :=
  if (Text.utf8 (authorityOf r route)).all Fields.isValueByte then [Text.utf8 (authorityOf r route)] else []

theorem values_withHost (fields : Fields) (r : Request) (route : Route) :
    (withHost fields (authorityOf r route)).values "host" =
      if fields.values "host" = [] then ownHost r route else fields.values "host" := by
  rw [withHost]
  by_cases hhas : fields.has "host" = true
  · rw [if_pos hhas, if_neg ((Fields.has_iff fields "host").mp hhas)]
  · have hnone : fields.values "host" = [] := by
      by_contra hsome
      exact hhas ((Fields.has_iff fields "host").mpr hsome)
    rw [if_neg hhas, if_pos hnone, ownHost]
    split
    · rw [Fields.values_put, if_pos rfl]
    · exact hnone

/-- The `Host` field that a backend is sent: none over HTTP/2, else the client's if it is left, else the proxy's own. -/
theorem outgoing_host (h : outgoing r route overHttp2 upgrade = .ok sent) :
    sent.fields.values "host" =
      if overHttp2 = true then []
      else if (if upgrade then r.fields else r.fields.stripHopByHop).values "host" = [] then ownHost r route
      else (if upgrade then r.fields else r.fields.stripHopByHop).values "host" := by
  rw [outgoing_fields h]
  by_cases hhttp2 : overHttp2 = true
  · rw [if_pos hhttp2, if_pos hhttp2, Fields.values_remove, if_pos rfl]
  · rw [if_neg hhttp2, if_neg hhttp2]
    exact values_withHost _ r route

/-- The fields of a request that a backend is sent. With a request for another protocol they are all sent, with any
other request those that are not marked as fields of a single hop. `Host` is treated apart: it is never sent over
HTTP/2, and over HTTP/1.1 the proxy sets it where the client's does not go on. So nothing of a single hop goes on,
`Connection` and `Upgrade` of a request for another protocol apart, exactly if no such field is there in a request for
another protocol, and none that is not marked in any other request. -/
theorem outgoing_singleHop (r : Request) (route : Route) (overHttp2 : Bool) (sent : Request)
    (h : outgoing r route overHttp2 r.fields.isUpgrade = .ok sent) :
    (∀ name : Text, name ≠ "host" →
      sent.fields.values name =
        if r.fields.isUpgrade = true ∨ r.fields.Unmarked name then r.fields.values name else []) ∧
    (sent.fields.values "host" =
      if overHttp2 = true then []
      else if r.fields.values "host" ≠ [] ∧ (r.fields.isUpgrade = true ∨ r.fields.Unmarked "host") then
        r.fields.values "host"
      else ownHost r route) ∧
    ((∀ name : Text, r.fields.SingleHop name → name ≠ "host" →
        (r.fields.isUpgrade = true → name ≠ "connection" ∧ name ≠ "upgrade") → sent.fields.values name = []) ↔
      ∀ name : Text, r.fields.SingleHop name → name ≠ "host" →
        (r.fields.isUpgrade = true → name ≠ "connection" ∧ name ≠ "upgrade") →
          r.fields.isUpgrade = true ∨ r.fields.Unmarked name → r.fields.values name = []) := by
  have hleft : ∀ name : Text, (if r.fields.isUpgrade then r.fields else r.fields.stripHopByHop).values name =
      if r.fields.isUpgrade = true ∨ r.fields.Unmarked name then r.fields.values name else [] := by
    intro name
    by_cases hupgrade : r.fields.isUpgrade = true
    · rw [if_pos hupgrade, if_pos (.inl hupgrade)]
    · rw [if_neg hupgrade, Fields.values_stripHopByHop_unmarked]
      exact if_congr (or_iff_right hupgrade).symm rfl rfl
  have hsent : ∀ name : Text, name ≠ "host" →
      sent.fields.values name =
        if r.fields.isUpgrade = true ∨ r.fields.Unmarked name then r.fields.values name else [] :=
    fun name hhost => (outgoing_values h hhost).trans (hleft name)
  refine ⟨hsent, ?_, ?_⟩
  · rw [outgoing_host h, hleft "host"]
    congr 1
    by_cases hgoes : r.fields.isUpgrade = true ∨ r.fields.Unmarked "host"
    · rw [if_pos hgoes, if_congr (and_iff_left hgoes) rfl rfl, ite_not]
    · rw [if_neg hgoes, if_pos rfl, if_neg fun hboth => hgoes hboth.2]
  · refine forall_congr' fun name => forall₃_congr fun _ hhost _ => ?_
    rw [hsent name hhost, ite_eq_right_iff]

/-- A request that closes its connection, and names a field of its own for a single hop. -/
def closing : Request where
  method := "GET"
  uri := ⟨none, [], "/"⟩
  version := .http11
  fields := [("host", Text.utf8 "a.test"), ("connection", Text.utf8 "close, X-Drop"), ("x-drop", Text.utf8 "1"),
    ("te", Text.utf8 "trailers"), ("x-keep", Text.utf8 "2")]
  body := []

/-- Nothing of a single hop is sent with it, and all else is. -/
theorem closing_singleHop :
    ∃ sent, outgoing closing fixedRoute false closing.fields.isUpgrade = .ok sent ∧
      sent.fields.values "connection" = [] ∧ sent.fields.values "x-drop" = [] ∧ sent.fields.values "te" = [] ∧
        sent.fields.values "x-keep" = [Text.utf8 "2"] ∧ sent.fields.values "host" = [Text.utf8 "a.test"] := by
  obtain ⟨sent, hsent⟩ : ∃ sent, outgoing closing fixedRoute false closing.fields.isUpgrade = .ok sent := ⟨_, rfl⟩
  obtain ⟨hfields, hhost, -⟩ := outgoing_singleHop closing fixedRoute false sent hsent
  refine ⟨sent, hsent, ?_, ?_, ?_, ?_, ?_⟩
  · exact hfields "connection" (by decide)
  · exact hfields "x-drop" (by decide)
  · exact hfields "te" (by decide)
  · exact hfields "x-keep" (by decide)
  · exact hhost

/-- A request for another protocol that carries the client's credentials for the proxy. -/
def switching : Request where
  method := "GET"
  uri := ⟨none, [], "/"⟩
  version := .http11
  fields := [("host", Text.utf8 "a.test"), ("connection", Text.utf8 "Upgrade"), ("upgrade", Text.utf8 "websocket"),
    ("proxy-authorization", Text.utf8 "Basic eDp5")]
  body := []

/-- The credentials are sent to the backend, though they are for a single hop. -/
theorem switching_leaks :
    ¬ ∀ (r : Request) (route : Route) (overHttp2 : Bool) (sent : Request),
      outgoing r route overHttp2 r.fields.isUpgrade = .ok sent →
      ∀ name : Text, r.fields.SingleHop name → name ≠ "host" →
        (r.fields.isUpgrade = true → name ≠ "connection" ∧ name ≠ "upgrade") → sent.fields.values name = [] := by
  intro never
  obtain ⟨sent, hsent, hleaked⟩ : ∃ sent,
      outgoing switching fixedRoute false switching.fields.isUpgrade = .ok sent ∧
        sent.fields.values "proxy-authorization" = [Text.utf8 "Basic eDp5"] := ⟨_, rfl, rfl⟩
  have hnone := never switching fixedRoute false sent hsent "proxy-authorization" (.inl (by decide)) (by decide)
    (fun _ => ⟨by decide, by decide⟩)
  rw [hleaked] at hnone
  cases hnone

end Gatehouse.Backend
