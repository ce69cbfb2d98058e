import Gatehouse.Backend.Forward
import Gatehouse.Proofs.Http.Fields

/-!
The fields of a request that tell a backend about the client. Main statement: `outgoing_clientFields`, by
which each of them is sent exactly once and as the listener set it, except that a client may have it removed
by naming it in a `Connection` field.
-/

namespace Gatehouse.Backend

open Http

/-! ## What is told about a client -/

/-- The fields that a listener sets in a request with this id. -/
def clientFields (id : Text) (client : Client) : Fields :=
  [("x-request-id", Text.utf8 id), ("x-forwarded-for", Text.utf8 client.peer),
   ("x-forwarded-port", Text.utf8 (Text.ofNat client.port)), ("x-forwarded-proto", Text.utf8 client.scheme.name)]

/-- A request with these fields set. -/
def announced (r : Request) (freshId : Text) (client : Client) : Request :=
  { r with fields := (r.fields.withForwarding freshId client.peer client.port client.scheme).2 }

variable {r : Request} {client : Client} {route : Route} {id freshId name : Text} {value : Bytes}

theorem clientFields_names (id : Text) (client : Client) :
    (clientFields id client).map (·.1) =
      (["x-request-id", "x-forwarded-for", "x-forwarded-port", "x-forwarded-proto"] : List Text) := rfl

theorem clientFields_once (id : Text) (client : Client) : ((clientFields id client).map (·.1)).Nodup := by
  rw [clientFields_names]
  decide

/-- None of the names is that of a field that proxies treat in a special way. -/
theorem clientFields_ordinary (h : (name, value) ∈ clientFields id client) :
    name ≠ "connection" ∧ name ≠ "upgrade" ∧ name ≠ "host" ∧ name ∉ Fields.hopByHop := by
  have hm : name ∈ (clientFields id client).map (·.1) := List.mem_map.mpr ⟨_, h, rfl⟩
  rw [clientFields_names] at hm
  have ordinary : ∀ name ∈
      (["x-request-id", "x-forwarded-for", "x-forwarded-port", "x-forwarded-proto"] : List Text),
      name ≠ "connection" ∧ name ≠ "upgrade" ∧ name ≠ "host" ∧ name ∉ Fields.hopByHop := by decide
  exact ordinary name hm

theorem values_withForwarding (fields : Fields) (freshId : Text) (client : Client) (name : Text) :
    (fields.withForwarding freshId client.peer client.port client.scheme).2.values name =
      if name ∈ (clientFields (fields.requestId freshId) client).map (·.1) then
        (clientFields (fields.requestId freshId) client).values name
      else fields.values name :=
  Fields.values_foldl_put _ (clientFields_once _ client) fields name

theorem values_announced (r : Request) (freshId : Text) (client : Client) (name : Text) :
    (announced r freshId client).fields.values name =
      if name ∈ (clientFields (r.fields.requestId freshId) client).map (·.1) then
        (clientFields (r.fields.requestId freshId) client).values name
      else r.fields.values name :=
  values_withForwarding r.fields freshId client name

/-- What is told about the client does not change what the client asks of the connection. -/
theorem connection_announced (r : Request) (freshId : Text) (client : Client) :
    (announced r freshId client).fields.allConnectionOptions = r.fields.allConnectionOptions ∧
      (announced r freshId client).fields.isUpgrade = r.fields.isUpgrade := by
  have hconnection : (announced r freshId client).fields.values "connection" = r.fields.values "connection" := by
    rw [values_announced, clientFields_names, if_neg (by decide)]
  have hupgrade : (announced r freshId client).fields.values "upgrade" = r.fields.values "upgrade" := by
    rw [values_announced, clientFields_names, if_neg (by decide)]
  exact ⟨Fields.allConnectionOptions_congr hconnection, Fields.isUpgrade_congr hconnection hupgrade⟩

/-! ## What a backend is sent -/

theorem withHost_values (fields : Fields) (authority : Text) (hname : name ≠ "host") :
    (withHost fields authority).values name = fields.values name := by
  unfold withHost
  split
  · rfl
  · split
    · rw [Fields.values_put, if_neg hname]
    · rfl

/-- The fields that a backend is sent, by its protocol. -/
theorem outgoing_fields {overHttp2 upgrade : Bool} {sent : Request}
    (h : outgoing r route overHttp2 upgrade = .ok sent) :
    sent.fields =
      if overHttp2 = true then (if upgrade then r.fields else r.fields.stripHopByHop).remove "host"
      else withHost (if upgrade then r.fields else r.fields.stripHopByHop) (authorityOf r route) := by
  unfold outgoing at h
  cases overHttp2 with
  | true =>
    simp only [if_true] at h
    split at h
    · cases h
    · obtain rfl := Except.ok.inj h
      rfl
  | false =>
    simp only [Bool.false_eq_true, if_false] at h
    split at h
    · cases h
    · obtain rfl := Except.ok.inj h
      rfl

/-- A backend is sent the fields of a request, without those of a single hop if the request is not for
another protocol; only `Host` is treated apart. -/
theorem outgoing_values {overHttp2 upgrade : Bool} {sent : Request}
    (h : outgoing r route overHttp2 upgrade = .ok sent) (hname : name ≠ "host") :
    sent.fields.values name = (if upgrade then r.fields else r.fields.stripHopByHop).values name := by
  rw [outgoing_fields h]
  split
  · rw [Fields.values_remove, if_neg hname]
  · exact withHost_values _ _ hname

/-- Of the fields that tell about the client, a backend is sent each exactly once, with the value that the
listener gave it, whatever the client sent under its name; unless the request is not for another protocol
and the client names the field in a `Connection` field, for then it is not sent at all. -/
theorem outgoing_clientFields (r : Request) (freshId : Text) (client : Client) (route : Route)
    (overHttp2 : Bool) (sent : Request)
    (h : outgoing (announced r freshId client) route overHttp2 (announced r freshId client).fields.isUpgrade =
      .ok sent) :
    ∀ name value, (name, value) ∈ clientFields (r.fields.requestId freshId) client →
      sent.fields.values name =
        if r.fields.isUpgrade = true ∨ name ∉ r.fields.allConnectionOptions then [value] else [] := by
  intro name value hm
  obtain ⟨-, hupgrade, hhost, hhop⟩ := clientFields_ordinary hm
  obtain ⟨hoptions, hsame⟩ := connection_announced r freshId client
  have hset : (announced r freshId client).fields.values name = [value] := by
    rw [values_announced, if_pos (List.mem_map.mpr ⟨_, hm, rfl⟩)]
    exact Fields.values_of_mem (clientFields_once _ client) hm
  -- the only way to lose the field is to be named by the client, since it is no field of a single hop
  calc sent.fields.values name
      = if r.fields.isUpgrade then [value] else (announced r freshId client).fields.stripHopByHop.values name := by
        rw [outgoing_values h hhost, hsame, ← hset]
        split <;> rfl
    _ = if r.fields.isUpgrade then [value] else if name ∈ r.fields.allConnectionOptions then [] else [value] := by
        rw [Fields.values_stripHopByHop, hoptions, hset]
        simp only [hhop, hupgrade, or_false]
    _ = if r.fields.isUpgrade = true ∨ name ∉ r.fields.allConnectionOptions then [value] else [] := by
        by_cases hu : r.fields.isUpgrade = true
        · simp [hu]
        · by_cases hn : name ∈ r.fields.allConnectionOptions
          · simp [hu, hn]
          · simp [hu, hn]

/-- A request that names one of these fields in its `Connection` field. -/
def naming : Request where
  method := "GET"
  uri := ⟨none, [], "/"⟩
  version := .http11
  fields := [("host", Text.utf8 "a.test"), ("connection", Text.utf8 "close, X-Forwarded-For")]
  body := []

/-- A client of a listener on port 8080. -/
def visitor : Client := ⟨"127.0.0.1", 8080, .http, none⟩

/-- A route to a fixed address. -/
def fixedRoute : Route := ⟨.http, .fixed "127.0.0.1" 3000⟩

/-- The field that the request names is lost, and the others are sent. -/
theorem naming_clientFields :
    ∃ sent, outgoing (announced naming "7" visitor) fixedRoute false (announced naming "7" visitor).fields.isUpgrade =
        .ok sent ∧
      sent.fields.values "x-forwarded-for" = [] ∧ sent.fields.values "x-forwarded-port" = [Text.utf8 "8080"] := by
  obtain ⟨sent, hsent⟩ : ∃ sent, outgoing (announced naming "7" visitor) fixedRoute false
      (announced naming "7" visitor).fields.isUpgrade = .ok sent := ⟨_, rfl⟩
  have told := outgoing_clientFields naming "7" visitor fixedRoute false sent hsent
  refine ⟨sent, hsent, ?_, ?_⟩
  · exact told "x-forwarded-for" (Text.utf8 "127.0.0.1") (by decide)
  · exact told "x-forwarded-port" (Text.utf8 "8080") (by decide)

/-- So it is not so that every request that is forwarded carries all these fields. -/
theorem clientFields_removable :
    ¬ ∀ (r : Request) (freshId : Text) (client : Client) (route : Route) (overHttp2 : Bool) (sent : Request),
      outgoing (announced r freshId client) route overHttp2 (announced r freshId client).fields.isUpgrade =
        .ok sent →
      ∀ name value, (name, value) ∈ clientFields (r.fields.requestId freshId) client →
        sent.fields.values name = [value] := by
  intro always
  obtain ⟨sent, hsent, hlost⟩ : ∃ sent, outgoing (announced naming "7" visitor) fixedRoute false
      (announced naming "7" visitor).fields.isUpgrade = .ok sent ∧
      sent.fields.values "x-forwarded-for" = [] := ⟨_, rfl, rfl⟩
  have hsome := always naming "7" visitor fixedRoute false sent hsent "x-forwarded-for"
    (Text.utf8 "127.0.0.1") (by decide)
  rw [hlost] at hsome
  cases hsome

end Gatehouse.Backend
