import Gatehouse.Backend.Forward
import Gatehouse.Proofs.Http.Uri

/-!
What a backend is asked for. Main statement: `outgoing_asks`, by which the path of a request stays the same over
HTTP/1.1, and path and authority stay the same over HTTP/2 exactly if the path begins like one and nothing in the
authority ends an authority.
-/

namespace Gatehouse.Backend

open Http

variable {r sent : Request} {route : Route} {upgrade : Bool}

/-! ## The URI that is sent -/

/-- The path that a request asks for. -/
def pathOf (r : Request) : Text := r.uri.pathText?.getD "/"

theorem pathOf_ne_nil (r : Request) : pathOf r ≠ [] := by
  rw [pathOf, Uri.pathText?]
  split
  · split
    · exact List.cons_ne_nil _ _
    · rename_i hne
      exact hne
  · exact List.cons_ne_nil _ _

theorem readPath_pathOf (readable : r.uri.IsReadable) : Uri.readPath (pathOf r) = .ok (pathOf r) := by
  rw [pathOf, Uri.pathText?]
  split
  · split
    · decide
    · exact readable
  · decide

theorem parse_of_outgoing_http11 (h : outgoing r route false upgrade = .ok sent) :
    Uri.parse (pathOf r) = .ok sent.uri := by
  simp only [outgoing, Bool.false_eq_true, if_false] at h
  split at h
  · cases h
  · rename_i uri huri
    obtain rfl := Except.ok.inj h
    exact huri

/-- The scheme that is sent over HTTP/2. -/
def schemeOf (route : Route) : Text := if route.scheme.terminatesTls then "https" else "http"

theorem schemeOf_known (route : Route) : schemeOf route = "http" ∨ schemeOf route = "https" := by
  rw [schemeOf]
  split
  · exact .inr rfl
  · exact .inl rfl

theorem parse_of_outgoing_http2 (h : outgoing r route true upgrade = .ok sent) :
    Uri.parse (schemeOf route ++ "://" ++ (authorityOf r route ++ pathOf r)) = .ok sent.uri := by
  simp only [outgoing, if_true] at h
  split at h
  · cases h
  · rename_i uri huri
    obtain rfl := Except.ok.inj h
    rw [← List.append_assoc]
    exact huri

/-- The path of a request whose URI was read begins like one, or is an asterisk. -/
theorem pathOf_of_parse {t : Text} (h : Uri.parse t = .ok r.uri) :
    Uri.beginsPath (pathOf r) = true ∨ pathOf r = "*" := by
  obtain ⟨-, hform⟩ := Uri.isReadable_of_parse h
  rw [pathOf, Uri.pathText?]
  split
  · split
    · exact .inl (by decide)
    · rename_i hne
      exact (hform.resolve_left hne).symm
  · exact .inl (by decide)

/-- What a backend is asked for, compared with what the client asked for. Over HTTP/1.1 it is the same path, if this
begins like one or is an asterisk. Over HTTP/2 it is the same path and the authority that was chosen exactly if the
path begins like one and nothing in the authority ends an authority. The path of a URI that was read always begins
like one or is an asterisk. -/
theorem outgoing_asks (r : Request) (route : Route) (overHttp2 upgrade : Bool) (sent : Request)
    (readable : r.uri.IsReadable) (h : outgoing r route overHttp2 upgrade = .ok sent) :
    (overHttp2 = false →
      (sent.uri.pathText? = some (pathOf r) ↔ Uri.beginsPath (pathOf r) = true ∨ pathOf r = "*")) ∧
    (overHttp2 = true →
      ((sent.uri.pathText? = some (pathOf r) ∧ sent.uri.authority? = some (authorityOf r route)) ↔
        Uri.beginsPath (pathOf r) = true ∧ ∀ c ∈ authorityOf r route, Uri.endsAuthority c = false)) ∧
    ∀ t, Uri.parse t = .ok r.uri → Uri.beginsPath (pathOf r) = true ∨ pathOf r = "*" := by
  refine ⟨?_, ?_, fun t hread => pathOf_of_parse hread⟩
  · rintro rfl
    exact Uri.pathText?_of_parse (readPath_pathOf readable) (parse_of_outgoing_http11 h)
  · rintro rfl
    exact Uri.authority?_of_parse (schemeOf_known route) (readPath_pathOf readable) (pathOf_ne_nil r)
      (parse_of_outgoing_http2 h)

/-- A request without a `Host` field for a service asks the backend for a path that begins in the name of the service. -/
example : (outgoing ⟨"GET", ⟨none, [], "/a"⟩, .http11, [], []⟩ ⟨.https, .service "shop" "service" "web" 80⟩ true
    false).map (·.uri) = .ok ⟨some "https", "shop", "/service/web:80/a"⟩ := by
  rfl

/-! ## Requests -/

/-- A request without an authority in its URI. -/
def requesting (path : Text) (fields : Fields) : Request := ⟨"GET", ⟨none, [], path⟩, .http11, fields, []⟩

/-- A route to a fixed address under TLS. -/
def secureRoute : Route := ⟨.https, .fixed "127.0.0.1" 3000⟩

theorem requesting_asks :
    ∃ sent, (requesting "/a?b" [("host", Text.utf8 "a.test")]).uri.IsReadable ∧
      outgoing (requesting "/a?b" [("host", Text.utf8 "a.test")]) secureRoute true false = .ok sent ∧
        sent.uri.pathText? = some "/a?b" ∧ sent.uri.authority? = some "a.test" := by
  have readable : (requesting "/a?b" [("host", Text.utf8 "a.test")]).uri.IsReadable := by rfl
  obtain ⟨sent, hsent⟩ : ∃ sent,
      outgoing (requesting "/a?b" [("host", Text.utf8 "a.test")]) secureRoute true false = .ok sent := ⟨_, rfl⟩
  have hchosen : authorityOf (requesting "/a?b" [("host", Text.utf8 "a.test")]) secureRoute = "a.test" := rfl
  have hsame := (outgoing_asks _ secureRoute true false sent readable hsent).2.1 rfl
  rw [hchosen] at hsame
  have hwithin : ("a.test" : Text).all (!Uri.endsAuthority ·) = true := by decide
  exact ⟨sent, readable, hsent, hsame.mpr ⟨by decide, fun c hm => by simpa using List.all_eq_true.mp hwithin c hm⟩⟩

/-- A request for an asterisk asks the backend for a slash, of an authority that ends in the asterisk. -/
theorem asterisk_rewritten :
    ¬ ∀ (r : Request) (route : Route) (overHttp2 upgrade : Bool) (sent : Request), r.uri.IsReadable →
      outgoing r route overHttp2 upgrade = .ok sent →
      sent.uri.pathText? = some (pathOf r) ∧
        (overHttp2 = true → sent.uri.authority? = some (authorityOf r route)) := by
  intro always
  obtain ⟨sent, hsent, huri⟩ : ∃ sent,
      outgoing (requesting "*" [("host", Text.utf8 "a.test")]) secureRoute true false = .ok sent ∧
        sent.uri = ⟨some "https", "a.test*", []⟩ := ⟨_, rfl, rfl⟩
  have hpath := (always _ secureRoute true false sent (by decide) hsent).1
  rw [huri] at hpath
  exact absurd hpath (by decide)

end Gatehouse.Backend
