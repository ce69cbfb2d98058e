import Gatehouse.Proofs.Backend.Outgoing
import Gatehouse.Proofs.Backend.SingleHop

/-!
The host that a backend is told a request is for: over HTTP/1.1 by the `Host` field, over HTTP/2 by the authority of the
URI. Main statement: `outgoing_sameHost`, by which it is the same host over both exactly if the client's `Host` field is
the chosen authority or is not passed on, and the authority that is put in front of the path ends where the path begins.
-/

namespace Gatehouse.Backend

open Http

variable {r plain framed : Request} {route : Route} {t host : Text}

/-! ## What is told over HTTP/1.1 -/

/-- The client's `Host` field, if it is not for a single hop, and the proxy's own otherwise. -/
theorem host_of_plain (h : outgoing r route false false = .ok plain) :
    plain.fields.values "host" =
      if r.fields.values "host" ≠ [] ∧ r.fields.Unmarked "host" then r.fields.values "host" else ownHost r route := by
  rw [outgoing_host h, if_neg Bool.false_ne_true, if_neg Bool.false_ne_true, Fields.values_stripHopByHop_unmarked]
  by_cases hunmarked : r.fields.Unmarked "host"
  · rw [if_pos hunmarked, if_congr (and_iff_left hunmarked) rfl rfl, ite_not]
  · rw [if_neg hunmarked, if_pos rfl, if_neg fun hboth => hunmarked hboth.2]

theorem ownHost_of_visible (h : ∀ c ∈ authorityOf r route, Fields.IsVisible c) :
    ownHost r route = [Text.utf8 (authorityOf r route)] :=
  if_pos (Fields.isValueByte_of_readable (Fields.readable?_eq_some_iff.mpr ⟨rfl, h⟩))

theorem eq_of_ownHost (h : ownHost r route = [Text.utf8 host]) : host = authorityOf r route := by
  rw [ownHost] at h
  split at h
  · exact (Text.utf8_inj (List.head_eq_of_cons_eq h)).symm
  · cases h

/-! ## What is told over HTTP/2 -/

/-- The authority with the path behind it, up to what ends an authority. -/
theorem authority_of_framed (h : outgoing r route true false = .ok framed) :
    framed.uri.authority? = some ((authorityOf r route ++ pathOf r).takeWhile (!Uri.endsAuthority ·)) := by
  obtain ⟨hnonempty, huri⟩ := Uri.parse_absolute (schemeOf_known route) (parse_of_outgoing_http2 h)
  rw [Uri.authority?, if_neg hnonempty, huri]

/-- It is the chosen authority if that ends where the path begins. -/
theorem authority_of_framed_iff (readable : r.uri.IsReadable) (h : outgoing r route true false = .ok framed) :
    framed.uri.authority? = some (authorityOf r route) ↔
      Uri.beginsPath (pathOf r) = true ∧ ∀ c ∈ authorityOf r route, Uri.endsAuthority c = false := by
  rw [authority_of_framed h, Option.some.injEq]
  refine ⟨Uri.beginsPath_of_takeWhile (readPath_pathOf readable) (pathOf_ne_nil r), ?_⟩
  rintro ⟨hbegins, hwithin⟩
  exact (Uri.takeWhile_append_path hwithin hbegins).1

theorem authority_eq_of_authority? {u : Uri} (h : u.authority? = some host) : u.authority = host ∧ host ≠ [] := by
  rw [Uri.authority?] at h
  split at h
  · cases h
  · rename_i hne
    obtain rfl := Option.some.inj h
    exact ⟨rfl, hne⟩

theorem visible_of_framed (h : outgoing r route true false = .ok framed) (htold : framed.uri.authority? = some host) :
    ∀ c ∈ host, Fields.IsVisible c := by
  intro c hm
  obtain ⟨rfl, -⟩ := authority_eq_of_authority? htold
  exact .inr (Uri.char_of_parse (parse_of_outgoing_http2 h) hm).2

/-! ## The chosen authority -/

theorem authorityOf_of_given {given : Text} (h : r.uri.authority? = some given) : authorityOf r route = given := by
  rw [authorityOf, h]

/-- The only `Host` field is chosen, if the URI has no authority and the field can be read. -/
theorem authorityOf_of_host (hnone : r.uri.authority? = none) (hvalues : r.fields.values "host" = [Text.utf8 host])
    (hvisible : ∀ c ∈ host, Fields.IsVisible c) : authorityOf r route = host := by
  have htext : r.fields.text? "host" = some host := by
    rw [Fields.text?, Fields.get?, hvalues, List.head?_cons, Option.bind_some]
    exact Fields.readable?_eq_some_iff.mpr ⟨rfl, hvisible⟩
  rw [authorityOf, hnone, htext]
  rfl

/-- A path that was read begins like one, or is an asterisk. -/
theorem beginsPath_iff (read : Uri.parse t = .ok r.uri) : Uri.beginsPath (pathOf r) = true ↔ pathOf r ≠ "*" := by
  refine ⟨?_, fun hother => (pathOf_of_parse read).resolve_right hother⟩
  intro hbegins hasterisk
  rw [hasterisk] at hbegins
  cases hbegins

/-- An authority in the URI of a request ends where the path begins. -/
theorem within_of_given {given : Text} (read : Uri.parse t = .ok r.uri) (h : r.uri.authority? = some given) :
    Uri.beginsPath (pathOf r) = true ∧ ∀ c ∈ given, Uri.endsAuthority c = false := by
  obtain ⟨rfl, hne⟩ := authority_eq_of_authority? h
  refine ⟨?_, fun c hm => (Uri.char_of_parse read hm).1⟩
  rw [pathOf, Uri.pathText?]
  split
  · split
    · decide
    · rename_i hpath
      exact (Uri.beginsPath_of_authority read hne).resolve_left hpath
  · decide

/-- If a backend is told the same host over both versions, this is the chosen authority. -/
theorem eq_authorityOf (hplain : outgoing r route false false = .ok plain)
    (hframed : outgoing r route true false = .ok framed) (htold : plain.fields.values "host" = [Text.utf8 host])
    (hsame : framed.uri.authority? = some host) (hgiven : ∀ given, r.uri.authority? = some given → host = given) :
    host = authorityOf r route := by
  cases huri : r.uri.authority? with
  | some given => rw [authorityOf_of_given huri, hgiven given huri]
  | none =>
    rw [host_of_plain hplain] at htold
    split at htold
    · exact (authorityOf_of_host huri htold (visible_of_framed hframed hsame)).symm
    · exact eq_of_ownHost htold

/-! ## The same host -/

/-- The host that a backend is told a request is for, when the request is not for another protocol. Over HTTP/1.1 it is
what the client's `Host` field says, if that is passed on, and the chosen authority otherwise. Over HTTP/2 it is the
chosen authority, with the path behind it, up to the first slash, question mark or number sign. So it is one host, and
that of the client's URI where this has one, exactly if a `Host` field that is passed on is the only one and says the
chosen authority, the path begins like one, and nothing in the chosen authority ends an authority. The path of a URI that
was read begins like one if it is no asterisk, and an authority in such a URI is what is told over HTTP/2. -/
theorem outgoing_sameHost (r : Request) (route : Route) (plain framed : Request) (readable : r.uri.IsReadable)
    (hplain : outgoing r route false false = .ok plain) (hframed : outgoing r route true false = .ok framed) :
    (plain.fields.values "host" =
      if r.fields.values "host" ≠ [] ∧ r.fields.Unmarked "host" then r.fields.values "host" else ownHost r route) ∧
    framed.uri.authority? = some ((authorityOf r route ++ pathOf r).takeWhile (!Uri.endsAuthority ·)) ∧
    ((∃ host, plain.fields.values "host" = [Text.utf8 host] ∧ framed.uri.authority? = some host ∧
        ∀ given, r.uri.authority? = some given → host = given) ↔
      (r.fields.values "host" ≠ [] ∧ r.fields.Unmarked "host" →
        r.fields.values "host" = [Text.utf8 (authorityOf r route)]) ∧
      Uri.beginsPath (pathOf r) = true ∧ ∀ c ∈ authorityOf r route, Uri.endsAuthority c = false) ∧
    ∀ t, Uri.parse t = .ok r.uri →
      (Uri.beginsPath (pathOf r) = true ↔ pathOf r ≠ "*") ∧
        ∀ given, r.uri.authority? = some given → framed.uri.authority? = some given := by
  have hchosen := authority_of_framed_iff readable hframed
  refine ⟨host_of_plain hplain, authority_of_framed hframed, ⟨?_, ?_⟩, fun t read => ⟨beginsPath_iff read, ?_⟩⟩
  · rintro ⟨host, htold, hsame, hgiven⟩
    obtain rfl := eq_authorityOf hplain hframed htold hsame hgiven
    refine ⟨fun hpassed => ?_, hchosen.mp hsame⟩
    rwa [host_of_plain hplain, if_pos hpassed] at htold
  · rintro ⟨hpassed, hends⟩
    have hsame := hchosen.mpr hends
    refine ⟨authorityOf r route, ?_, hsame, fun given huri => authorityOf_of_given huri⟩
    rw [host_of_plain hplain]
    split
    · rename_i hboth
      exact hpassed hboth
    · exact ownHost_of_visible (visible_of_framed hframed hsame)
  · intro given huri
    rw [authorityOf_of_given huri] at hchosen
    exact hchosen.mpr (within_of_given read huri)

/-! ## Requests with two hosts -/

/-- A request for a.test with a `Host` field that says b.test. -/
def absolute (fields : Fields) : Request where
  method := "GET"
  uri := ⟨some "http", "a.test", "/x"⟩
  version := .http11
  fields := ("host", Text.utf8 "b.test") :: fields
  body := []

/-- Where the field is named as one of a single hop, a backend is told a.test over both versions. -/
theorem absolute_sameHost :
    ∃ plain framed, (absolute [("connection", Text.utf8 "Host")]).uri.IsReadable ∧
      outgoing (absolute [("connection", Text.utf8 "Host")]) fixedRoute false false = .ok plain ∧
      outgoing (absolute [("connection", Text.utf8 "Host")]) fixedRoute true false = .ok framed ∧
      plain.fields.values "host" = [Text.utf8 "a.test"] ∧ framed.uri.authority? = some "a.test" := by
  obtain ⟨plain, hplain⟩ : ∃ plain,
      outgoing (absolute [("connection", Text.utf8 "Host")]) fixedRoute false false = .ok plain := ⟨_, rfl⟩
  obtain ⟨framed, hframed⟩ : ∃ framed,
      outgoing (absolute [("connection", Text.utf8 "Host")]) fixedRoute true false = .ok framed := ⟨_, rfl⟩
  have readable : (absolute [("connection", Text.utf8 "Host")]).uri.IsReadable := by rfl
  obtain ⟨-, -, hsame, -⟩ := outgoing_sameHost _ fixedRoute plain framed readable hplain hframed
  have hnamed : ¬ (absolute [("connection", Text.utf8 "Host")]).fields.Unmarked "host" := by decide
  have hwithin : ("a.test" : Text).all (!Uri.endsAuthority ·) = true := by decide
  obtain ⟨host, htold, hframe, hgiven⟩ := hsame.mpr ⟨fun hboth => absurd hboth.2 hnamed, by decide,
    fun c hm => by simpa using List.all_eq_true.mp hwithin c hm⟩
  obtain rfl : host = "a.test" := hgiven "a.test" rfl
  exact ⟨plain, framed, readable, hplain, hframed, htold, hframe⟩

/-- Where it is not, a backend is told b.test over HTTP/1.1 and a.test over HTTP/2. -/
theorem absolute_twoHosts :
    ¬ ∀ (r : Request) (route : Route) (plain framed : Request), r.uri.IsReadable →
      outgoing r route false false = .ok plain → outgoing r route true false = .ok framed →
      ∃ host, plain.fields.values "host" = [Text.utf8 host] ∧ framed.uri.authority? = some host ∧
        ∀ given, r.uri.authority? = some given → host = given := by
  intro always
  obtain ⟨plain, hplain, htold⟩ : ∃ plain, outgoing (absolute []) fixedRoute false false = .ok plain ∧
      plain.fields.values "host" = [Text.utf8 "b.test"] := ⟨_, rfl, rfl⟩
  obtain ⟨framed, hframed⟩ : ∃ framed, outgoing (absolute []) fixedRoute true false = .ok framed := ⟨_, rfl⟩
  obtain ⟨host, hhost, -, hgiven⟩ := always (absolute []) fixedRoute plain framed (by rfl) hplain hframed
  obtain rfl : host = "a.test" := hgiven "a.test" rfl
  rw [htold] at hhost
  exact absurd hhost (by decide)

end Gatehouse.Backend
