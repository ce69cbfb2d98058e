import Gatehouse.Control.Resource
import Gatehouse.Proofs.Percent

/-!
The resources of the control interface by their paths. Main statement: `of_exact`, by which every text can stand in a path
as one segment, and by which a path has exactly the segments of the resource that is found under it.
-/

namespace Gatehouse.Control

variable {coded t method path : Text} {resource : Resource}

/-! ## Segments -/

/-- Whether a text is one segment of a path that stands for a text: in percent coding, with neither slashes nor percent
signs of its own. -/
def IsSegment (coded t : Text) : Prop := Text.Codes ['%', '/'] none coded (Text.utf8 t)

theorem IsSegment.decodeSegment (h : IsSegment coded t) : decodeSegment coded = t := by
  rw [Control.decodeSegment, Text.Codes.unescape? h (by decide), Option.getD_some]

theorem IsSegment.not_mem (h : IsSegment coded t) : '/' ∉ coded :=
  Text.Codes.not_mem h (by decide) (by decide) (by decide)

theorem isSegment_escape (t : Text) : IsSegment (Text.escape t) t := Text.codes_escape (by simp) t

/-- A path that does not end in a slash is trimmed of the slash in front of it only. -/
theorem trimBoth_path {c : Char} (hc : c ≠ '/') (front : Text) {last : Text} (hne : last ≠ []) (hlast : '/' ∉ last) :
    Text.trimBoth (· == '/') ('/' :: c :: (front ++ last)) = c :: (front ++ last) := by
  have hend : Text.trimEnd (· == '/') last = last := Text.trimEnd_of_not_mem hlast
  have hkept : Text.trimFront (· == '/') ('/' :: c :: (front ++ last)) = c :: front ++ last := by
    rw [Text.trimFront, List.dropWhile_cons_of_pos rfl, List.dropWhile_cons_of_neg (by simpa using hc)]
    rfl
  rw [Text.trimBoth, hkept, Text.trimEnd_append _ _ (by rwa [hend]), hend]
  rfl

/-! ## Resources -/

/-- The paths, without the slashes around them, under which a resource is asked for by a method. -/
inductive Stands : Resource → Text → Text → Prop where
  | health : Stands .health "GET" "health"
  | version : Stands .version "GET" "version"
  | listEndpoints : Stands .listEndpoints "GET" "endpoints"
  | createEndpoint {host : Text} (one : '/' ∉ host) :
      Stands (.createEndpoint (decodeSegment host)) "POST" ("endpoints/" ++ host)
  | deleteEndpoint {host : Text} (one : '/' ∉ host) :
      Stands (.deleteEndpoint (decodeSegment host)) "DELETE" ("endpoints/" ++ host)
  | attachProxy {host port : Text} (one : '/' ∉ host) (other : '/' ∉ port) :
      Stands (.attachProxy (decodeSegment host) (decodeSegment port)) "POST"
        ("endpoints/" ++ host ++ "/proxies/" ++ port)

theorem split_two {host : Text} (one : '/' ∉ host) : Text.split '/' ("endpoints/" ++ host) = ["endpoints".toList, host] := by
  have hfront : '/' ∉ "endpoints".toList := by decide
  calc Text.split '/' ("endpoints/" ++ host)
      = Text.split '/' ("endpoints".toList ++ '/' :: host) := rfl
    _ = "endpoints".toList :: Text.split '/' host := Text.split_append hfront host
    _ = ["endpoints".toList, host] := by rw [Text.split_of_not_mem one]

theorem split_four {host port : Text} (one : '/' ∉ host) (other : '/' ∉ port) :
    Text.split '/' ("endpoints/" ++ host ++ "/proxies/" ++ port) =
      ["endpoints".toList, host, "proxies".toList, port] := by
  have hproxies : '/' ∉ "proxies".toList := by decide
  have hendpoints : '/' ∉ "endpoints".toList := by decide
  have hpath : "endpoints/".toList ++ host ++ "/proxies/".toList ++ port =
      "endpoints".toList ++ '/' :: (host ++ '/' :: ("proxies".toList ++ '/' :: port)) := by simp
  rw [hpath, Text.split_append hendpoints, Text.split_append one, Text.split_append hproxies,
    Text.split_of_not_mem other]

/-- What is found under the segments of a path has these segments. -/
theorem stands_of_split {pieces : List Text} (hsplit : Text.split '/' t = pieces)
    (h : Resource.ofSegments method pieces ≠ .notFound) : Stands (Resource.ofSegments method pieces) method t := by
  have hne : pieces ≠ [] := hsplit ▸ Text.split_ne_nil '/' t
  obtain ⟨hwhole, rfl⟩ := (Text.split_eq_iff hne).mp hsplit
  unfold Resource.ofSegments at h ⊢
  split at h
  · split_ifs at h ⊢ with hhealth hversion hlist
    · obtain ⟨rfl, rfl⟩ := hhealth
      exact .health
    · obtain ⟨rfl, rfl⟩ := hversion
      exact .version
    · obtain ⟨rfl, rfl⟩ := hlist
      exact .listEndpoints
    · exact absurd rfl h
  · rename_i one host
    have hhost : '/' ∉ host := hwhole host (by simp)
    split_ifs at h ⊢ with hcreate hdelete
    · obtain ⟨rfl, rfl⟩ := hcreate
      exact .createEndpoint hhost
    · obtain ⟨rfl, rfl⟩ := hdelete
      exact .deleteEndpoint hhost
    · exact absurd rfl h
  · rename_i one host three port
    have hhost : '/' ∉ host := hwhole host (by simp)
    have hport : '/' ∉ port := hwhole port (by simp)
    split_ifs at h ⊢ with hattach
    · obtain ⟨rfl, rfl, rfl⟩ := hattach
      have hpath : Text.join ['/'] ["endpoints".toList, host, "proxies".toList, port] =
          "endpoints/" ++ host ++ "/proxies/" ++ port := by simp [Text.join]
      rw [hpath]
      exact .attachProxy hhost hport
    · exact absurd rfl h
  · exact absurd rfl h

theorem of_eq_iff (hne : resource ≠ .notFound) :
    Resource.of method path = resource ↔ Stands resource method (Text.trimBoth (· == '/') path) := by
  rw [Resource.of, segments]
  constructor
  · rintro rfl
    exact stands_of_split rfl hne
  · intro h
    generalize Text.trimBoth (· == '/') path = t at h
    cases h with
    | health => rfl
    | version => rfl
    | listEndpoints => rfl
    | createEndpoint one =>
      rw [split_two one]
      rfl
    | deleteEndpoint one =>
      rw [split_two one]
      rfl
    | attachProxy one other =>
      rw [split_four one other]
      rfl

/-- Under a path that is trimmed of its slashes a resource is found. -/
theorem of_of_stands {trimmed : Text} (h : Stands resource method trimmed) (hne : resource ≠ .notFound)
    (htrim : Text.trimBoth (· == '/') path = trimmed) : Resource.of method path = resource :=
  (of_eq_iff hne).mpr (htrim ▸ h)

/-- Every text can be written as a segment. Whatever way it is written in, a host that is not empty, and a port, are found
under the paths of their resources, for creating, deleting and attaching, as the very texts that they are. And under
whatever method and path anything is found, the path without the slashes around it has the segments of that resource and
no others, those with a meaning of their own as they are. -/
theorem of_exact :
    (∀ t, IsSegment (Text.escape t) t) ∧
    (∀ host port codedHost codedPort : Text, host ≠ [] → port ≠ [] →
      IsSegment codedHost host → IsSegment codedPort port →
      Resource.of "POST" ("/endpoints/" ++ codedHost) = .createEndpoint host ∧
      Resource.of "DELETE" ("/endpoints/" ++ codedHost) = .deleteEndpoint host ∧
      Resource.of "POST" ("/endpoints/" ++ codedHost ++ "/proxies/" ++ codedPort) = .attachProxy host port) ∧
    ∀ (method path : Text) (resource : Resource), resource ≠ .notFound →
      (Resource.of method path = resource ↔ Stands resource method (Text.trimBoth (· == '/') path)) := by
  refine ⟨isSegment_escape, ?_, fun method path resource hne => of_eq_iff hne⟩
  intro host port codedHost codedPort hhost hport codesHost codesPort
  have hendsHost : codedHost ≠ [] := Text.Codes.ne_nil codesHost hhost
  have hendsPort : codedPort ≠ [] := Text.Codes.ne_nil codesPort hport
  have htrimHost : Text.trimBoth (· == '/') ("/endpoints/" ++ codedHost) = "endpoints/" ++ codedHost :=
    trimBoth_path (by decide) "ndpoints/" hendsHost codesHost.not_mem
  have htrimPort : Text.trimBoth (· == '/') ("/endpoints/" ++ codedHost ++ "/proxies/" ++ codedPort) =
      "endpoints/" ++ codedHost ++ "/proxies/" ++ codedPort :=
    trimBoth_path (by decide) ("ndpoints/" ++ codedHost ++ "/proxies/") hendsPort codesPort.not_mem
  have hcreate := of_of_stands (.createEndpoint codesHost.not_mem) (by simp) htrimHost
  have hdelete := of_of_stands (.deleteEndpoint codesHost.not_mem) (by simp) htrimHost
  have hattach := of_of_stands (.attachProxy codesHost.not_mem codesPort.not_mem) (by simp) htrimPort
  rw [codesHost.decodeSegment] at hcreate hdelete hattach
  rw [codesPort.decodeSegment] at hattach
  exact ⟨hcreate, hdelete, hattach⟩

/-- A host that looks like the path of a port is a host where it is one segment; with a slash of its own it is not. -/
theorem slashedHost_found :
    Text.escape "a%/proxies/80" = "a%25%2Fproxies%2F80".toList ∧
      Resource.of "POST" "/endpoints/a%25%2Fproxies%2F80" = .createEndpoint "a%/proxies/80" ∧
      Resource.of "POST" "/endpoints/a%25%2Fproxies%2F80/proxies/proxies" = .attachProxy "a%/proxies/80" "proxies" ∧
      Resource.of "POST" "//endpoints/a/proxies/80/" = .attachProxy "a" "80" := by
  obtain ⟨hcodes, hfound, hexact⟩ := of_exact
  have hhost : Text.escape "a%/proxies/80" = "a%25%2Fproxies%2F80".toList := by rfl
  have hport : Text.escape "proxies" = "proxies".toList := by rfl
  obtain ⟨hcreate, -, hattach⟩ := hfound "a%/proxies/80" "proxies" _ _ (by decide) (by decide) (hcodes _) (hcodes _)
  rw [hhost] at hcreate hattach
  rw [hport] at hattach
  have hfirst : IsSegment "a" "a" := hcodes "a"
  have hsecond : IsSegment "80" "80" := hcodes "80"
  have hstands := Stands.attachProxy hfirst.not_mem hsecond.not_mem
  rw [hfirst.decodeSegment, hsecond.decodeSegment] at hstands
  exact ⟨hhost, hcreate, hattach, (hexact "POST" "//endpoints/a/proxies/80/" _ (by decide)).mpr hstands⟩

end Gatehouse.Control
