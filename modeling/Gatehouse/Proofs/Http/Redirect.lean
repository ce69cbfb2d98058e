import Gatehouse.Http.Redirect
import Gatehouse.Proofs.Except
import Gatehouse.Proofs.Http.Uri
import Gatehouse.Proofs.Text

/-!
Where redirects lead. Main statements: `location_substitutes`, by which the path of a request takes the place of the
asterisks of the target, in one pass, exactly if that leaves no asterisk of its own to be replaced once more; and
`location_authority`, by which a location has the authority that the target asks for, exactly if its path does not begin
with the asterisk of a request for the server as a whole.
-/

namespace Gatehouse.Http.Redirect

variable {target scheme host requestPath path l t text : Text} {requestHost port query : Option Text}

/-! ## Substitution -/

/-- One pass over a path: an asterisk behind a slash gives way to `rooted`, together with the slash, and any other to
`bare`. What is put in is not looked at again. -/
def substitute (rooted bare : Text) : Text → Text
  | '/' :: '*' :: rest => rooted ++ substitute rooted bare rest
  | '*' :: rest => bare ++ substitute rooted bare rest
  | c :: rest => c :: substitute rooted bare rest
  | [] => []

theorem substitute_rooted (rooted bare rest : Text) :
    substitute rooted bare ('/' :: '*' :: rest) = rooted ++ substitute rooted bare rest := by
  rw [substitute]

theorem substitute_star (rooted bare rest : Text) :
    substitute rooted bare ('*' :: rest) = bare ++ substitute rooted bare rest := by
  rw [substitute]

theorem substitute_other {c : Char} (hrooted : ∀ later, c = '/' → t = '*' :: later → False) (hstar : c ≠ '*')
    (rooted bare : Text) : substitute rooted bare (c :: t) = c :: substitute rooted bare t := by
  rw [substitute]
  · exact hrooted
  · exact hstar

/-! ## Locations and their parts -/

/-- A port behind a host, with its colon. -/
def portText (port : Option Text) : Text :=
  match port with
  | some port => ":" ++ port
  | none => []

/-- A query behind a path, with its question mark; an empty query counts as none. -/
def queryText (query : Option Text) : Text :=
  match query with
  | some (c :: rest) => "?" ++ (c :: rest)
  | _ => []

/-- A location of these parts. -/
def assemble (scheme host : Text) (port : Option Text) (path : Text) (query : Option Text) : Text :=
  scheme ++ "://" ++ host ++ portText port ++ path ++ queryText query

/-- The path that a request asks for: that of the root, where its own is empty. -/
def askedPath (requestPath : Text) : Text := if requestPath = [] then "/" else requestPath

/-- The path without the slashes at its front. -/
def barePath (requestPath : Text) : Text := Text.trimFront (· == '/') (askedPath requestPath)

theorem newPath_eq (path requestPath : Text) :
    newPath path requestPath =
      if path = [] then askedPath requestPath
      else fillStars (barePath requestPath) (fillRooted (askedPath requestPath) path) := rfl

/-- A target that leads somewhere sends a request on wherever there is a host for it. -/
theorem location_of_read {pattern : Pattern} (read : Pattern.read? target = some pattern) :
    location target requestHost requestPath query =
      (hostFor (splitAuthority pattern.authority).1 requestHost).map fun name =>
        assemble pattern.scheme name (splitAuthority pattern.authority).2 (newPath pattern.path requestPath) query := by
  unfold location
  rw [read]
  cases h : hostFor (splitAuthority pattern.authority).1 requestHost with
  | error f =>
    simp only [h]
    rfl
  | ok name =>
    simp only [h]
    rfl

theorem location_eq_ok_iff :
    location target requestHost requestPath query = .ok l ↔
      ∃ pattern name, Pattern.read? target = some pattern ∧
        hostFor (splitAuthority pattern.authority).1 requestHost = .ok name ∧
        l = assemble pattern.scheme name (splitAuthority pattern.authority).2 (newPath pattern.path requestPath) query := by
  cases read : Pattern.read? target with
  | none => simp [location, read]
  | some pattern =>
    rw [location_of_read read]
    refine ⟨?_, ?_⟩
    · intro h
      obtain ⟨name, hname, hl⟩ := map_eq_ok h
      exact ⟨pattern, name, rfl, hname, hl.symm⟩
    · rintro ⟨pattern', name, hpattern, hname, rfl⟩
      obtain rfl := Option.some.inj hpattern
      rw [hname]
      rfl

theorem hostFor_cases (targetHost : Text) (requestHost : Option Text) :
    (∃ name, hostFor targetHost requestHost = .ok name) ∨
      hostFor targetHost requestHost = .error (.invalidHost "request has no host") := by
  rw [hostFor]
  split
  · split
    · exact .inr rfl
    · exact .inr rfl
    · exact .inl ⟨_, rfl⟩
  · exact .inl ⟨_, rfl⟩

/-! ## One replacement after the other -/

theorem fillStars_append (text first later : Text) :
    fillStars text (first ++ later) = fillStars text first ++ fillStars text later :=
  List.flatMap_append

theorem fillStars_star (text rest : Text) : fillStars text ('*' :: rest) = text ++ fillStars text rest := rfl

theorem fillStars_other {c : Char} (hc : c ≠ '*') (text rest : Text) :
    fillStars text (c :: rest) = c :: fillStars text rest := by
  simp [fillStars, hc]

/-- Of two replacements, one after the other, the second also goes through what the first has put in. -/
theorem fillStars_fillRooted (bare rooted path : Text) :
    fillStars bare (fillRooted rooted path) = substitute (fillStars bare rooted) bare path := by
  fun_induction substitute (fillStars bare rooted) bare path with
  | case1 rest ih => rw [fillRooted, fillStars_append, ih]
  | case2 rest ih =>
    rw [fillRooted_other (fun _ heq => by cases heq), fillStars_star, ih]
  | case3 c rest hrooted hstar ih => rw [fillRooted_other hrooted, fillStars_other hstar, ih]
  | case4 => rfl

/-- The path of a location: what is put in for an asterisk behind a slash is searched for asterisks again. -/
theorem newPath_eq_substitute (hne : path ≠ []) (requestPath : Text) :
    newPath path requestPath =
      substitute (fillStars (barePath requestPath) (askedPath requestPath)) (barePath requestPath) path := by
  rw [newPath_eq, if_neg hne, fillStars_fillRooted]

/-! ## What is put in twice -/

theorem fillStars_of_not_mem (h : '*' ∉ t) : fillStars text t = t := by
  induction t with
  | nil => rfl
  | cons c rest ih =>
    have hc : c ≠ '*' := fun heq => h (heq ▸ List.mem_cons_self)
    rw [fillStars_other hc, ih fun hm => h (List.mem_cons_of_mem _ hm)]

theorem fillStars_single (t : Text) : fillStars ['*'] t = t := by
  induction t with
  | nil => rfl
  | cons c rest ih =>
    by_cases hc : c = '*'
    · subst hc
      rw [fillStars_star, ih]
      rfl
    · rw [fillStars_other hc, ih]

theorem length_le_fillStars (hne : text ≠ []) (t : Text) : t.length ≤ (fillStars text t).length := by
  have hpos := List.length_pos_iff.mpr hne
  induction t with
  | nil => exact Nat.le_refl _
  | cons c rest ih =>
    by_cases hc : c = '*'
    · subst hc
      rw [fillStars_star, List.length_append, List.length_cons]
      omega
    · rw [fillStars_other hc, List.length_cons, List.length_cons]
      omega

/-- More than one character in the place of an asterisk makes a text longer. -/
theorem length_lt_fillStars (hlong : 1 < text.length) (hm : '*' ∈ t) : t.length < (fillStars text t).length := by
  obtain ⟨front, rest, rfl⟩ := List.append_of_mem hm
  have hne : text ≠ [] := List.length_pos_iff.mp (by omega)
  have hfront := length_le_fillStars hne front
  have hrest := length_le_fillStars hne rest
  rw [fillStars_append, fillStars_star]
  simp only [List.length_append, List.length_cons]
  omega

theorem askedPath_of_mem {c : Char} (hm : c ∈ requestPath) : askedPath requestPath = requestPath :=
  if_neg (List.ne_nil_of_mem hm)

/-- An asterisk of a request stays when the slashes at the front of its path go. -/
theorem star_mem_barePath (hm : '*' ∈ requestPath) : '*' ∈ barePath requestPath := by
  rw [barePath, askedPath_of_mem hm]
  have hsplit := List.takeWhile_append_dropWhile (p := (· == '/')) (l := requestPath)
  rw [← hsplit, List.mem_append] at hm
  refine hm.resolve_left fun hfront => ?_
  have hslash := List.mem_takeWhile_imp hfront
  cases hslash

/-- The path of a request is as it was after a second replacement if it has no asterisk, or is one. -/
theorem fillStars_askedPath (h : '*' ∉ requestPath ∨ barePath requestPath = ['*']) :
    fillStars (barePath requestPath) (askedPath requestPath) = askedPath requestPath := by
  rcases h with hplain | hbare
  · refine fillStars_of_not_mem ?_
    rw [askedPath]
    split
    · decide
    · exact hplain
  · rw [hbare, fillStars_single]

theorem length_askedPath_lt (h : ¬ ('*' ∉ requestPath ∨ barePath requestPath = ['*'])) :
    (askedPath requestPath).length < (fillStars (barePath requestPath) (askedPath requestPath)).length := by
  rw [not_or, not_not] at h
  obtain ⟨hm, hne⟩ := h
  have hbare := star_mem_barePath hm
  refine length_lt_fillStars ?_ ((askedPath_of_mem hm).symm ▸ hm)
  by_contra hshort
  -- a text of one character that holds an asterisk is an asterisk
  obtain ⟨c, hc⟩ := List.length_eq_one_iff.mp (Nat.le_antisymm (Nat.le_of_not_lt hshort) (List.length_pos_of_mem hbare))
  rw [hc] at hbare hne
  exact hne (by rw [List.mem_singleton.mp hbare])

/-! ## Paths with and without rooted asterisks -/

/-- A path may be taken apart in front of a slash. -/
theorem substitute_append (rooted bare front rest : Text) :
    substitute rooted bare (front ++ '/' :: rest) =
      substitute rooted bare front ++ substitute rooted bare ('/' :: rest) := by
  fun_induction substitute rooted bare front with
  | case1 later ih => rw [List.cons_append, List.cons_append, substitute_rooted, ih, List.append_assoc]
  | case2 later ih => rw [List.cons_append, substitute_star, ih, List.append_assoc]
  | case3 c later hrooted hstar ih =>
    have hrooted' : ∀ later', c = '/' → later ++ '/' :: rest = '*' :: later' → False := by
      intro later' hc heq
      cases later with
      | nil => cases heq
      | cons d later =>
        obtain ⟨rfl, -⟩ := List.cons_eq_cons.mp heq
        exact hrooted later hc rfl
    rw [List.cons_append, substitute_other hrooted' hstar, ih, List.cons_append]
  | case4 => rfl

/-- Where no asterisk stands behind a slash, what would be put in for one does not matter. -/
theorem substitute_of_not_infix (h : ¬ ['/', '*'] <:+: t) (rooted rooted' bare : Text) :
    substitute rooted bare t = substitute rooted' bare t := by
  fun_induction substitute rooted bare t with
  | case1 rest ih => exact absurd ⟨[], rest, rfl⟩ h
  | case2 rest ih => rw [substitute_star, ih fun hin => h (hin.trans (List.suffix_cons _ _).isInfix)]
  | case3 c rest hrooted hstar ih =>
    rw [substitute_other hrooted hstar, ih fun hin => h (hin.trans (List.suffix_cons _ _).isInfix)]
  | case4 => rfl

theorem length_substitute_le {rooted rooted' : Text} (hle : rooted'.length ≤ rooted.length) (bare t : Text) :
    (substitute rooted' bare t).length ≤ (substitute rooted bare t).length := by
  fun_induction substitute rooted bare t with
  | case1 rest ih =>
    rw [substitute_rooted, List.length_append, List.length_append]
    omega
  | case2 rest ih =>
    rw [substitute_star, List.length_append, List.length_append]
    omega
  | case3 c rest hrooted hstar ih =>
    rw [substitute_other hrooted hstar, List.length_cons, List.length_cons]
    omega
  | case4 => exact Nat.le_refl _

/-- Where an asterisk stands behind a slash, more is put in for it if what is put in is longer. -/
theorem length_substitute_lt {rooted rooted' : Text} (hlt : rooted'.length < rooted.length) (bare : Text)
    (hin : ['/', '*'] <:+: t) : (substitute rooted' bare t).length < (substitute rooted bare t).length := by
  obtain ⟨front, rest, rfl⟩ := hin
  have hfront := length_substitute_le (Nat.le_of_lt hlt) bare front
  have hrest := length_substitute_le (Nat.le_of_lt hlt) bare rest
  rw [List.append_assoc, List.cons_append, List.cons_append, List.nil_append, substitute_append, substitute_append,
    substitute_rooted, substitute_rooted]
  simp only [List.length_append]
  omega

/-- The path of a location is the one substitution exactly if nothing that is put in behind a slash holds an asterisk,
other than a request for an asterisk alone. -/
theorem newPath_eq_iff (hne : path ≠ []) :
    newPath path requestPath = substitute (askedPath requestPath) (barePath requestPath) path ↔
      '*' ∉ requestPath ∨ barePath requestPath = ['*'] ∨ ¬ ['/', '*'] <:+: path := by
  rw [newPath_eq_substitute hne, ← or_assoc]
  by_cases hsame : '*' ∉ requestPath ∨ barePath requestPath = ['*']
  · exact iff_of_true (by rw [fillStars_askedPath hsame]) (.inl hsame)
  · rw [or_iff_right hsame]
    refine ⟨?_, fun hin => substitute_of_not_infix hin _ _ _⟩
    intro heq hin
    have hlonger := length_substitute_lt (length_askedPath_lt hsame) (barePath requestPath) hin
    rw [heq] at hlonger
    exact Nat.lt_irrefl _ hlonger

/-- Locations that differ in their paths alone differ. -/
theorem assemble_inj {path' : Text} :
    assemble scheme host port path query = assemble scheme host port path' query ↔ path = path' := by
  rw [assemble, assemble, List.append_left_inj, List.append_right_inj]

/-- The location that a request is sent to, if the path of the target has an asterisk: it has the scheme, the host and
the port that it is to have, and the query of the request; for its path, what stands for the asterisks behind slashes is
searched for asterisks again. That comes to one substitution in which every asterisk behind a slash gives way, with the
slash, to the path of the request, and every other to this path without the slashes at its front, exactly if the path of
the request has no asterisk, or is nothing else but for slashes in front, or no asterisk of the target stands behind a
slash. -/
theorem location_substitutes {pattern : Pattern} (read : Pattern.read? target = some pattern) (star : '*' ∈ pattern.path)
    (h : location target requestHost requestPath query = .ok l) :
    ∃ name, hostFor (splitAuthority pattern.authority).1 requestHost = .ok name ∧
      let within (path : Text) := assemble pattern.scheme name (splitAuthority pattern.authority).2 path query
      let asked := askedPath requestPath
      let bare := barePath requestPath
      l = within (substitute (fillStars bare asked) bare pattern.path) ∧
      (l = within (substitute asked bare pattern.path) ↔
        '*' ∉ requestPath ∨ bare = ['*'] ∨ ¬ ['/', '*'] <:+: pattern.path) := by
  obtain ⟨pattern', name, read', hname, rfl⟩ := location_eq_ok_iff.mp h
  obtain rfl : pattern = pattern' := Option.some.inj (read.symm.trans read')
  have hne : pattern.path ≠ [] := List.ne_nil_of_mem star
  refine ⟨name, hname, ?_, ?_⟩
  · rw [newPath_eq_substitute hne]
  · rw [assemble_inj]
    exact newPath_eq_iff hne

theorem login_substituted :
    Pattern.read? "https://example.org/app/*" = some ⟨"https", "example.org", "/app/*"⟩ ∧
      '*' ∈ ("/app/*" : Text) ∧
      location "https://example.org/app/*" none "/login" (some "next=1") =
        .ok "https://example.org/app/login?next=1" ∧
      ("https://example.org/app/login?next=1" : Text) =
        assemble "https" "example.org" none (substitute "/login" "login" "/app/*") (some "next=1") := by
  have read : Pattern.read? "https://example.org/app/*" = some ⟨"https", "example.org", "/app/*"⟩ := by decide +kernel
  have star : '*' ∈ ("/app/*" : Text) := by decide
  have sent : location "https://example.org/app/*" none "/login" (some "next=1") =
      .ok "https://example.org/app/login?next=1" := by decide +kernel
  obtain ⟨name, hname, -, hone⟩ := location_substitutes read star sent
  obtain rfl : "example.org".toList = name := Except.ok.inj hname
  exact ⟨read, star, sent, hone.mpr (.inl (by decide))⟩

/-- An asterisk in the path of a request gives way to this path once more. -/
theorem starredPath_again :
    location "https://example.org/*" none "/a*b" none = .ok "https://example.org/aa*bb" ∧
      assemble "https" "example.org" none (substitute "/a*b" "a*b" "/*") none = "https://example.org/a*b".toList := by
  decide +kernel

/-! ## Authorities -/

/-- A host as it stands in an authority: an address in brackets, or a name without colons. It may be empty. -/
def IsHost (host : Text) : Prop :=
  (∃ inner, ']' ∉ inner ∧ host = '[' :: (inner ++ "]")) ∨ (host.head? ≠ some '[' ∧ ':' ∉ host)

/-- The parts of an authority: a host and, behind a colon, a port. -/
structure IsAuthority (host : Text) (port : Option Text) : Prop where
  host : IsHost host
  port : ∀ digits ∈ port, ':' ∉ digits

/-- The port that an authority gives; an empty one counts as none. -/
def givenPort (port : Option Text) : Option Text := if port = some [] then none else port

theorem givenPort_some (digits : Text) : givenPort (some digits) = if digits = [] then none else some digits := by
  simp only [givenPort, Option.some.injEq]

/-- An authority is taken apart in front of its port. -/
theorem splitAuthority_eq (h : IsAuthority host port) :
    splitAuthority (host ++ portText port) = (host, givenPort port) := by
  rcases h.host with ⟨inner, hinner, rfl⟩ | ⟨hhead, hcolon⟩
  · have hfront : ']' ∉ '[' :: inner := by simp [hinner]
    have hparts : '[' :: (inner ++ "]") ++ portText port = ('[' :: inner) ++ ']' :: portText port := by simp
    have hhead : (('[' :: inner) ++ ']' :: portText port).head? = some '[' := rfl
    rw [hparts, splitAuthority, if_pos hhead, Text.cutFirst_append hfront]
    cases port with
    | none => rfl
    | some digits => exact Prod.ext rfl (givenPort_some digits).symm
  · cases port with
    | none =>
      rw [portText, List.append_nil, splitAuthority, if_neg hhead, Text.cutLast_of_not_mem hcolon]
      rfl
    | some digits =>
      have hhead' : (host ++ ':' :: digits).head? ≠ some '[' := by
        cases host with
        | nil => simp
        | cons c rest => exact hhead
      have hparts : host ++ portText (some digits) = host ++ ':' :: digits := rfl
      rw [hparts, splitAuthority, if_neg hhead', Text.cutLast_append (h.port digits rfl)]
      exact Prod.ext rfl (givenPort_some digits).symm

/-- A target of these parts: a scheme, an authority, and a path that begins with a slash, if there is one. Nothing in the
authority ends one. -/
structure IsTarget (target scheme host : Text) (port : Option Text) (path : Text) : Prop where
  parts : target = scheme ++ "://" ++ (host ++ portText port ++ path)
  scheme_ne : scheme ≠ []
  scheme : ':' ∉ scheme
  authority : IsAuthority host port
  within : ∀ c ∈ host ++ portText port, Uri.endsAuthority c = false
  path : path = [] ∨ path.head? = some '/'

theorem cutAround_scheme (h : ':' ∉ scheme) (rest : Text) :
    Text.cutAround "://" (scheme ++ "://" ++ rest) = some (scheme, rest) :=
  Text.cutAround_append h ['/', '/'] rest

theorem IsTarget.read (h : IsTarget target scheme host port path) :
    Pattern.read? target = some ⟨scheme, host ++ portText port, path⟩ := by
  have hkeep : ∀ c ∈ host ++ portText port, (c != '/') = true := by
    intro c hm
    have hgoes := h.within c hm
    simp only [Uri.endsAuthority, Bool.or_eq_false_iff, beq_eq_false_iff_ne] at hgoes
    exact bne_iff_ne.mpr hgoes.1.1
  have hpath : path.takeWhile (· != '/') = [] ∧ path.dropWhile (· != '/') = path := by
    cases path with
    | nil => exact ⟨rfl, rfl⟩
    | cons c rest =>
      obtain rfl : c = '/' := Option.some.inj (h.path.resolve_left (List.cons_ne_nil _ _))
      exact ⟨rfl, rfl⟩
  rw [h.parts, Pattern.read?, cutAround_scheme h.scheme]
  simp only [Option.bind_eq_bind, Option.bind_some, if_neg h.scheme_ne]
  rw [List.takeWhile_append_of_pos hkeep, List.dropWhile_append_of_pos hkeep, hpath.1, hpath.2, List.append_nil]

/-- The host that a location is to have: that of the target or, if this is empty, that of the request without its port. -/
def IsHostFor (host : Text) (requestHost : Option Text) (name : Text) : Prop :=
  (host ≠ [] → name = host) ∧
  (host = [] → name ≠ [] ∧ ∃ given, requestHost = some given ∧ name = (splitAuthority given).1 ∧
    ∀ host' port', IsAuthority host' port' → given = host' ++ portText port' → name = host')

theorem hostFor_isHostFor {name : Text} (h : hostFor host requestHost = .ok name) : IsHostFor host requestHost name := by
  unfold hostFor at h
  by_cases hempty : host = []
  · rw [if_pos hempty] at h
    cases hgiven : requestHost with
    | none => simp [hgiven] at h
    | some given =>
      rw [hgiven, Option.map_some] at h
      cases hname : (splitAuthority given).1 with
      | nil => simp [hname] at h
      | cons c rest =>
        simp only [hname] at h
        obtain rfl := Except.ok.inj h
        refine ⟨fun hne => absurd hempty hne, fun _ => ⟨List.cons_ne_nil _ _, given, rfl, hname.symm, ?_⟩⟩
        rintro host' port' hform rfl
        rw [← hname, splitAuthority_eq hform]
  · rw [if_neg hempty] at h
    obtain rfl := Except.ok.inj h
    exact ⟨fun _ => rfl, fun hnil => absurd hnil hempty⟩

/-- Nothing in the authority of a location ends one, if that is so of a host that the request gives. -/
theorem IsTarget.within_of_isHostFor (h : IsTarget target scheme host port path) {name : Text}
    (hname : IsHostFor host requestHost name) (hwithin : host = [] → ∀ c ∈ name, Uri.endsAuthority c = false) :
    ∀ c ∈ name ++ portText (givenPort port), Uri.endsAuthority c = false := by
  intro c hm
  rcases List.mem_append.mp hm with hm | hm
  · by_cases hempty : host = []
    · exact hwithin hempty c hm
    · rw [hname.1 hempty] at hm
      exact h.within c (List.mem_append_left _ hm)
  · refine h.within c (List.mem_append_right _ ?_)
    rw [givenPort] at hm
    split at hm
    · cases hm
    · exact hm

/-! ## Where the path of a location begins -/

/-- Whether the path of a location begins with the asterisk of a request for the server as a whole. -/
def Strays (path requestPath : Text) : Prop := requestPath = ['*'] ∧ (path = [] ∨ ['/', '*'] <+: path)

/-- What a request path may be: empty, an asterisk, or a path that begins with a slash. -/
def IsCarried (requestPath : Text) : Prop :=
  requestPath = [] ∨ requestPath = ['*'] ∨ requestPath.head? = some '/'

theorem askedPath_of_carried (carried : IsCarried requestPath) (h : requestPath ≠ ['*']) :
    ∃ rest, askedPath requestPath = '/' :: rest := by
  rcases carried with rfl | heq | hhead
  · exact ⟨[], rfl⟩
  · exact absurd heq h
  · obtain ⟨rest, rfl⟩ := List.head?_eq_some_iff.mp hhead
    exact ⟨rest, askedPath_of_mem List.mem_cons_self⟩

theorem newPath_of_strays (h : Strays path requestPath) : ∃ rest, newPath path requestPath = '*' :: rest := by
  obtain ⟨rfl, rfl | ⟨rest, rfl⟩⟩ := h
  · exact ⟨[], rfl⟩
  · refine ⟨substitute "*" "*" rest, ?_⟩
    rw [newPath_eq_substitute (by simp)]
    exact substitute_rooted _ _ _

/-- In every other case the path begins with a slash: with that of the target, or with that of the request in its
place. -/
theorem newPath_of_not_strays (carried : IsCarried requestPath) (hpath : path = [] ∨ path.head? = some '/')
    (h : ¬ Strays path requestPath) : ∃ rest, newPath path requestPath = '/' :: rest := by
  rcases hpath with rfl | hhead
  · exact askedPath_of_carried carried fun hstar => h ⟨hstar, .inl rfl⟩
  · obtain ⟨later, rfl⟩ := List.head?_eq_some_iff.mp hhead
    rw [newPath_eq_substitute (List.cons_ne_nil _ _)]
    by_cases hrooted : later.head? = some '*'
    · obtain ⟨later, rfl⟩ := List.head?_eq_some_iff.mp hrooted
      obtain ⟨rest, hrest⟩ := askedPath_of_carried carried fun hstar => h ⟨hstar, .inr ⟨later, rfl⟩⟩
      rw [substitute_rooted, hrest, fillStars_other (by decide)]
      exact ⟨_, rfl⟩
    · have hplain : ∀ rest, '/' = '/' → later = '*' :: rest → False := fun _ _ heq => hrooted (by rw [heq]; rfl)
      rw [substitute_other hplain (by decide)]
      exact ⟨_, rfl⟩

theorem head?_newPath_iff (carried : IsCarried requestPath) (hpath : path = [] ∨ path.head? = some '/') :
    (newPath path requestPath).head? = some '/' ↔ ¬ Strays path requestPath := by
  refine ⟨?_, ?_⟩
  · intro hhead hstrays
    obtain ⟨rest, hrest⟩ := newPath_of_strays hstrays
    rw [hrest] at hhead
    cases hhead
  · intro h
    obtain ⟨rest, hrest⟩ := newPath_of_not_strays carried hpath h
    rw [hrest]
    rfl

/-! ## Authorities of locations -/

/-- The authority that a location has for its reader: what stands behind the scheme, up to a slash, a question mark or a
number sign. -/
def authorityOf? (l : Text) : Option Text :=
  (Text.cutAround "://" l).map fun parts => parts.2.takeWhile (!Uri.endsAuthority ·)

theorem authorityOf?_assemble (h : ':' ∉ scheme) (host : Text) (port : Option Text) (path : Text)
    (query : Option Text) :
    authorityOf? (assemble scheme host port path query) =
      some ((host ++ portText port ++ (path ++ queryText query)).takeWhile (!Uri.endsAuthority ·)) := by
  have hparts : assemble scheme host port path query =
      scheme ++ "://" ++ (host ++ portText port ++ (path ++ queryText query)) := by
    simp only [assemble, List.append_assoc]
  rw [hparts, authorityOf?, cutAround_scheme h]
  rfl

/-- A reader finds nothing behind the authority in it if a slash follows. -/
theorem takeWhile_prefix_of_slash (authority rest : Text) :
    (authority ++ '/' :: rest).takeWhile (!Uri.endsAuthority ·) <+: authority := by
  rw [List.takeWhile_append]
  split
  · rw [List.takeWhile_cons_of_neg (by decide), List.append_nil]
  · exact List.takeWhile_prefix _

/-- A reader takes an asterisk behind the authority for a part of it. -/
theorem takeWhile_star_ne {authority : Text} (hauthority : ∀ c ∈ authority, Uri.endsAuthority c = false) (rest : Text) :
    (authority ++ '*' :: rest).takeWhile (!Uri.endsAuthority ·) ≠ authority := by
  rw [(Uri.takeWhile_append_within hauthority _).1, List.takeWhile_cons_of_pos (by decide)]
  exact fun heq => List.cons_ne_nil _ _ (List.append_right_eq_self.mp heq)

/-- The location that a request is sent to has the scheme of the target; the host of the target or, if this is empty,
that of the request without its port; the port of the target, if there is one; a path; and the query of the request, if
there is one that is not empty. The path begins with a slash, so that nothing of the path and the query of the request
becomes a part of the authority, exactly if the request is not one for an asterisk to a target without a path or with
one that begins in an asterisk behind a slash. -/
theorem location_authority (form : IsTarget target scheme host port path) (carried : IsCarried requestPath)
    (h : location target requestHost requestPath query = .ok l) :
    ∃ name, IsHostFor host requestHost name ∧
      let authority := name ++ portText (givenPort port)
      l = assemble scheme name (givenPort port) (newPath path requestPath) query ∧
      ((newPath path requestPath).head? = some '/' ↔ ¬ Strays path requestPath) ∧
      (¬ Strays path requestPath → ∃ seen, authorityOf? l = some seen ∧ seen <+: authority) ∧
      ((host = [] → ∀ c ∈ name, Uri.endsAuthority c = false) →
        (authorityOf? l = some authority ↔ ¬ Strays path requestPath)) := by
  obtain ⟨pattern, name, read, hname, rfl⟩ := location_eq_ok_iff.mp h
  obtain rfl := Option.some.inj (form.read.symm.trans read)
  simp only [splitAuthority_eq form.authority] at hname ⊢
  have hseen := authorityOf?_assemble form.scheme name (givenPort port) (newPath path requestPath) query
  refine ⟨name, hostFor_isHostFor hname, rfl, head?_newPath_iff carried form.path, ?_, ?_⟩
  · intro hstays
    obtain ⟨rest, hrest⟩ := newPath_of_not_strays carried form.path hstays
    rw [hrest] at hseen ⊢
    exact ⟨_, hseen, takeWhile_prefix_of_slash _ _⟩
  · intro hwithin
    have hauthority := form.within_of_isHostFor (hostFor_isHostFor hname) hwithin
    rw [hseen, Option.some.injEq]
    by_cases hstrays : Strays path requestPath
    · obtain ⟨rest, hrest⟩ := newPath_of_strays hstrays
      rw [hrest]
      exact iff_of_false (takeWhile_star_ne hauthority _) (not_not_intro hstrays)
    · obtain ⟨rest, hrest⟩ := newPath_of_not_strays carried form.path hstrays
      rw [hrest]
      exact iff_of_true (Uri.takeWhile_append_path hauthority rfl).1 hstrays

theorem web_authority :
    IsTarget "https://:8443/*" "https" [] (some "8443") "/*" ∧ IsCarried "/x" ∧
      location "https://:8443/*" (some "web.test:80") "/x" (some "q=2") = .ok "https://web.test:8443/x?q=2" ∧
      authorityOf? "https://web.test:8443/x?q=2" = some ("web.test:8443" : Text) := by
  have form : IsTarget "https://:8443/*" "https" [] (some "8443") "/*" := {
    parts := rfl
    scheme_ne := by decide
    scheme := by decide
    authority := ⟨.inr ⟨by decide, by decide⟩, by rintro digits ⟨⟩; decide⟩
    within := by simp [portText, Uri.endsAuthority]
    path := .inr rfl }
  have carried : IsCarried "/x" := .inr (.inr rfl)
  have sent : location "https://:8443/*" (some "web.test:80") "/x" (some "q=2") = .ok "https://web.test:8443/x?q=2" := by
    decide +kernel
  obtain ⟨name, hname, -, -, -, hseen⟩ := location_authority form carried sent
  obtain ⟨-, given, hgiven, rfl, -⟩ := hname.2 rfl
  obtain rfl := Option.some.inj hgiven
  have hstays : ¬ Strays "/*" "/x" := fun hstrays => absurd hstrays.1 (by decide)
  have hname : (splitAuthority "web.test:80").1 = "web.test".toList := by decide +kernel
  have hauthority : "web.test".toList ++ portText (givenPort (some "8443")) = "web.test:8443".toList := by decide +kernel
  rw [hname, hauthority] at hseen
  exact ⟨form, carried, sent, (hseen fun _ => by simp [Uri.endsAuthority]).mpr hstays⟩

/-- A request for an asterisk is sent to a host whose name ends in the asterisk. -/
theorem asterisk_strays :
    IsTarget "https://example.org" "https" "example.org" none [] ∧ IsCarried "*" ∧
      location "https://example.org" none "*" none = .ok "https://example.org*" ∧
      authorityOf? "https://example.org*" = some ("example.org*" : Text) := by
  have form : IsTarget "https://example.org" "https" "example.org" none [] := {
    parts := rfl
    scheme_ne := by decide
    scheme := by decide
    authority := ⟨.inr ⟨by decide, by decide⟩, by rintro digits ⟨⟩⟩
    within := by simp [portText, Uri.endsAuthority]
    path := .inl rfl }
  exact ⟨form, .inr (.inl rfl), by decide +kernel, by decide +kernel⟩

end Gatehouse.Http.Redirect
