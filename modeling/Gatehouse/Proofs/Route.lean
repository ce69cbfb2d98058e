import Gatehouse.Proofs.Except
import Gatehouse.Proofs.Text
import Gatehouse.Route.Basic

/-!
Reading routes. Main statements: `parseWithDefault_again`, by which a text is read as the same route once more if the
scheme of that route is what a target without a scheme gets; and `render_reread_iff`, by which the text of a route that was
read is read as this route again exactly if the target in it does not begin with a blank.
-/

namespace Gatehouse

/-! ## Targets -/

namespace Target

/-- What stands before the port of an address, without the brackets in front and behind. -/
def unbracketed (front : Text) : Text := Text.trimEnd (· == ']') (Text.trimFront (· == '[') front)

/-- The path of a target: its host, or the names of its service. -/
def path : Target → Text
  | fixed host _ => host
  | service app kind name _ => app ++ "/" ++ kind ++ "/" ++ name

/-- The path of a target as its text shows it: a host with a colon stands in brackets. -/
def shownPath : Target → Text
  | fixed host _ => if host.contains ':' then "[" ++ host ++ "]" else host
  | service app kind name _ => app ++ "/" ++ kind ++ "/" ++ name

variable {t path : Text} {port : Nat} {target : Target}

theorem render_eq (target : Target) : target.render = target.shownPath ++ ':' :: Text.ofNat target.port := by
  cases target with
  | fixed host port =>
    simp only [render, shownPath, Target.port]
    split <;> simp
  | service app kind name port => simp [render, shownPath, Target.port]

/-! ### Brackets -/

theorem head?_unbracketed (front : Text) : (unbracketed front).head? ≠ some '[' := by
  intro h
  have hkept := List.head?_dropWhile_not (· == '[') front
  have hfront : (front.dropWhile (· == '[')).head? = some '[' := Text.head?_of_begins (Text.trimEnd_begins _ _) h
  rw [hfront] at hkept
  exact absurd hkept (by decide)

theorem unbracketed_eq_trimEnd {front : Text} (h : front.head? ≠ some '[') :
    unbracketed front = Text.trimEnd (· == ']') front := by
  rw [unbracketed, Text.trimFront]
  cases front with
  | nil => rfl
  | cons c rest =>
    have hc : ¬ (c == '[') = true := fun heq => h (congrArg some (beq_iff_eq.mp heq))
    rw [List.dropWhile_cons_of_neg (p := (· == '[')) hc]

/-- Brackets are taken away once and for all. -/
theorem unbracketed_unbracketed (front : Text) : unbracketed (unbracketed front) = unbracketed front := by
  rw [unbracketed_eq_trimEnd (head?_unbracketed front), unbracketed, Text.trimEnd_trimEnd]

/-- Brackets around what has none are taken away. -/
theorem unbracketed_brackets (h : unbracketed path = path) : unbracketed ("[" ++ path ++ "]") = path := by
  have hhead : path.head? ≠ some '[' := h ▸ head?_unbracketed path
  have hfront : unbracketed ("[" ++ path ++ "]") = unbracketed (path ++ [']']) := by
    simp [unbracketed, Text.trimFront]
  rw [hfront]
  cases path with
  | nil => rfl
  | cons c rest =>
    rw [unbracketed_eq_trimEnd hhead] at h
    have hhead' : ((c :: rest) ++ [']']).head? ≠ some '[' := hhead
    rw [unbracketed_eq_trimEnd hhead', Text.trimEnd_append_of_nil _ _ (by decide), h]

theorem length_unbracketed_le (front : Text) : (unbracketed front).length ≤ front.length :=
  Nat.le_trans (Text.trimEnd_begins _ _).length_le (List.length_dropWhile_le _ front)

/-! ### Reading -/

theorem splitPort?_eq_some_iff : splitPort? t = some (path, port) ↔
    ∃ front digits, t = front ++ ':' :: digits ∧ ':' ∉ digits ∧ unbracketed front = path ∧ path ≠ [] ∧
      Text.bounded? 65535 digits = some port ∧ port ≠ 0 := by
  simp only [splitPort?, bind, Option.bind_eq_some_iff, Option.ite_none_left_eq_some, Option.some_inj, Prod.mk.injEq,
    Prod.exists, Text.cutLast_eq_some_iff]
  refine ⟨?_, ?_⟩
  · rintro ⟨front, digits, ⟨rfl, hdigits⟩, hne, n, hn, hpositive, rfl, rfl⟩
    exact ⟨front, digits, rfl, hdigits, rfl, hne, hn, hpositive⟩
  · rintro ⟨front, digits, rfl, hdigits, rfl, hne, hn, hpositive⟩
    exact ⟨front, digits, ⟨rfl, hdigits⟩, hne, port, hn, hpositive, rfl, rfl⟩

/-- An address whose port is written as a number. -/
theorem splitPort?_ofNat_iff {front : Text} {n : Nat} : splitPort? (front ++ ':' :: Text.ofNat n) = some (path, port) ↔
    unbracketed front = path ∧ path ≠ [] ∧ n ≤ 65535 ∧ n = port ∧ port ≠ 0 := by
  have hdigits : ':' ∉ Text.ofNat n := fun hm => absurd (Text.isDigit_of_mem_ofNat hm) (by decide)
  have hcut := Text.cutLast_append hdigits front
  rw [splitPort?_eq_some_iff]
  refine ⟨?_, ?_⟩
  · rintro ⟨front', digits, heq, hdigits', hpath, hne, hn, hpositive⟩
    rw [heq, Text.cutLast_append hdigits' front'] at hcut
    obtain ⟨rfl, rfl⟩ := Prod.mk.inj (Option.some.inj hcut)
    rw [Text.bounded?_ofNat, Option.ite_none_right_eq_some] at hn
    exact ⟨hpath, hne, hn.1, Option.some.inj hn.2, hpositive⟩
  · rintro ⟨hpath, hne, hle, rfl, hpositive⟩
    exact ⟨front, Text.ofNat n, rfl, hdigits, hpath, hne, by rw [Text.bounded?_ofNat, if_pos hle], hpositive⟩

/-- The target of a path has this path. -/
theorem path_of_ofPath? (h : ofPath? path port = some target) : target.path = path ∧ target.port = port := by
  unfold ofPath? at h
  split at h
  · split at h
    · rename_i app kind name hsplit
      obtain ⟨-, htarget⟩ := Option.ite_none_left_eq_some.mp h
      obtain rfl := Option.some.inj htarget
      have hjoin := Text.join_split '/' path
      rw [hsplit] at hjoin
      refine ⟨?_, rfl⟩
      rw [← hjoin]
      simp [Target.path, Text.join]
    · cases h
  · obtain rfl := Option.some.inj h
    exact ⟨rfl, rfl⟩

theorem parse_eq_ok_iff : parse t = .ok target ↔
    splitPort? (Text.trim t) = some (target.path, target.port) ∧ ofPath? target.path target.port = some target := by
  have hread : parse t = .ok target ↔
      ((splitPort? (Text.trim t)).bind fun parts => ofPath? parts.1 parts.2) = some target := by
    unfold parse
    simp only
    split
    · rename_i found hfound
      have hparts : ((splitPort? (Text.trim t)).bind fun parts => ofPath? parts.1 parts.2) = some found := hfound
      rw [hparts, Except.ok.injEq, Option.some_inj]
    · rename_i hnone
      have hparts : ((splitPort? (Text.trim t)).bind fun parts => ofPath? parts.1 parts.2) = none := hnone
      rw [hparts]
      exact iff_of_false (fun h => by cases h) fun h => by cases h
  rw [hread, Option.bind_eq_some_iff]
  constructor
  · rintro ⟨⟨path, port⟩, hsplit, htarget⟩
    obtain ⟨rfl, rfl⟩ := path_of_ofPath? htarget
    exact ⟨hsplit, htarget⟩
  · rintro ⟨hsplit, htarget⟩
    exact ⟨_, hsplit, htarget⟩

/-- What is known of a target that was read: a port that is no zero and within its limit, and a path without brackets
around it. -/
structure WasRead (target : Target) : Prop where
  path_ne : target.path ≠ []
  bare : unbracketed target.path = target.path
  port_le : target.port ≤ 65535
  port_ne : target.port ≠ 0
  ofPath : ofPath? target.path target.port = some target

theorem wasRead_of_parse (h : parse t = .ok target) : target.WasRead := by
  obtain ⟨hsplit, htarget⟩ := parse_eq_ok_iff.mp h
  obtain ⟨front, digits, -, -, hpath, hne, hport, hpositive⟩ := splitPort?_eq_some_iff.mp hsplit
  exact ⟨hne, hpath ▸ unbracketed_unbracketed front, Text.le_of_bounded? hport, hpositive, htarget⟩

/-! ### Reading what is shown -/

theorem WasRead.unbracketed_shownPath (read : target.WasRead) : unbracketed target.shownPath = target.path := by
  cases target with
  | fixed host port =>
    rw [shownPath]
    split
    · exact unbracketed_brackets read.bare
    · exact read.bare
  | service app kind name port => exact read.bare

theorem WasRead.shownPath_ne (read : target.WasRead) : target.shownPath ≠ [] := by
  intro hnil
  have hpath := read.unbracketed_shownPath
  rw [hnil] at hpath
  exact read.path_ne hpath.symm

/-- What begins with a blank is shown without brackets. -/
theorem shownPath_of_blank {c : Char} (hhead : target.shownPath.head? = some c) (hblank : Text.isBlank c = true) :
    target.shownPath = target.path := by
  cases target with
  | fixed host port =>
    rw [shownPath] at hhead ⊢
    split at hhead
    · obtain rfl : '[' = c := Option.some.inj hhead
      exact absurd hblank (by decide)
    · rw [if_neg ‹_›]
      rfl
  | service app kind name port => rfl

/-- The text of a target that was read is read as this target exactly if it does not begin with a blank. -/
theorem WasRead.parse_render_iff (read : target.WasRead) :
    parse target.render = .ok target ↔ ∀ c ∈ target.render.head?, Text.isBlank c = false := by
  obtain ⟨c, rest, hshown⟩ := List.exists_cons_of_ne_nil read.shownPath_ne
  have hhead : target.render.head? = some c := by
    rw [render_eq, hshown]
    rfl
  rw [parse_eq_ok_iff, and_iff_left read.ofPath, render_eq, Text.trim_append_ofNat _ _ (by decide),
    splitPort?_ofNat_iff, ← render_eq, hhead]
  cases hblank : Text.isBlank c with
  | false =>
    have hkept : Text.trimFront Text.isBlank target.shownPath = target.shownPath := by
      rw [hshown, Text.trimFront, List.dropWhile_cons_of_neg (by rw [hblank]; decide)]
    rw [hkept]
    refine iff_of_true ⟨read.unbracketed_shownPath, read.path_ne, read.port_le, rfl, read.port_ne⟩ ?_
    rintro d ⟨⟩
    exact hblank
  | true =>
    -- what is left without the blank is shorter than the path
    refine iff_of_false ?_ fun hnone => ?_
    · rintro ⟨hpath, -⟩
      have hsame := shownPath_of_blank (congrArg List.head? hshown) hblank
      have hlength := length_unbracketed_le (Text.trimFront Text.isBlank target.shownPath)
      rw [hpath, ← hsame, hshown, Text.trimFront, List.dropWhile_cons_of_pos hblank, List.length_cons] at hlength
      exact absurd (Nat.le_trans hlength (List.length_dropWhile_le _ _)) (Nat.not_succ_le_self _)
    · rw [hnone c rfl] at hblank
      cases hblank

/-- A target that was read begins with a blank only behind a bracket. -/
theorem head?_render_of_parse (h : parse t = .ok target) (hbracket : '[' ∉ t) :
    ∀ c ∈ target.render.head?, Text.isBlank c = false := by
  obtain ⟨hsplit, -⟩ := parse_eq_ok_iff.mp h
  obtain ⟨front, digits, heq, -, hpath, hne, -⟩ := splitPort?_eq_some_iff.mp hsplit
  have read := wasRead_of_parse h
  obtain ⟨c, rest, hshown⟩ := List.exists_cons_of_ne_nil read.shownPath_ne
  have hhead : target.render.head? = some c := by
    rw [render_eq, hshown]
    rfl
  rw [hhead]
  rintro d ⟨⟩
  by_contra hblank
  rw [Bool.not_eq_false] at hblank
  have hfront : front.head? ≠ some '[' := by
    intro hopen
    refine hbracket (Text.mem_of_mem_trim ?_)
    rw [heq]
    exact List.mem_append_left _ (List.mem_of_head? hopen)
  -- the path is a front of the text that was read, which begins with no blank
  have hbegins : (Text.trim t).head? = some c := by
    rw [unbracketed_eq_trimEnd hfront] at hpath
    have hpathHead : target.path.head? = some c := by
      rw [← shownPath_of_blank (congrArg List.head? hshown) hblank, hshown]
      rfl
    rw [← hpath] at hpathHead
    rw [heq]
    exact Text.head?_of_begins ((Text.trimEnd_begins _ front).trans (List.prefix_append _ _)) hpathHead
  rw [Text.head?_trimBoth hbegins] at hblank
  cases hblank

end Target

/-! ## Routes -/

namespace Route

variable {t : Text} {default : Scheme} {route : Route}

theorem parseWithDefault_again (h : parseWithDefault t default = .ok route) :
    parseWithDefault t route.scheme = .ok route := by
  simp only [parseWithDefault] at h ⊢
  split at h
  · cases h
  rename_i nonempty
  rw [if_neg nonempty]
  split at h
  · -- a scheme in the text decides, whatever the other is
    exact h
  · obtain ⟨target, htarget, hroute⟩ := bind_eq_ok h
    rw [htarget, ← Except.ok.inj hroute]
    rfl

/-- The target of a route was read of a part of the text. -/
theorem target_of_parse (h : parseWithDefault t default = .ok route) :
    ∃ address, Target.parse address = .ok route.target ∧ ∀ c ∈ address, c ∈ t := by
  simp only [parseWithDefault] at h
  split at h
  · cases h
  split at h
  · rename_i front address hcut
    obtain ⟨scheme, -, h⟩ := bind_eq_ok h
    obtain ⟨target, htarget, hroute⟩ := bind_eq_ok h
    obtain rfl := Except.ok.inj hroute
    refine ⟨address, htarget, fun c hm => Text.mem_of_mem_trim ?_⟩
    rw [Text.eq_append_of_cutAround hcut]
    exact List.mem_append_right _ hm
  · obtain ⟨target, htarget, hroute⟩ := bind_eq_ok h
    obtain rfl := Except.ok.inj hroute
    exact ⟨_, htarget, fun c hm => Text.mem_of_mem_trim hm⟩

/-- The text of a route is read as its scheme with what the text of its target is read as. -/
theorem parseWithDefault_render (route : Route) (default : Scheme) :
    parseWithDefault route.render default = (Target.parse route.target.render).map (Route.mk route.scheme) := by
  have hscheme : ':' ∉ route.scheme.name ∧ ∃ c rest, route.scheme.name = c :: rest ∧ Text.isBlank c = false := by
    cases route.scheme <;> exact ⟨by decide, _, _, rfl, by decide⟩
  obtain ⟨hcolon, c, rest, hname, hblank⟩ := hscheme
  have htrim : Text.trim route.render = route.render := by
    have hsplit : route.render = (route.scheme.name ++ "://" ++ route.target.shownPath) ++
        ':' :: Text.ofNat route.target.port := by
      rw [render, Target.render_eq, ← List.append_assoc]
    rw [hsplit, Text.trim_append_ofNat _ _ (by decide), hname]
    congr 1
    exact List.dropWhile_cons_of_neg (by rw [hblank]; decide)
  have hne : route.render ≠ [] := by
    rw [render, hname]
    exact List.cons_ne_nil _ _
  have hcut : Text.cutAround "://" route.render = some (route.scheme.name, route.target.render) :=
    Text.cutAround_append hcolon ['/', '/'] _
  simp only [parseWithDefault, htrim, if_neg hne, hcut, Scheme.parse_name]
  cases Target.parse route.target.render <;> rfl

theorem parse_render (route : Route) : parse route.render none = parseWithDefault route.render .tcp := by
  rw [parse]
  cases parseWithDefault route.render .tcp <;> rfl

theorem parseWithDefault_of_parse {explicit : Option Scheme} (h : parse t explicit = .ok route) :
    ∃ default route', parseWithDefault t default = .ok route' ∧ route'.target = route.target := by
  obtain ⟨route', hroute', heq⟩ := bind_eq_ok h
  obtain rfl := Except.ok.inj heq
  exact ⟨.tcp, route', hroute', rfl⟩

/-- A route that was read, with whatever scheme, is read of its own text again exactly if the text of its target does not
begin with a blank; what a target without a scheme would get does not count. Only behind a bracket a target begins with a
blank. -/
theorem render_reread_iff {explicit : Option Scheme}
    (h : parse t explicit = .ok route ∨ parseWithDefault t default = .ok route) :
    (parse route.render none = .ok route ↔ ∀ c ∈ route.target.render.head?, Text.isBlank c = false) ∧
    (∀ other, parseWithDefault route.render other = .ok route ↔
      ∀ c ∈ route.target.render.head?, Text.isBlank c = false) ∧
    ('[' ∉ t → ∀ c ∈ route.target.render.head?, Text.isBlank c = false) := by
  obtain ⟨default', route', hroute', htarget⟩ : ∃ default' route', parseWithDefault t default' = .ok route' ∧
      route'.target = route.target := by
    rcases h with h | h
    · exact parseWithDefault_of_parse h
    · exact ⟨default, route, h, rfl⟩
  obtain ⟨address, haddress, hwithin⟩ := target_of_parse hroute'
  rw [htarget] at haddress
  have hagain : ∀ other, parseWithDefault route.render other = .ok route ↔
      ∀ c ∈ route.target.render.head?, Text.isBlank c = false := by
    intro other
    rw [← (Target.wasRead_of_parse haddress).parse_render_iff, parseWithDefault_render]
    refine ⟨?_, fun htext => by rw [htext]; rfl⟩
    intro hread
    obtain ⟨target, htext, heq⟩ := map_eq_ok hread
    rw [htext, ← heq]
  refine ⟨?_, hagain, ?_⟩
  · rw [parse_render]
    exact hagain .tcp
  · exact fun hbracket => Target.head?_render_of_parse haddress fun hm => hbracket (hwithin _ hm)

/-- A host in brackets keeps the blanks and the colon in it. -/
theorem bracketedHost_reread :
    parse " https://[ a:b ]:+0443" (some .tls) = .ok ⟨.tls, .fixed " a:b " 443⟩ ∧
      Route.render ⟨.tls, .fixed " a:b " 443⟩ = "tls://[ a:b ]:443".toList ∧
      parseWithDefault "tls://[ a:b ]:443" .http = .ok ⟨.tls, .fixed " a:b " 443⟩ := by
  have hread : parse " https://[ a:b ]:+0443" (some .tls) = .ok ⟨.tls, .fixed " a:b " 443⟩ := by rfl
  have hshown : Route.render ⟨.tls, .fixed " a:b " 443⟩ = "tls://[ a:b ]:443".toList := by rfl
  have hgiven : parse " https://[ a:b ]:+0443" (some .tls) = .ok ⟨.tls, .fixed " a:b " 443⟩ ∨
      parseWithDefault " https://[ a:b ]:+0443" .http = .ok ⟨.tls, .fixed " a:b " 443⟩ := .inl hread
  obtain ⟨-, hagain, -⟩ := render_reread_iff hgiven
  refine ⟨hread, hshown, hshown ▸ (hagain .http).mpr ?_⟩
  rintro c ⟨⟩
  decide

/-- A host without a colon loses the blank that it begins with. -/
theorem blankHost_lost : ¬ ∀ (t : Text) (explicit : Option Scheme) (route : Route), parse t explicit = .ok route →
    ∀ default, parseWithDefault route.render default = .ok route := by
  intro always
  have hread : parse "[ a]:80" none = .ok ⟨.tcp, .fixed " a" 80⟩ := by rfl
  have hlost : parseWithDefault (Route.render ⟨.tcp, .fixed " a" 80⟩) .tcp = .ok ⟨.tcp, .fixed "a" 80⟩ := by rfl
  have hsame := Except.ok.inj (hlost.symm.trans (always "[ a]:80" none _ hread .tcp))
  exact absurd hsame (by decide)

end Route
end Gatehouse
