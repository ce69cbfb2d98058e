import Gatehouse.Http.Uri
import Gatehouse.Proofs.Except
import Gatehouse.Proofs.Text

/-!
What reading a URI comes to. Main statements: `parse_parsed`, the forms that a URI can have; `parse_absolute`, by which
an absolute URI ends its authority at the first slash, question mark or number sign, wherever that came from; and
`pathText?_of_parse`, by which a path that is read again is the same path only if it begins like one.
-/

namespace Gatehouse.Http.Uri

variable {t rest path authority scheme : Text} {u : Uri}

/-! ## Parts of a URI -/

/-- Whether a text begins like what follows an authority: with a slash, or with a query. -/
def beginsPath (t : Text) : Bool := t.head?.any fun c => c == '/' || c == '?'

/-- Whether the path of a URI can be read again as it is. -/
def IsReadable (u : Uri) : Prop := readPath u.pathAndQuery = .ok u.pathAndQuery

instance (u : Uri) : Decidable u.IsReadable :=
  inferInstanceAs (Decidable (readPath u.pathAndQuery = .ok u.pathAndQuery))

theorem readPath_eq (h : readPath t = .ok path) : path = t.takeWhile (· != '#') := by
  simp only [readPath] at h
  split at h
  · exact (Except.ok.inj h).symm
  · cases h

theorem readPath_again (h : readPath t = .ok path) : readPath path = .ok path := by
  have hwhole : path.takeWhile (· != '#') = t.takeWhile (· != '#') := by
    rw [readPath_eq h, List.takeWhile_takeWhile]
    simp only [and_self, Bool.decide_eq_true]
  have hsame : readPath path = readPath t := by simp only [readPath, hwhole]
  rw [hsame, h]

theorem readAuthority_eq (h : readAuthority t = .ok (authority, rest)) :
    authority = t.takeWhile (!endsAuthority ·) ∧ rest = t.dropWhile (!endsAuthority ·) := by
  obtain ⟨s, -, h⟩ := bind_eq_ok h
  split at h
  · cases h
  · obtain ⟨rfl, rfl⟩ := Prod.mk.inj (Except.ok.inj h)
    exact ⟨rfl, rfl⟩

/-! ## Forms of a URI -/

/-- What a text can be read as. -/
inductive Parsed (t : Text) : Uri → Prop where
  | asterisk (whole : t = ['*']) : Parsed t ⟨none, [], "*"⟩
  | origin {path : Text} (head : t.head? = some '/') (path_eq : readPath t = .ok path) : Parsed t ⟨none, [], path⟩
  /-- An authority alone. -/
  | authority {authority : Text} (nonempty : t ≠ []) (other : t ≠ ['*']) (scheme_eq : readScheme t = .ok none)
      (authority_eq : readAuthority t = .ok (authority, [])) : Parsed t ⟨none, authority, []⟩
  | absolute {scheme rest authority tail path : Text} (scheme_eq : readScheme t = .ok (some (scheme, rest)))
      (authority_eq : readAuthority rest = .ok (authority, tail)) (nonempty : authority ≠ [])
      (path_eq : readPath tail = .ok path) : Parsed t ⟨some scheme, authority, path⟩

theorem parse_parsed (h : parse t = .ok u) : Parsed t u := by
  unfold parse at h
  split at h
  · cases h
  split at h
  · cases h
  · obtain rfl := Except.ok.inj h
    exact .asterisk rfl
  · obtain ⟨path, hpath, rfl⟩ := map_eq_ok h
    exact .origin rfl hpath
  · rename_i hnonempty hother _
    obtain ⟨found, hscheme, h⟩ := bind_eq_ok h
    cases found with
    | none =>
      obtain ⟨⟨authority, rest⟩, hauthority, h⟩ := bind_eq_ok h
      simp only at h
      split at h
      · rename_i hrest
        obtain rfl := Except.ok.inj h
        exact .authority hnonempty hother hscheme (hrest ▸ hauthority)
      · cases h
    | some found =>
      obtain ⟨scheme, rest⟩ := found
      obtain ⟨⟨authority, tail⟩, hauthority, h⟩ := bind_eq_ok h
      simp only at h
      split at h
      · cases h
      · rename_i hne
        obtain ⟨path, hpath, h⟩ := bind_eq_ok h
        obtain rfl := Except.ok.inj h
        exact .absolute hscheme hauthority hne hpath

/-! ## Characters of an authority -/

theorem toNat_of_isAuthorityChar {c : Char} (h : isAuthorityChar c = true) : 32 ≤ c.toNat ∧ c.toNat < 127 := by
  rw [isAuthorityChar, Bool.or_eq_true, List.contains_iff_mem] at h
  rcases h with halphanum | hother
  · have hrange := Text.toNat_of_isAlphanum halphanum
    omega
  · have hall : ("!$&'()*+,-.:;=@[]_~" : Text).all (fun c => decide (32 ≤ c.toNat ∧ c.toNat < 127)) = true := by decide
    exact of_decide_eq_true (List.all_eq_true.mp hall c hother)

theorem toNat_of_next {s s' : AuthorityState} {c : Char} (h : s.next c = .ok s') : 32 ≤ c.toNat ∧ c.toNat < 127 := by
  by_cases hmark : c ∈ ([':', '[', ']', '@', '%'] : Text)
  · have hall : ([':', '[', ']', '@', '%'] : Text).all (fun c => decide (32 ≤ c.toNat ∧ c.toNat < 127)) = true := by
      decide
    exact of_decide_eq_true (List.all_eq_true.mp hall c hmark)
  · simp only [List.mem_cons, List.not_mem_nil, or_false, not_or] at hmark
    obtain ⟨hcolon, hopen, hclose, hat, hpercent⟩ := hmark
    rw [AuthorityState.next, if_neg hcolon, if_neg hopen, if_neg hclose, if_neg hat, if_neg hpercent] at h
    split at h
    · rename_i hchar
      exact toNat_of_isAuthorityChar hchar
    · cases h

/-- An authority that was read consists of visible ASCII characters, none of which ends it. -/
theorem char_of_readAuthority (h : readAuthority t = .ok (authority, rest)) {c : Char} (hm : c ∈ authority) :
    endsAuthority c = false ∧ 32 ≤ c.toNat ∧ c.toNat < 127 := by
  obtain ⟨hauthority, -⟩ := readAuthority_eq h
  obtain ⟨s, hfold, -⟩ := bind_eq_ok h
  rw [← hauthority] at hfold
  obtain ⟨before, after, hnext⟩ := foldlM_eq_ok hfold c hm
  rw [hauthority] at hm
  exact ⟨by simpa using List.mem_takeWhile_imp hm, toNat_of_next hnext⟩

theorem char_of_parse (h : parse t = .ok u) {c : Char} (hm : c ∈ u.authority) :
    endsAuthority c = false ∧ 32 ≤ c.toNat ∧ c.toNat < 127 := by
  cases parse_parsed h with
  | asterisk _ => cases hm
  | origin _ _ => cases hm
  | authority _ _ _ authority_eq => exact char_of_readAuthority authority_eq hm
  | absolute _ authority_eq _ _ => exact char_of_readAuthority authority_eq hm

/-! ## What begins a path -/

theorem beginsPath_cons {c : Char} : beginsPath (c :: rest) = true ↔ c = '/' ∨ c = '?' := by
  simp [beginsPath]

theorem beginsPath_of_slash (h : t.head? = some '/') : beginsPath t = true := by
  simp [beginsPath, h]

theorem ne_nil_of_beginsPath (h : beginsPath t = true) : t ≠ [] := by
  rintro rfl
  cases h

/-- How a text begins stays when a fragment is cut off. -/
theorem beginsPath_takeWhile : beginsPath (t.takeWhile (· != '#')) = beginsPath t := by
  cases t with
  | nil => rfl
  | cons c rest =>
    by_cases hfragment : c = '#'
    · subst hfragment
      rfl
    · rw [List.takeWhile_cons_of_pos (by simpa using hfragment)]
      rfl

/-- What begins like a path begins with what ends an authority. -/
theorem endsAuthority_of_begins (h : beginsPath t = true) : ∃ c rest, t = c :: rest ∧ endsAuthority c = true := by
  obtain ⟨c, rest, rfl⟩ := List.exists_cons_of_ne_nil (ne_nil_of_beginsPath h)
  refine ⟨c, rest, rfl, ?_⟩
  rcases beginsPath_cons.mp h with rfl | rfl <;> rfl

/-- What ends an authority begins a path, or a fragment. -/
theorem beginsPath_of_ends {c : Char} (h : endsAuthority c = true) (hfragment : c ≠ '#') :
    beginsPath (c :: rest) = true := by
  simp only [endsAuthority, Bool.or_eq_true, beq_iff_eq, hfragment, or_false] at h
  exact beginsPath_cons.mpr h

/-- What follows an authority ends it. -/
theorem endsAuthority_of_dropWhile {c : Char} (h : t.dropWhile (!endsAuthority ·) = c :: rest) :
    endsAuthority c = true := by
  have hhead := List.head?_dropWhile_not (!endsAuthority ·) t
  rw [h] at hhead
  simpa using hhead

/-- The path that follows an authority is empty or begins like one. -/
theorem beginsPath_of_readPath (h : readPath (t.dropWhile (!endsAuthority ·)) = .ok path) :
    path = [] ∨ beginsPath path = true := by
  have hpath := readPath_eq h
  cases htail : t.dropWhile (!endsAuthority ·) with
  | nil =>
    rw [htail] at hpath
    exact .inl hpath
  | cons c rest =>
    rw [htail, List.takeWhile_cons] at hpath
    by_cases hfragment : c = '#'
    · subst hfragment
      exact .inl hpath
    · rw [if_pos (by simpa using hfragment)] at hpath
      exact .inr (hpath ▸ beginsPath_of_ends (endsAuthority_of_dropWhile htail) hfragment)

/-- No scheme begins like a path, or with an asterisk. -/
theorem not_beginsPath_of_readScheme {found : Text × Text} (h : readScheme t = .ok (some found)) :
    beginsPath t = false ∧ t ≠ ['*'] := by
  refine ⟨?_, ?_⟩
  · rw [Bool.eq_false_iff]
    intro hbegins
    cases t with
    | nil => cases hbegins
    | cons c rest =>
      rcases beginsPath_cons.mp hbegins with rfl | rfl <;> cases h
  · rintro rfl
    cases h

/-- The path of every URI that is read can be read again, and is empty, an asterisk, or begins like a path. -/
theorem isReadable_of_parse (h : parse t = .ok u) :
    u.IsReadable ∧ (u.pathAndQuery = [] ∨ u.pathAndQuery = "*" ∨ beginsPath u.pathAndQuery = true) := by
  cases parse_parsed h with
  | asterisk _ => exact ⟨by decide, .inr (.inl rfl)⟩
  | @origin path head path_eq =>
    refine ⟨readPath_again path_eq, .inr (.inr ?_)⟩
    rw [readPath_eq path_eq, beginsPath_takeWhile]
    exact beginsPath_of_slash head
  | authority _ _ _ _ => exact ⟨rfl, .inl rfl⟩
  | absolute scheme_eq authority_eq nonempty path_eq =>
    refine ⟨readPath_again path_eq, ?_⟩
    rw [(readAuthority_eq authority_eq).2] at path_eq
    exact (beginsPath_of_readPath path_eq).imp_right .inr

/-- Behind an authority there is no path, or one that begins like one. -/
theorem beginsPath_of_authority (h : parse t = .ok u) (hne : u.authority ≠ []) :
    u.pathAndQuery = [] ∨ beginsPath u.pathAndQuery = true := by
  cases parse_parsed h with
  | asterisk _ => exact absurd rfl hne
  | origin _ _ => exact absurd rfl hne
  | authority _ _ _ _ => exact .inl rfl
  | absolute _ authority_eq _ path_eq =>
    rw [(readAuthority_eq authority_eq).2] at path_eq
    exact beginsPath_of_readPath path_eq

/-! ## Reading paths again -/

theorem pathText?_of_origin (hne : path ≠ []) : pathText? ⟨none, [], path⟩ = some path := by
  simp [pathText?, hne]

theorem pathText?_of_scheme (scheme authority path : Text) :
    pathText? ⟨some scheme, authority, path⟩ = some (if path = [] then ['/'] else path) := by
  simp [pathText?]

/-- A path is the path of the URI that it is read as, if it begins like a path or is an asterisk; any other is read as
an authority or as an absolute URI. -/
theorem pathText?_of_parse (readable : readPath t = .ok t) (h : parse t = .ok u) :
    u.pathText? = some t ↔ beginsPath t = true ∨ t = ['*'] := by
  cases parse_parsed h with
  | asterisk whole =>
    rw [whole]
    decide
  | @origin path head path_eq =>
    obtain rfl : t = path := Except.ok.inj (readable.symm.trans path_eq)
    have hbegins := beginsPath_of_slash head
    exact iff_of_true (pathText?_of_origin (ne_nil_of_beginsPath hbegins)) (.inl hbegins)
  | @authority authority nonempty other _ authority_eq =>
    -- the whole text is the authority, so that there is no path
    obtain ⟨hauthority, hrest⟩ := readAuthority_eq authority_eq
    have hwhole : t = authority := by
      have hjoin := List.takeWhile_append_dropWhile (p := (!endsAuthority ·)) (l := t)
      rw [← hauthority, ← hrest, List.append_nil] at hjoin
      exact hjoin.symm
    refine iff_of_false ?_ ?_
    · rw [← hwhole]
      simp [pathText?, nonempty]
    · rintro (hbegins | hasterisk)
      · obtain ⟨c, rest, rfl, hends⟩ := endsAuthority_of_begins hbegins
        simp [hends] at hrest
      · exact other hasterisk
  | absolute scheme_eq authority_eq nonempty path_eq =>
    obtain ⟨hbegins, hother⟩ := not_beginsPath_of_readScheme scheme_eq
    refine iff_of_false ?_ (by simp [hbegins, hother])
    rw [(readAuthority_eq authority_eq).2] at path_eq
    rw [pathText?_of_scheme]
    intro heq
    -- the path that was read begins like one, which the text does not
    rcases beginsPath_of_readPath path_eq with rfl | hpath
    · obtain rfl := Option.some.inj heq
      cases hbegins
    · rw [if_neg (ne_nil_of_beginsPath hpath)] at heq
      obtain rfl := Option.some.inj heq
      rw [hpath] at hbegins
      cases hbegins

/-! ## Absolute URIs that are put together -/

theorem readScheme_known (known : scheme = "http" ∨ scheme = "https") (rest : Text) :
    readScheme (scheme ++ "://" ++ rest) = .ok (some (scheme, rest)) := by
  rcases known with rfl | rfl <;> rfl

/-- Behind the scheme of an absolute URI, the authority ends where the text has its first slash, question mark or number
sign, and the path before its first number sign. -/
theorem parse_absolute (known : scheme = "http" ∨ scheme = "https") (h : parse (scheme ++ "://" ++ t) = .ok u) :
    u.authority ≠ [] ∧
      u = ⟨some scheme, t.takeWhile (!endsAuthority ·), (t.dropWhile (!endsAuthority ·)).takeWhile (· != '#')⟩ := by
  have hscheme := readScheme_known known t
  cases parse_parsed h with
  | asterisk whole => rcases known with rfl | rfl <;> cases whole
  | origin head _ => rcases known with rfl | rfl <;> cases head
  | authority _ _ scheme_eq _ =>
    rw [hscheme] at scheme_eq
    cases scheme_eq
  | @absolute scheme' rest authority tail path scheme_eq authority_eq nonempty path_eq =>
    rw [hscheme] at scheme_eq
    obtain ⟨rfl, rfl⟩ := Prod.mk.inj (Option.some.inj (Except.ok.inj scheme_eq))
    obtain ⟨hauthority, htail⟩ := readAuthority_eq authority_eq
    refine ⟨nonempty, ?_⟩
    rw [readPath_eq path_eq, hauthority, htail]

/-- What a reader takes for an authority goes on behind a text in which nothing ends one. -/
theorem takeWhile_append_within (hauthority : ∀ c ∈ authority, endsAuthority c = false) (rest : Text) :
    (authority ++ rest).takeWhile (!endsAuthority ·) = authority ++ rest.takeWhile (!endsAuthority ·) ∧
      (authority ++ rest).dropWhile (!endsAuthority ·) = rest.dropWhile (!endsAuthority ·) := by
  have hkeep : ∀ c ∈ authority, (!endsAuthority c) = true := fun c hm => by rw [hauthority c hm]; rfl
  exact ⟨List.takeWhile_append_of_pos hkeep, List.dropWhile_append_of_pos hkeep⟩

/-- A text in front of a path is cut off there, if nothing in it ends an authority. -/
theorem takeWhile_append_path (hauthority : ∀ c ∈ authority, endsAuthority c = false) (h : beginsPath path = true) :
    (authority ++ path).takeWhile (!endsAuthority ·) = authority ∧
      (authority ++ path).dropWhile (!endsAuthority ·) = path := by
  obtain ⟨c, rest, rfl, hends⟩ := endsAuthority_of_begins h
  obtain ⟨htake, hdrop⟩ := takeWhile_append_within hauthority (c :: rest)
  rw [htake, hdrop, List.takeWhile_cons_of_neg (by simp [hends]), List.dropWhile_cons_of_neg (by simp [hends]),
    List.append_nil]
  exact ⟨rfl, rfl⟩

/-- If a text with a path behind it is cut off where the path begins, the path begins like one. -/
theorem beginsPath_of_takeWhile (readable : readPath path = .ok path) (hne : path ≠ [])
    (h : (authority ++ path).takeWhile (!endsAuthority ·) = authority) :
    beginsPath path = true ∧ ∀ c ∈ authority, endsAuthority c = false := by
  have hkeep : ∀ c ∈ authority, (!endsAuthority c) = true := by
    intro c hm
    rw [← h] at hm
    exact List.mem_takeWhile_imp (p := (!endsAuthority ·)) hm
  refine ⟨?_, fun c hm => by simpa using hkeep c hm⟩
  rw [List.takeWhile_append_of_pos hkeep, List.append_right_eq_self] at h
  obtain ⟨c, rest, rfl⟩ := List.exists_cons_of_ne_nil hne
  have hends : endsAuthority c = true := by
    by_contra hgoes
    rw [List.takeWhile_cons_of_pos (by simpa using hgoes)] at h
    cases h
  have hfragment : c ≠ '#' := by
    rintro rfl
    have hwhole := readPath_eq readable
    cases hwhole
  exact beginsPath_of_ends hends hfragment

/-- An authority and a path that are put together are told apart again exactly if nothing in the authority ends one, and
the path begins like one. -/
theorem authority?_of_parse (known : scheme = "http" ∨ scheme = "https") (readable : readPath path = .ok path)
    (hne : path ≠ []) (h : parse (scheme ++ "://" ++ (authority ++ path)) = .ok u) :
    (u.pathText? = some path ∧ u.authority? = some authority) ↔
      beginsPath path = true ∧ ∀ c ∈ authority, endsAuthority c = false := by
  obtain ⟨hnonempty, hu⟩ := parse_absolute known h
  have hauthority? : u.authority? = some u.authority := if_neg hnonempty
  refine ⟨?_, ?_⟩
  · rintro ⟨-, hsame⟩
    rw [hauthority?, Option.some.injEq] at hsame
    rw [hu] at hsame
    exact beginsPath_of_takeWhile readable hne hsame
  · rintro ⟨hbegins, hauthority⟩
    obtain ⟨htake, hdrop⟩ := takeWhile_append_path hauthority hbegins
    rw [htake, hdrop, ← readPath_eq readable] at hu
    refine ⟨?_, ?_⟩
    · rw [hu, pathText?_of_scheme, if_neg hne]
    · rw [hauthority?, hu]

end Gatehouse.Http.Uri
