import Gatehouse.Text.Blank
import Gatehouse.Text.Utf8
import Mathlib

/-!
Laws of the cuts and trims of text, and of lower case: a trim or a change to lower case that is done twice
does no more than once, cuts and trims at a character that is no letter do not depend on letter case,
cutting undoes joining, a word stays within a piece, and the digits of a number are read as the number.
-/

namespace Gatehouse.Text

/-! ## Lower case -/

theorem lower_lower (t : Text) : lower (lower t) = lower t := by
  simp only [lower, List.map_map]
  exact List.map_congr_left fun c _ => Char.toLower_toLower_eq_toLower c

/-- A character that is no letter comes from no other character. -/
theorem toLower_eq_iff {c d : Char} (hd : d.isAlpha = false) : c.toLower = d ↔ c = d := by
  have hupper : ∀ x : Char, x.isAlpha = false → x.toLower = x := by
    intro x hx
    refine Char.toLower_eq_of_not_isUpper ?_
    intro h
    rw [Char.isAlpha, h, Bool.true_or] at hx
    cases hx
  refine ⟨?_, ?_⟩
  · intro heq
    subst heq
    rw [Char.isAlpha_toLower_eq_isAlpha] at hd
    exact (hupper c hd).symm
  · intro heq
    subst heq
    exact hupper c hd

theorem isAlphanum_toLower (c : Char) : c.toLower.isAlphanum = c.isAlphanum := by
  by_cases h : c.isUpper = true
  · have halpha : c.isAlpha = true := by rw [Char.isAlpha, h, Bool.true_or]
    rw [Char.isAlphanum, Char.isAlphanum, Char.isAlpha_toLower_eq_isAlpha, halpha, Bool.true_or, Bool.true_or]
  · rw [Char.toLower_eq_of_not_isUpper h]

theorem toNat_of_isAlphanum {c : Char} (h : c.isAlphanum = true) : 48 ≤ c.toNat ∧ c.toNat ≤ 122 := by
  have hval : c.toNat = c.val.toNat := rfl
  simp only [Char.isAlphanum, Char.isAlpha, Char.isUpper, Char.isLower, Char.isDigit, Bool.or_eq_true,
    Bool.and_eq_true, decide_eq_true_eq, ge_iff_le, UInt32.le_iff_toNat_le] at h
  simp at h
  omega

/-- Letters and digits are ASCII. -/
theorem toNat_lt_of_isAlphanum {c : Char} (h : c.isAlphanum = true) : c.toNat < 128 := by
  have hrange := toNat_of_isAlphanum h
  omega

/-! ## Bytes -/

theorem toNat_ofByte (b : UInt8) : (Char.ofNat b.toNat).toNat = b.toNat := by
  have hb := b.toNat_lt
  rw [Char.toNat_ofNat, if_pos (.inl (by omega))]

/-- A byte that makes up a character alone is read as this character. -/
theorem ofUtf8Lossy_cons {lead : UInt8} {c : Char} (hlength : sequenceLength lead = some 1)
    (hchar : [lead].toByteArray.utf8DecodeChar? 0 = some c) (rest : Bytes) :
    ofUtf8Lossy (lead :: rest) = c :: ofUtf8Lossy rest := by
  have hstep : lossyStep lead rest = (c, 0) := by
    simp only [lossyStep, hlength, continuations]
    simp [hchar]
  rw [ofUtf8Lossy, lossyFrom, hstep]
  rfl

theorem utf8_of_ascii {t : Text} (h : ∀ c ∈ t, c.toNat < 128) : utf8 t = t.map fun c => UInt8.ofNat c.toNat := by
  induction t with
  | nil => rfl
  | cons c rest ih =>
    have hone : String.utf8EncodeChar c = [UInt8.ofNat c.toNat] := by
      have hc : c.val.toNat ≤ 127 := Nat.le_of_lt_succ (h c List.mem_cons_self)
      rw [String.utf8EncodeChar, if_pos hc]
      rfl
    rw [utf8] at ih
    rw [utf8, List.flatMap_cons, hone, ih fun d hm => h d (List.mem_cons_of_mem _ hm), List.map_cons,
      List.singleton_append]

theorem utf8_append (t u : Text) : utf8 (t ++ u) = utf8 t ++ utf8 u := List.flatMap_append

theorem utf8_inj {t u : Text} (h : utf8 t = utf8 u) : t = u := by
  have hread := ofUtf8?_utf8 t
  rw [h, ofUtf8?_utf8] at hread
  exact (Option.some.inj hread).symm

theorem byteLength_of_ascii {t : Text} (h : ∀ c ∈ t, c.toNat < 128) : byteLength t = t.length := by
  have hone : t.map (fun c => (String.utf8EncodeChar c).length) = t.map fun _ => 1 := by
    refine List.map_congr_left fun c hm => ?_
    rw [String.length_utf8EncodeChar, Char.utf8Size_eq_one_iff, UInt32.le_iff_toNat_le]
    exact Nat.le_of_lt_succ (h c hm)
  rw [byteLength, utf8, List.length_flatMap, hone, List.map_const', List.sum_replicate, smul_eq_mul, mul_one]

/-! ## Trims -/

theorem trimEnd_append (p : Char → Bool) (t : Text) {last : Text} (h : trimEnd p last ≠ []) :
    trimEnd p (t ++ last) = t ++ trimEnd p last := by
  induction t with
  | nil => rfl
  | cons c rest ih =>
    have hne : rest ++ trimEnd p last ≠ [] := by simp [h]
    rw [List.cons_append, trimEnd, ih]
    cases hrest : rest ++ trimEnd p last with
    | nil => exact absurd hrest hne
    | cons d kept => rw [List.cons_append, hrest]

theorem trimEnd_append_of_nil (p : Char → Bool) (t : Text) {last : Text} (h : trimEnd p last = []) :
    trimEnd p (t ++ last) = trimEnd p t := by
  induction t with
  | nil => exact h
  | cons c rest ih => rw [List.cons_append, trimEnd, trimEnd, ih]

/-- What is trimmed was to be trimmed. -/
theorem mem_trimEnd {p : Char → Bool} {c : Char} {t : Text} (hm : c ∈ t) : c ∈ trimEnd p t ∨ p c = true := by
  induction t with
  | nil => cases hm
  | cons d rest ih =>
    rw [trimEnd]
    cases hrest : trimEnd p rest with
    | nil =>
      rw [hrest] at ih
      rcases List.mem_cons.mp hm with rfl | hm
      · by_cases hc : p c = true
        · exact .inr hc
        · exact .inl (by simp [hc])
      · exact .inr ((ih hm).resolve_left List.not_mem_nil)
    | cons e kept =>
      rw [hrest] at ih
      rcases List.mem_cons.mp hm with rfl | hm
      · exact .inl List.mem_cons_self
      · exact (ih hm).imp_left (List.mem_cons_of_mem _)

theorem trimEnd_trimEnd (p : Char → Bool) (t : Text) : trimEnd p (trimEnd p t) = trimEnd p t := by
  induction t with
  | nil => rfl
  | cons c rest ih =>
    cases hrest : trimEnd p rest with
    | nil =>
      cases hc : p c <;> simp [trimEnd, hrest, hc]
    | cons d kept =>
      have h : trimEnd p (c :: rest) = c :: d :: kept := by simp only [trimEnd, hrest]
      rw [hrest] at ih
      rw [h, trimEnd, ih]

theorem trimEnd_lower {d : Char} (hd : d.isAlpha = false) (t : Text) :
    trimEnd (· == d) (lower t) = lower (trimEnd (· == d) t) := by
  induction t with
  | nil => rfl
  | cons c rest ih =>
    have hc : (c.toLower == d) = (c == d) := by
      rw [Bool.eq_iff_iff, beq_iff_eq, beq_iff_eq]
      exact toLower_eq_iff hd
    simp only [lower, List.map_cons, trimEnd] at ih ⊢
    rw [ih]
    cases trimEnd (· == d) rest with
    | nil =>
      simp only [List.map_nil, hc]
      split <;> rfl
    | cons _ _ => rfl

/-- Of what is trimmed, only the characters at hand matter. -/
theorem trimEnd_congr {p q : Char → Bool} {t : Text} (h : ∀ c ∈ t, p c = q c) : trimEnd p t = trimEnd q t := by
  induction t with
  | nil => rfl
  | cons c rest ih =>
    rw [trimEnd, trimEnd, ih fun d hm => h d (List.mem_cons_of_mem _ hm), h c List.mem_cons_self]

theorem trimBoth_congr {p q : Char → Bool} {t : Text} (h : ∀ c ∈ t, p c = q c) : trimBoth p t = trimBoth q t := by
  have hfront : t.dropWhile p = t.dropWhile q := by
    induction t with
    | nil => rfl
    | cons c rest ih =>
      rw [List.dropWhile_cons, List.dropWhile_cons, ih fun d hm => h d (List.mem_cons_of_mem _ hm),
        h c List.mem_cons_self]
  rw [trimBoth, trimBoth, trimFront, trimFront, hfront]
  exact trimEnd_congr fun c hm => h c ((List.dropWhile_sublist q).subset hm)

theorem trimEnd_of_not_mem {d : Char} {t : Text} (h : d ∉ t) : trimEnd (· == d) t = t := by
  refine trimEnd_eq_self fun c hm => ?_
  rw [beq_eq_false_iff_ne]
  rintro rfl
  exact h hm

theorem trimBoth_cons {p : Char → Bool} {c : Char} (h : p c = false) (rest : Text) :
    trimBoth p (c :: rest) = trimEnd p (c :: rest) := by
  rw [trimBoth, trimFront, List.dropWhile_cons, h]
  rfl

theorem trimBoth_eq_self {p : Char → Bool} {t : Text} (h : ∀ c ∈ t, p c = false) : trimBoth p t = t := by
  cases t with
  | nil => rfl
  | cons c rest => rw [trimBoth_cons (h c List.mem_cons_self), trimEnd_eq_self h]

theorem trimEnd_eq_nil {p : Char → Bool} {t : Text} (h : ∀ c ∈ t, p c = true) : trimEnd p t = [] := by
  induction t with
  | nil => rfl
  | cons c rest ih =>
    rw [trimEnd, ih fun d hm => h d (List.mem_cons_of_mem _ hm)]
    exact if_pos (h c List.mem_cons_self)

/-- A trim leaves what stands between characters that are to be trimmed. -/
theorem trimBoth_between {p : Char → Bool} {front kept back : Text} (hfront : ∀ c ∈ front, p c = true)
    (hback : ∀ c ∈ back, p c = true) (hkept : ∀ c ∈ kept, p c = false) (hne : kept ≠ []) :
    trimBoth p (front ++ kept ++ back) = kept := by
  obtain ⟨c, rest, rfl⟩ := List.exists_cons_of_ne_nil hne
  have hstart : p c = false := hkept c List.mem_cons_self
  rw [trimBoth, trimFront, List.append_assoc, List.dropWhile_append_of_pos hfront, List.cons_append,
    List.dropWhile_cons_of_neg (by rw [hstart]; decide), ← List.cons_append,
    trimEnd_append_of_nil _ _ (trimEnd_eq_nil hback), trimEnd_eq_self hkept]

theorem mem_trimBoth {p : Char → Bool} {c : Char} {t : Text} (hm : c ∈ t) : c ∈ trimBoth p t ∨ p c = true := by
  rw [← List.takeWhile_append_dropWhile (p := p) (l := t), List.mem_append] at hm
  rcases hm with hfront | hrest
  · exact .inr (List.mem_takeWhile_imp hfront)
  · exact mem_trimEnd hrest

theorem trimEnd_eq_append {p : Char → Bool} {t : Text} (h : trimBoth p t ≠ []) :
    trimEnd p t = t.takeWhile p ++ trimBoth p t := by
  nth_rewrite 1 [← List.takeWhile_append_dropWhile (p := p) (l := t)]
  exact trimEnd_append p _ h

/-- A trim at the end leaves a front of the text. -/
theorem trimEnd_begins (p : Char → Bool) (t : Text) : trimEnd p t <+: t := by
  induction t with
  | nil => exact List.prefix_refl _
  | cons c rest ih =>
    rw [trimEnd]
    cases hrest : trimEnd p rest with
    | nil =>
      rw [apply_ite (· <+: c :: rest)]
      split
      · exact List.nil_prefix
      · exact List.prefix_append [c] rest
    | cons d kept =>
      rw [hrest] at ih
      exact List.cons_prefix_cons.mpr ⟨rfl, ih⟩

theorem head?_of_begins {front t : Text} {c : Char} (hbegins : front <+: t) (h : front.head? = some c) :
    t.head? = some c := by
  obtain ⟨rest, rfl⟩ := hbegins
  rw [List.head?_append, h, Option.some_or]

/-- What is left of a trim begins with a character that was not to be trimmed. -/
theorem head?_trimBoth {p : Char → Bool} {c : Char} {t : Text} (h : (trimBoth p t).head? = some c) : p c = false := by
  have hkept := List.head?_dropWhile_not p t
  have hfront : (t.dropWhile p).head? = some c := head?_of_begins (trimEnd_begins p (trimFront p t)) h
  rwa [hfront] at hkept

theorem trimBoth_trimBoth (p : Char → Bool) (t : Text) : trimBoth p (trimBoth p t) = trimBoth p t := by
  cases htrim : trimBoth p t with
  | nil => rfl
  | cons c rest =>
    have hc : p c = false := head?_trimBoth (by rw [htrim]; rfl)
    have hend : trimEnd p (trimBoth p t) = trimBoth p t := trimEnd_trimEnd p _
    rw [htrim] at hend
    rw [trimBoth_cons hc, hend]

/-! ## Cuts -/

theorem split_lower (sep : Char) (hs : sep.isAlpha = false) (t : Text) :
    split sep (lower t) = (split sep t).map lower := by
  induction t with
  | nil => rfl
  | cons c rest ih =>
    simp only [lower, List.map_cons, split, toLower_eq_iff hs] at ih ⊢
    rw [ih]
    split
    · rfl
    · cases hrest : split sep rest with
      | nil => exact absurd hrest (split_ne_nil sep rest)
      | cons piece pieces => rfl

/-- What does not hold the separator is one piece. -/
theorem split_of_not_mem {sep : Char} {t : Text} (h : sep ∉ t) : split sep t = [t] := by
  induction t with
  | nil => rfl
  | cons c rest ih =>
    have hc : c ≠ sep := fun heq => h (heq ▸ List.mem_cons_self)
    rw [split, if_neg hc, ih fun hm => h (List.mem_cons_of_mem _ hm)]

theorem split_append {sep : Char} {piece : Text} (h : sep ∉ piece) (t : Text) :
    split sep (piece ++ sep :: t) = piece :: split sep t := by
  induction piece with
  | nil => rw [List.nil_append, split, if_pos rfl]
  | cons c rest ih =>
    have hc : c ≠ sep := fun heq => h (heq ▸ List.mem_cons_self)
    rw [List.cons_append, split, if_neg hc, ih fun hm => h (List.mem_cons_of_mem _ hm)]

/-- The pieces of two texts with the separator between them. -/
theorem split_append_sep (sep : Char) (t rest : Text) :
    split sep (t ++ sep :: rest) = split sep t ++ split sep rest := by
  induction t with
  | nil =>
    have hempty : split sep [] = [[]] := rfl
    rw [List.nil_append, hempty, split, if_pos rfl, List.singleton_append]
  | cons c later ih =>
    rw [List.cons_append, split, split, ih]
    by_cases hc : c = sep
    · rw [if_pos hc, if_pos hc, List.cons_append]
    · obtain ⟨piece, pieces, hsplit⟩ := List.exists_cons_of_ne_nil (split_ne_nil sep later)
      rw [if_neg hc, if_neg hc, hsplit]
      rfl

theorem getLast?_split_append (sep : Char) (t rest : Text) :
    (split sep (t ++ sep :: rest)).getLast? = (split sep rest).getLast? := by
  rw [split_append_sep, List.getLast?_append_of_ne_nil _ (split_ne_nil sep rest)]

theorem mem_split_of_mem (sep : Char) {c : Char} {t : Text} (hm : c ∈ t) :
    c = sep ∨ ∃ piece ∈ split sep t, c ∈ piece := by
  induction t with
  | nil => cases hm
  | cons d rest ih =>
    rw [split]
    by_cases hd : d = sep
    · rw [if_pos hd]
      rcases List.mem_cons.mp hm with rfl | hm
      · exact .inl hd
      · refine (ih hm).imp_right ?_
        intro h'
        obtain ⟨piece, hpiece, hc⟩ := h'
        exact ⟨piece, List.mem_cons_of_mem _ hpiece, hc⟩
    · rw [if_neg hd]
      obtain ⟨first, pieces, hsplit⟩ := List.exists_cons_of_ne_nil (split_ne_nil sep rest)
      simp only [hsplit] at ih ⊢
      rcases List.mem_cons.mp hm with rfl | hm
      · exact .inr ⟨_, List.mem_cons_self, List.mem_cons_self⟩
      · rcases ih hm with heq | ⟨piece, hpiece, hc⟩
        · exact .inl heq
        · rcases List.mem_cons.mp hpiece with rfl | hpiece
          · exact .inr ⟨_, List.mem_cons_self, List.mem_cons_of_mem _ hc⟩
          · exact .inr ⟨piece, List.mem_cons_of_mem _ hpiece, hc⟩

/-- Characters in front that are no separators belong to the first piece. -/
theorem split_prepend {sep : Char} {front : Text} (h : sep ∉ front) (t : Text) :
    ∃ piece pieces, split sep t = piece :: pieces ∧ split sep (front ++ t) = (front ++ piece) :: pieces := by
  obtain ⟨piece, pieces, hsplit⟩ := List.exists_cons_of_ne_nil (split_ne_nil sep t)
  refine ⟨piece, pieces, hsplit, ?_⟩
  induction front with
  | nil => exact hsplit
  | cons c rest ih =>
    have hc : c ≠ sep := fun heq => h (heq ▸ List.mem_cons_self)
    rw [List.cons_append, split, if_neg hc, ih fun hm => h (List.mem_cons_of_mem _ hm)]
    rfl

theorem mem_join {sep piece : Text} {pieces : List Text} {c : Char} (hm : piece ∈ pieces) (hc : c ∈ piece) :
    c ∈ join sep pieces := by
  induction pieces with
  | nil => cases hm
  | cons first rest ih =>
    cases rest with
    | nil =>
      rw [List.mem_singleton] at hm
      exact hm ▸ hc
    | cons next later =>
      rw [join_cons _ _ (List.cons_ne_nil next later), List.mem_append, List.mem_append]
      rcases List.mem_cons.mp hm with rfl | hm
      · exact .inl (.inl hc)
      · exact .inr (ih hm)

theorem lower_join (sep : Text) (pieces : List Text) :
    lower (join sep pieces) = join (lower sep) (pieces.map lower) := by
  induction pieces with
  | nil => rfl
  | cons piece rest ih =>
    cases rest with
    | nil => rfl
    | cons next later =>
      have hne : List.map lower (next :: later) ≠ [] := List.cons_ne_nil _ _
      rw [join_cons sep piece (List.cons_ne_nil next later), List.map_cons, join_cons _ _ hne, ← ih]
      simp only [lower, List.map_append]

/-- Pieces that do not hold the separator are the pieces of what they are joined to. -/
theorem split_join (sep : Char) {pieces : List Text} (hne : pieces ≠ []) (h : ∀ piece ∈ pieces, sep ∉ piece) :
    split sep (join [sep] pieces) = pieces := by
  induction pieces with
  | nil => exact absurd rfl hne
  | cons piece rest ih =>
    cases rest with
    | nil => exact split_of_not_mem (h piece List.mem_cons_self)
    | cons next later =>
      have hrest := ih (List.cons_ne_nil _ _) fun p hp => h p (List.mem_cons_of_mem _ hp)
      rw [join_cons _ _ (List.cons_ne_nil _ _), List.append_assoc, List.singleton_append,
        split_append (h piece List.mem_cons_self), hrest]

/-- The end of joined pieces is the end of the last piece, which is not trimmed if it does not hold the
separator. -/
theorem trimEnd_join {sep : Char} {pieces : List Text} (h : ∀ piece ∈ pieces, piece ≠ [] ∧ sep ∉ piece) :
    trimEnd (· == sep) (join [sep] pieces) = join [sep] pieces := by
  induction pieces with
  | nil => rfl
  | cons piece rest ih =>
    cases rest with
    | nil => exact trimEnd_of_not_mem (h piece List.mem_cons_self).2
    | cons next later =>
      have hrest := ih fun p hp => h p (List.mem_cons_of_mem _ hp)
      have hnext : next ≠ [] := (h next (List.mem_cons_of_mem _ List.mem_cons_self)).1
      have hne : join [sep] (next :: later) ≠ [] := by
        obtain ⟨c, hc⟩ := List.exists_mem_of_ne_nil next hnext
        exact List.ne_nil_of_mem (mem_join List.mem_cons_self hc)
      rw [join_cons _ _ (List.cons_ne_nil next later), trimEnd_append _ _ (by rwa [hrest]), hrest]

theorem join_split (sep : Char) (t : Text) : join [sep] (split sep t) = t := by
  induction t with
  | nil => rfl
  | cons c rest ih =>
    rw [split]
    by_cases hc : c = sep
    · rw [if_pos hc, hc]
      cases hsplit : split sep rest with
      | nil => exact absurd hsplit (split_ne_nil sep rest)
      | cons first pieces =>
        rw [hsplit] at ih
        rw [join_cons _ _ (List.cons_ne_nil _ _), ih, List.nil_append, List.singleton_append]
    · rw [if_neg hc]
      cases hsplit : split sep rest with
      | nil => exact absurd hsplit (split_ne_nil sep rest)
      | cons first pieces =>
        rw [hsplit] at ih
        cases pieces with
        | nil => rw [join, ← ih, join]
        | cons next later =>
          have hne := List.cons_ne_nil next later
          rw [join_cons _ _ hne, ← ih, join_cons _ _ hne, List.cons_append, List.cons_append]

theorem mem_of_mem_split {sep c : Char} {t piece : Text} (hm : piece ∈ split sep t) (hc : c ∈ piece) : c ∈ t := by
  have hjoined : c ∈ join [sep] (split sep t) := mem_join hm hc
  rwa [join_split] at hjoined

theorem not_mem_of_mem_split {sep : Char} {t piece : Text} (hm : piece ∈ split sep t) : sep ∉ piece := by
  induction t generalizing piece with
  | nil =>
    obtain rfl := List.mem_singleton.mp hm
    exact List.not_mem_nil
  | cons c rest ih =>
    rw [split] at hm
    by_cases hc : c = sep
    · rw [if_pos hc] at hm
      rcases List.mem_cons.mp hm with rfl | hm
      · exact List.not_mem_nil
      · exact ih hm
    · obtain ⟨first, pieces, hsplit⟩ := List.exists_cons_of_ne_nil (split_ne_nil sep rest)
      rw [if_neg hc, hsplit] at hm
      rw [hsplit] at ih
      rcases List.mem_cons.mp hm with rfl | hm
      · exact List.not_mem_cons_of_ne_of_not_mem (Ne.symm hc) (ih List.mem_cons_self)
      · exact ih (List.mem_cons_of_mem _ hm)

/-- The pieces of a text are those, without the separator in them, that it is joined of. -/
theorem split_eq_iff {sep : Char} {t : Text} {pieces : List Text} (hne : pieces ≠ []) :
    split sep t = pieces ↔ (∀ piece ∈ pieces, sep ∉ piece) ∧ t = join [sep] pieces := by
  constructor
  · rintro rfl
    exact ⟨fun piece hm => not_mem_of_mem_split hm, (join_split sep t).symm⟩
  · rintro ⟨hwhole, rfl⟩
    exact split_join sep hne hwhole

theorem join_concat (sep last : Text) {pieces : List Text} (hne : pieces ≠ []) :
    join sep (pieces ++ [last]) = join sep pieces ++ sep ++ last := by
  induction pieces with
  | nil => exact absurd rfl hne
  | cons piece rest ih =>
    cases rest with
    | nil => rfl
    | cons next later =>
      rw [List.cons_append, join_cons sep piece (List.append_ne_nil_of_left_ne_nil (List.cons_ne_nil next later) _),
        ih (List.cons_ne_nil next later), join_cons sep piece (List.cons_ne_nil next later)]
      simp only [List.append_assoc]

/-- The last piece is the whole text, or what follows a separator. -/
theorem getLast?_split_iff {sep : Char} {t last : Text} (h : sep ∉ last) :
    (split sep t).getLast? = some last ↔ t = last ∨ (sep :: last) <:+ t := by
  refine ⟨?_, ?_⟩
  · intro hlast
    obtain ⟨pieces, hsplit⟩ := List.getLast?_eq_some_iff.mp hlast
    have hjoin := join_split sep t
    rw [hsplit] at hjoin
    by_cases hne : pieces = []
    · subst hne
      exact .inl hjoin.symm
    · rw [join_concat _ _ hne, List.append_assoc, List.singleton_append] at hjoin
      exact .inr ⟨_, hjoin⟩
  · rintro (rfl | ⟨front, rfl⟩)
    · rw [split_of_not_mem h, List.getLast?_singleton]
    · rw [getLast?_split_append, split_of_not_mem h, List.getLast?_singleton]

/-! ## First and last places of a separator -/

theorem cutLast_append {sep : Char} {last : Text} (h : sep ∉ last) (front : Text) :
    cutLast sep (front ++ sep :: last) = some (front, last) := by
  induction front with
  | nil =>
    rw [List.nil_append, cutLast, cutLast_of_not_mem h]
    exact if_pos rfl
  | cons c later ih => rw [List.cons_append, cutLast, ih]

theorem not_mem_of_cutLast {sep : Char} {t : Text} (h : cutLast sep t = none) : sep ∉ t := by
  induction t with
  | nil => exact List.not_mem_nil
  | cons c rest ih =>
    rw [cutLast] at h
    cases hrest : cutLast sep rest with
    | some parts =>
      rw [hrest] at h
      cases h
    | none =>
      have hc : c ≠ sep := by
        rintro rfl
        simp [hrest] at h
      exact List.not_mem_cons_of_ne_of_not_mem hc.symm (ih hrest)

/-- A text is cut where a separator stands for the last time. -/
theorem cutLast_eq_some_iff {sep : Char} {t front last : Text} :
    cutLast sep t = some (front, last) ↔ t = front ++ sep :: last ∧ sep ∉ last := by
  refine ⟨?_, fun ⟨heq, h⟩ => heq ▸ cutLast_append h front⟩
  intro hcut
  induction t generalizing front with
  | nil => cases hcut
  | cons c rest ih =>
    rw [cutLast] at hcut
    cases hrest : cutLast sep rest with
    | some parts =>
      rw [hrest] at hcut
      obtain ⟨rfl, rfl⟩ := Prod.mk.inj (Option.some.inj hcut)
      obtain ⟨hparts, hlast⟩ := ih hrest
      exact ⟨congrArg (c :: ·) hparts, hlast⟩
    | none =>
      rw [hrest] at hcut
      obtain ⟨rfl, hparts⟩ := Option.ite_none_right_eq_some.mp hcut
      obtain ⟨rfl, rfl⟩ := Prod.mk.inj (Option.some.inj hparts)
      exact ⟨rfl, not_mem_of_cutLast hrest⟩

/-- A text is cut where a separator stands for the first time, which is not before its first character does. -/
theorem cutAround_append {first : Char} {front : Text} (h : first ∉ front) (later rest : Text) :
    cutAround (first :: later) (front ++ (first :: later) ++ rest) = some (front, rest) := by
  induction front with
  | nil =>
    have hthere : after? (first :: later) ((first :: later) ++ rest) = some rest := by
      rw [after?, List.isPrefixOf?_eq_some_iff_append_eq]
    rw [List.nil_append, List.cons_append, cutAround, ← List.cons_append, hthere]
  | cons c front ih =>
    have hc : first ≠ c := fun heq => h (heq ▸ List.mem_cons_self)
    have hhere : after? (first :: later) (c :: (front ++ (first :: later) ++ rest)) = none := by
      simp [after?, List.isPrefixOf?, hc]
    rw [List.cons_append, List.cons_append, cutAround, hhere, ih fun hm => h (List.mem_cons_of_mem _ hm)]
    rfl

/-- The parts before and after a separator make up the text with it. -/
theorem eq_append_of_cutAround {sep t front rest : Text} (h : cutAround sep t = some (front, rest)) :
    t = front ++ sep ++ rest := by
  induction t generalizing front with
  | nil =>
    rw [cutAround] at h
    obtain ⟨hsep, hparts⟩ := Option.ite_none_right_eq_some.mp h
    obtain ⟨rfl, rfl⟩ := Prod.mk.inj (Option.some.inj hparts)
    rw [List.isEmpty_iff.mp hsep]
    rfl
  | cons c later ih =>
    rw [cutAround] at h
    cases hhere : after? sep (c :: later) with
    | some tail =>
      rw [hhere] at h
      obtain ⟨rfl, rfl⟩ := Prod.mk.inj (Option.some.inj h)
      exact (List.isPrefixOf?_eq_some_iff_append_eq.mp hhere).symm
    | none =>
      rw [hhere] at h
      obtain ⟨parts, hparts, heq⟩ := Option.map_eq_some_iff.mp h
      obtain ⟨rfl, rfl⟩ := Prod.mk.inj heq
      exact congrArg (c :: ·) (ih hparts)

/-! ## Words -/

theorem eq_nil_of_begins {sep : Char} {word rest : Text} (h : sep ∉ word) (hbegins : word <+: sep :: rest) :
    word = [] := by
  rcases List.prefix_cons_iff.mp hbegins with hnil | ⟨later, rfl, -⟩
  · exact hnil
  · exact absurd List.mem_cons_self h

/-- A word stands on one side of a character that it does not hold. -/
theorem infix_append_cons {sep : Char} {word : Text} (h : sep ∉ word) (front rest : Text) :
    word <:+: front ++ sep :: rest ↔ word <:+: front ∨ word <:+: rest := by
  rw [List.infix_append_iff, List.infix_cons_iff]
  refine ⟨?_, ?_⟩
  · rintro (hfront | (hbegins | hrest) | ⟨start, last, rfl, hstart, hlast⟩)
    · exact .inl hfront
    · exact .inl (eq_nil_of_begins h hbegins ▸ List.nil_infix)
    · exact .inr hrest
    · have hnone : last = [] := eq_nil_of_begins (fun hm => h (List.mem_append_right start hm)) hlast
      exact .inl (by rw [hnone, List.append_nil]; exact hstart.isInfix)
  · rintro (hfront | hrest)
    · exact .inl hfront
    · exact .inr (.inl (.inr hrest))

theorem infix_append_apart {word off : Text} (h : ∀ c ∈ off, c ∉ word) (t : Text) :
    (word <:+: off ++ t ↔ word <:+: t) ∧ (word <:+: t ++ off ↔ word <:+: t) := by
  induction off generalizing t with
  | nil => simp
  | cons c rest ih =>
    have hc : c ∉ word := h c List.mem_cons_self
    have hrest := ih fun d hm => h d (List.mem_cons_of_mem _ hm)
    have hnone : word <:+: [] → word <:+: t := fun hnil => (List.infix_nil.mp hnil) ▸ List.nil_infix
    refine ⟨?_, ?_⟩
    · have hfront := infix_append_cons hc [] (rest ++ t)
      rw [List.nil_append] at hfront
      rw [List.cons_append, hfront, (hrest t).1]
      exact or_iff_right_of_imp hnone
    · have hlater := (hrest []).1
      rw [List.append_nil] at hlater
      rw [infix_append_cons hc, hlater]
      exact or_iff_left_of_imp hnone

/-- A word without separators stands in one of the pieces that are joined. -/
theorem infix_join_iff {sep : Char} {word : Text} (h : sep ∉ word) (hne : word ≠ []) (pieces : List Text) :
    word <:+: join [sep] pieces ↔ ∃ piece ∈ pieces, word <:+: piece := by
  induction pieces with
  | nil => simp [join, hne]
  | cons piece rest ih =>
    cases rest with
    | nil => simp [join]
    | cons next later =>
      rw [join_cons _ _ (List.cons_ne_nil next later), List.append_assoc, List.singleton_append, infix_append_cons h, ih,
        List.exists_mem_cons_iff _ piece]

theorem infix_split_iff {sep : Char} {word : Text} (h : sep ∉ word) (hne : word ≠ []) (t : Text) :
    word <:+: t ↔ ∃ piece ∈ split sep t, word <:+: piece := by
  rw [← infix_join_iff h hne, join_split]

/-- What a trim takes off the end of a text. -/
theorem exists_trimEnd_append (p : Char → Bool) (t : Text) :
    ∃ off, t = trimEnd p t ++ off ∧ ∀ c ∈ off, p c = true := by
  induction t with
  | nil => exact ⟨[], rfl, fun _ hm => absurd hm List.not_mem_nil⟩
  | cons c rest ih =>
    obtain ⟨off, hrest, hoff⟩ := ih
    rw [trimEnd]
    cases hkept : trimEnd p rest with
    | nil =>
      rw [hkept, List.nil_append] at hrest
      by_cases hc : p c = true
      · refine ⟨c :: rest, by simp [hc], ?_⟩
        rw [hrest]
        exact List.forall_mem_cons.mpr ⟨hc, hoff⟩
      · exact ⟨off, by simp [hc, hrest], hoff⟩
    | cons d kept =>
      rw [hkept] at hrest
      exact ⟨off, congrArg (c :: ·) hrest, hoff⟩

/-- A word stays in a text, in lower case, that is trimmed of characters which the word does not hold. -/
theorem infix_lower_trimBoth_iff {p : Char → Bool} {word : Text} (h : ∀ c, p c = true → c.toLower ∉ word) (t : Text) :
    word <:+: lower (trimBoth p t) ↔ word <:+: lower t := by
  have apart : ∀ {off : Text}, (∀ c ∈ off, p c = true) → ∀ c ∈ lower off, c ∉ word := by
    intro off hoff c hm
    obtain ⟨d, hd, rfl⟩ := List.mem_map.mp hm
    exact h d (hoff d hd)
  obtain ⟨off, hend, hoff⟩ := exists_trimEnd_append p (t.dropWhile p)
  have hfront : ∀ c ∈ t.takeWhile p, p c = true := fun _ hm => List.mem_takeWhile_imp hm
  have hwhole : lower t = lower (t.takeWhile p) ++ (lower (trimBoth p t) ++ lower off) := by
    rw [trimBoth, trimFront, lower, lower, lower, lower, ← List.map_append, ← List.map_append, ← hend,
      List.takeWhile_append_dropWhile]
  rw [hwhole, (infix_append_apart (apart hfront) _).1, (infix_append_apart (apart hoff) _).2]

theorem holds_iff (part t : Text) : holds part t = true ↔ part <:+: t := by
  induction t with
  | nil =>
    rw [holds, cutAround, List.infix_nil]
    cases part <;> simp
  | cons c rest ih =>
    rw [holds] at ih
    rw [holds, cutAround, List.infix_cons_iff, ← ih]
    cases hhere : after? part (c :: rest) with
    | some tail =>
      have hbegins : part <+: c :: rest := ⟨tail, List.isPrefixOf?_eq_some_iff_append_eq.mp hhere⟩
      simp [hbegins]
    | none =>
      have hnot : ¬ part <+: c :: rest := by
        rintro ⟨tail, htail⟩
        rw [after?, List.isPrefixOf?_eq_some_iff_append_eq.mpr htail] at hhere
        cases hhere
      simp [hnot]

/-! ## Numbers -/

theorem isDigit_of_mem_ofNat {c : Char} {n : Nat} (hm : c ∈ ofNat n) : c.isDigit = true :=
  Nat.isDigit_of_mem_toDigits (by decide) (by decide) hm

theorem ofNat_ne_nil (n : Nat) : ofNat n ≠ [] := Nat.toDigits_ne_nil

theorem decimal?_ofNat (n : Nat) : decimal? (ofNat n) = some n := by
  have hdigits : (ofNat n).all Char.isDigit = true := List.all_eq_true.mpr fun c hm => isDigit_of_mem_ofNat hm
  rw [decimal?, if_pos ⟨ofNat_ne_nil n, hdigits⟩, ofNat, Nat.ofDigitChars_toDigits (by decide) (by decide)]

/-- The digits of a number are read as the number, if it is not beyond the limit. -/
theorem bounded?_ofNat (limit n : Nat) : bounded? limit (ofNat n) = if n ≤ limit then some n else none := by
  have hsign : ∀ rest, ofNat n ≠ '+' :: rest := by
    intro rest heq
    have hdigit : ('+' : Char).isDigit = true := isDigit_of_mem_ofNat (n := n) (heq ▸ List.mem_cons_self)
    exact absurd hdigit (by decide)
  unfold bounded?
  split
  · rename_i rest heq
    exact absurd heq (hsign rest)
  · simp only [decimal?_ofNat, Option.filter_some, decide_eq_true_eq]

theorem le_of_bounded? {limit n : Nat} {t : Text} (h : bounded? limit t = some n) : n ≤ limit := by
  unfold bounded? at h
  exact of_decide_eq_true (Option.filter_eq_some_iff.mp h).2

/-! ## Blanks -/

theorem mem_of_mem_trim {c : Char} {t : Text} (hm : c ∈ trim t) : c ∈ t :=
  (List.dropWhile_sublist _).subset ((trimEnd_begins _ _).subset hm)

theorem isBlank_of_isDigit {c : Char} (h : c.isDigit = true) : isBlank c = false := by
  have hval : c.toNat = c.val.toNat := rfl
  simp only [Char.isDigit, Bool.and_eq_true, decide_eq_true_eq, ge_iff_le, UInt32.le_iff_toNat_le] at h
  simp [isBlank, blankRanges] at h ⊢
  omega

/-- The only blanks among the characters that can be read in a field value are the space and the tab. -/
theorem isBlank_of_visible {c : Char} (h : c.toNat = 9 ∨ 32 ≤ c.toNat ∧ c.toNat < 127) :
    isBlank c = (c == ' ' || c == '\t') := by
  have hspace : (c == ' ') = decide (c.toNat = 32) := by
    rw [Bool.eq_iff_iff, beq_iff_eq, decide_eq_true_eq, ← Char.toNat_inj]
    rfl
  have htab : (c == '\t') = decide (c.toNat = 9) := by
    rw [Bool.eq_iff_iff, beq_iff_eq, decide_eq_true_eq, ← Char.toNat_inj]
    rfl
  rw [hspace, htab, Bool.eq_iff_iff]
  simp [isBlank, blankRanges]
  omega

/-- A number at the end of a text keeps its end from being trimmed. -/
theorem trim_append_ofNat (front : Text) (sep : Char) (hsep : isBlank sep = false) (n : Nat) :
    trim (front ++ sep :: ofNat n) = trimFront isBlank front ++ sep :: ofNat n := by
  have hdigits : trimEnd isBlank (ofNat n) = ofNat n :=
    trimEnd_eq_self fun c hm => isBlank_of_isDigit (isDigit_of_mem_ofNat hm)
  have hne : trimEnd isBlank (ofNat n) ≠ [] := by
    rw [hdigits]
    exact ofNat_ne_nil n
  have hend : ∀ t : Text, trimEnd isBlank (t ++ sep :: ofNat n) = t ++ sep :: ofNat n := by
    intro t
    have hkept := trimEnd_append isBlank (t ++ [sep]) hne
    rwa [hdigits, List.append_assoc, List.singleton_append] at hkept
  have hfront : trimFront isBlank (front ++ sep :: ofNat n) = trimFront isBlank front ++ sep :: ofNat n := by
    rw [trimFront, trimFront, List.dropWhile_append]
    split
    · rename_i hnone
      rw [List.isEmpty_iff.mp hnone, List.dropWhile_cons_of_neg (by rw [hsep]; decide), List.nil_append]
    · rfl
  rw [trim, trimBoth, hfront, hend]

end Gatehouse.Text
