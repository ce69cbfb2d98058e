import Gatehouse.Idna.Label
import Gatehouse.Proofs.Text

/-!
What is shown of names whose first label is in punycode. Main statement: it holds a character beyond ASCII
(`toUnicode?_beyond_ascii`), since the mark of punycode stays in front when a name is mapped and composed,
and digits that stand for ASCII characters only are refused.
-/

namespace Gatehouse.Idna

/-! ## Tables -/

set_option maxRecDepth 1000000 in
/-- Composed characters and marks are beyond ASCII, and no composed character starts with a hyphen. -/
theorem composedTable_beyond_ascii :
    (composedTable.all fun e => decide (128 ≤ e.whole.toNat) && e.first != '-' && decide (128 ≤ e.second.toNat)) =
      true := by
  rw [composedTable, Text.entries, show composedText.toList = _ from String.toList_ofList]
  decide +kernel

set_option maxRecDepth 1000000 in
theorem markClasses_beyond_latin :
    (markClasses.all fun e => e.2.all fun range => decide (0x300 ≤ range.first)) = true := by
  rw [markClasses, Text.entries, show classesText.toList = _ from String.toList_ofList]
  decide +kernel

set_option maxRecDepth 1000000 in
/-- All ASCII characters but the capitals may stand in a label. -/
theorem allowedRanges_ascii :
    (allowedRanges.any fun range => range.first == 0 && range.last == 0x40) = true ∧
      (allowedRanges.any fun range => range.first == 0x5B && range.last == 0x7F) = true := by
  rw [allowedRanges, Text.Range.ofTable, Text.entries, show allowedText.toList = _ from String.toList_ofList]
  decide +kernel

variable {a b c : Char} {t : Text}

theorem allowed_ascii (h : c.toNat ≤ 0x40 ∨ 0x5B ≤ c.toNat ∧ c.toNat ≤ 0x7F) : allowed c = true := by
  obtain ⟨hlow, hhigh⟩ := allowedRanges_ascii
  rw [List.any_eq_true] at hlow hhigh
  obtain ⟨low, hmlow, hlow⟩ := hlow
  obtain ⟨high, hmhigh, hhigh⟩ := hhigh
  simp only [Bool.and_eq_true, beq_iff_eq] at hlow hhigh
  rw [allowed, Text.within, List.any_eq_true]
  rcases h with h | h
  · exact ⟨low, hmlow, by simp only [Text.Range.holds, hlow]; simp; omega⟩
  · exact ⟨high, hmhigh, by simp only [Text.Range.holds, hhigh]; simp; omega⟩

theorem parts?_ascii (h : c.toNat < 128) : parts? c = none := by
  have hsyllable : syllableParts? c = none := by
    rw [syllableParts?, if_pos (.inl (by simp only [syllableBase]; omega))]
  have hfind : composedTable.find? (·.whole == c) = none := by
    rw [List.find?_eq_none]
    intro e hm heq
    have htable := List.all_eq_true.mp composedTable_beyond_ascii e hm
    simp only [Bool.and_eq_true, decide_eq_true_eq] at htable
    rw [beq_iff_eq.mp heq] at htable
    omega
  simp only [parts?, hsyllable, hfind, Option.map_none]

theorem whole?_ascii (a : Char) (h : b.toNat < 128) : whole? a b = none := by
  have hsyllable : syllable? a b = none := by
    simp only [syllable?]
    rw [if_neg (by omega), if_neg (by omega)]
  have hfind : composedTable.find? (fun e => e.first == a && e.second == b) = none := by
    rw [List.find?_eq_none]
    intro e hm heq
    have htable := List.all_eq_true.mp composedTable_beyond_ascii e hm
    simp only [Bool.and_eq_true, decide_eq_true_eq] at htable
    rw [Bool.and_eq_true, beq_iff_eq, beq_iff_eq] at heq
    rw [heq.2] at htable
    omega
  simp only [whole?, hsyllable, hfind, Option.map_none]

theorem whole?_hyphen (b : Char) : whole? '-' b = none := by
  have hsyllable : syllable? '-' b = none := by
    simp only [syllable?]
    rw [if_neg (by simp), if_neg (by simp [syllableBase])]
  have hfind : composedTable.find? (fun e => e.first == '-' && e.second == b) = none := by
    rw [List.find?_eq_none]
    intro e hm heq
    have htable := List.all_eq_true.mp composedTable_beyond_ascii e hm
    simp only [Bool.and_eq_true, decide_eq_true_eq, bne_iff_ne] at htable
    rw [Bool.and_eq_true, beq_iff_eq, beq_iff_eq] at heq
    exact htable.1.2 heq.1
  simp only [whole?, hsyllable, hfind, Option.map_none]

theorem markClass_latin (h : c.toNat < 0x300) : markClass c = 0 := by
  have hfind : markClasses.find? (fun e => Text.within e.2 c) = none := by
    rw [List.find?_eq_none]
    intro e hm hwithin
    obtain ⟨range, hrange, hholds⟩ := List.any_eq_true.mp hwithin
    have htable := List.all_eq_true.mp (List.all_eq_true.mp markClasses_beyond_latin e hm) range hrange
    simp only [Text.Range.holds, Bool.and_eq_true, decide_eq_true_eq] at htable hholds
    omega
  rw [markClass, hfind]
  rfl

theorem markClass_ascii (h : c.toNat < 128) : markClass c = 0 := markClass_latin (by omega)

/-! ## Mapping and composing -/

theorem mapText?_cons_of_allowed (h : allowed c = true) (t : Text) :
    mapText? (c :: t) = (mapText? t).map (c :: ·) := by
  have hc : mapped? c = some [c] := by rw [mapped?, if_pos h]
  rw [mapText?, List.mapM_cons, hc]
  simp only [mapText?]
  cases t.mapM mapped? <;> rfl

theorem insertMark_of_class (h : markClass c = 0) (t : Text) : insertMark c t = c :: t := by
  cases t with
  | nil => rfl
  | cons d rest =>
    rw [insertMark, h, if_neg (by omega)]

/-- ASCII characters in front of a text stay there when the text is taken apart and put in order. -/
theorem order_takeApart_cons (h : c.toNat < 128) (t : Text) :
    order ((c :: t).flatMap (takeApart 2)) = c :: order (t.flatMap (takeApart 2)) := by
  have hc : takeApart 2 c = [c] := by simp only [takeApart, parts?_ascii h]
  rw [List.flatMap_cons, hc, List.singleton_append, order, List.foldr_cons, insertMark_of_class (markClass_ascii h)]
  rfl

theorem composeFrom_cons_ascii (h : b.toNat < 128) (t : Text) :
    composeFrom a [] (b :: t) = a :: composeFrom b [] t := by
  rw [composeFrom]
  simp [whole?_ascii a h, markClass_ascii h]

theorem composeFrom_hyphen (marks t : Text) : ∃ rest, composeFrom '-' marks t = '-' :: rest := by
  induction t generalizing marks with
  | nil => exact ⟨marks, rfl⟩
  | cons c rest ih =>
    rw [composeFrom]
    simp only [whole?_hyphen, ite_self]
    split
    · exact ⟨_, rfl⟩
    · exact ih _

theorem composedForm_mark (t : Text) : ∃ rest, composedForm (punycodeMark ++ t) = punycodeMark ++ rest := by
  have hmark : punycodeMark ++ t = 'x' :: 'n' :: '-' :: '-' :: t := rfl
  obtain ⟨rest, hrest⟩ := composeFrom_hyphen [] (order (t.flatMap (takeApart 2)))
  refine ⟨rest, ?_⟩
  rw [hmark, composedForm, order_takeApart_cons (by decide), order_takeApart_cons (by decide),
    order_takeApart_cons (by decide), order_takeApart_cons (by decide), compose, if_pos (markClass_ascii (by decide)),
    composeFrom_cons_ascii (by decide), composeFrom_cons_ascii (by decide), composeFrom_cons_ascii (by decide), hrest]
  rfl

theorem mapText?_mark (t : Text) : mapText? (punycodeMark ++ t) = (mapText? t).map (punycodeMark ++ ·) := by
  have hmark : punycodeMark ++ t = 'x' :: 'n' :: '-' :: '-' :: t := rfl
  rw [hmark, mapText?_cons_of_allowed (allowed_ascii (by decide)), mapText?_cons_of_allowed (allowed_ascii (by decide)),
    mapText?_cons_of_allowed (allowed_ascii (by decide)), mapText?_cons_of_allowed (allowed_ascii (by decide))]
  cases mapText? t <;> rfl

/-! ## Labels -/

/-- Digits stand for a label that is not all ASCII. -/
theorem decodeDigits?_beyond_ascii {digits label : Text} (h : decodeDigits? digits = some label) :
    ∃ c ∈ label, 128 ≤ c.toNat := by
  rw [decodeDigits?] at h
  split at h
  · obtain ⟨decoded, -, hchecked⟩ := Option.bind_eq_some_iff.mp h
    split at hchecked
    · rename_i hcheck
      obtain rfl := Option.some.inj hchecked
      simp only [Bool.and_eq_true, Bool.not_eq_true'] at hcheck
      obtain ⟨c, hm, hc⟩ := List.all_eq_false.mp hcheck.1.2
      exact ⟨c, hm, Nat.not_lt.mp fun hlt => hc (decide_eq_true hlt)⟩
    · cases hchecked
  · cases h

theorem after?_mark (digits : Text) : Text.after? punycodeMark (punycodeMark ++ digits) = some digits := rfl

theorem decodeLabel?_mark {digits label : Text} (h : decodeLabel? (punycodeMark ++ digits) = some label) :
    ∃ c ∈ label, 128 ≤ c.toNat := by
  rw [decodeLabel?, after?_mark] at h
  exact decodeDigits?_beyond_ascii (Option.filter_eq_some_iff.mp h).1

theorem toUnicode?_beyond_ascii {t shown : Text} (h : toUnicode? (punycodeMark ++ t) = some shown) :
    ∃ c ∈ shown, 128 ≤ c.toNat := by
  obtain ⟨labels, hlabels, rfl⟩ := Option.map_eq_some_iff.mp h
  rw [labels?] at hlabels
  obtain ⟨mapped, hmapped, hrest⟩ := Option.bind_eq_some_iff.mp hlabels
  rw [mapText?_mark] at hmapped
  obtain ⟨tail, -, rfl⟩ := Option.map_eq_some_iff.mp hmapped
  obtain ⟨composed, hcomposed⟩ := composedForm_mark tail
  have hdot : '.' ∉ punycodeMark := by simp [punycodeMark]
  obtain ⟨piece, pieces, -, hsplit⟩ := Text.split_prepend hdot composed
  simp only [hcomposed, hsplit] at hrest
  split at hrest
  · cases hrest
  · obtain ⟨decoded, hdecoded, hfits⟩ := Option.bind_eq_some_iff.mp hrest
    split at hfits
    · obtain rfl := Option.some.inj hfits
      -- the first label is the one behind the mark
      rw [List.mapM_cons] at hdecoded
      obtain ⟨first, hfirst, hmore⟩ := Option.bind_eq_some_iff.mp hdecoded
      obtain ⟨more, -, heq⟩ := Option.bind_eq_some_iff.mp hmore
      obtain rfl := Option.some.inj heq
      obtain ⟨c, hm, hc⟩ := decodeLabel?_mark hfirst
      exact ⟨c, Text.mem_join List.mem_cons_self hm, hc⟩
    · cases hfits

/-! ## A letter that is shown -/

set_option maxRecDepth 1000000 in
theorem marks_beyond_latin :
    (nonspacingRanges.all fun range => decide (0x300 ≤ range.first)) = true ∧
      (spacingRanges.all fun range => decide (0x300 ≤ range.first)) = true := by
  rw [nonspacingRanges, spacingRanges, Text.Range.ofTable, Text.Range.ofTable, Text.entries, Text.entries,
    show nonspacingText.toList = _ from String.toList_ofList, show spacingText.toList = _ from String.toList_ofList]
  decide +kernel

set_option maxRecDepth 1000000 in
theorem rightward_beyond_latin :
    (directionTable.all fun e => !e.1.isRightward || e.2.all fun range => decide (0x300 ≤ range.first)) = true := by
  simp only [directionTable, Text.Range.ofTable, Text.entries, show rightText.toList = _ from String.toList_ofList,
    show arabicText.toList = _ from String.toList_ofList, show arabicDigitText.toList = _ from String.toList_ofList]
  decide +kernel

theorem not_within {ranges : List Text.Range} (h : (ranges.all fun range => decide (0x300 ≤ range.first)) = true)
    (hc : c.toNat < 0x300) : Text.within ranges c = false := by
  rw [Text.within, List.any_eq_false]
  intro range hm hholds
  have hfirst := of_decide_eq_true (List.all_eq_true.mp h range hm)
  simp only [Text.Range.holds, Bool.and_eq_true, decide_eq_true_eq] at hholds
  omega

theorem isMark_latin (h : c.toNat < 0x300) : isMark c = false := by
  rw [isMark, not_within marks_beyond_latin.1 h, not_within marks_beyond_latin.2 h]
  rfl

theorem isRightward_latin (h : c.toNat < 0x300) : (direction c).isRightward = false := by
  rw [direction, not_within marks_beyond_latin.1 h]
  simp only [Bool.false_eq_true, if_false]
  cases hfind : directionTable.find? (fun e => Text.within e.2 c) with
  | none => rfl
  | some e =>
    have hwithin := List.find?_some hfind
    have htable := List.all_eq_true.mp rightward_beyond_latin e (List.mem_of_find?_eq_some hfind)
    rw [Bool.or_eq_true, Bool.not_eq_true'] at htable
    rcases htable with hleft | hbeyond
    · exact hleft
    · rw [not_within hbeyond h] at hwithin
      cases hwithin

set_option maxRecDepth 1000000 in
theorem eszett_tables : allowed 'ß' = true ∧ parts? 'ß' = none := by
  rw [allowed, allowedRanges, Text.Range.ofTable, Text.entries, show allowedText.toList = _ from String.toList_ofList,
    parts?, composedTable, Text.entries, show composedText.toList = _ from String.toList_ofList]
  decide +kernel

theorem mapText?_of_allowed {t : Text} (h : ∀ c ∈ t, allowed c = true) : mapText? t = some t := by
  induction t with
  | nil => rfl
  | cons c rest ih =>
    rw [mapText?_cons_of_allowed (h c List.mem_cons_self), ih fun c hm => h c (List.mem_cons_of_mem _ hm)]
    rfl

theorem composeFrom_ascii {t : Text} (h : ∀ c ∈ t, c.toNat < 128) (a : Char) : composeFrom a [] t = a :: t := by
  induction t generalizing a with
  | nil => rfl
  | cons b rest ih =>
    rw [composeFrom_cons_ascii (h b List.mem_cons_self), ih fun c hm => h c (List.mem_cons_of_mem _ hm)]

/-- ASCII text is in composed form. -/
theorem composedForm_ascii {t : Text} (h : ∀ c ∈ t, c.toNat < 128) : composedForm t = t := by
  have horder : order (t.flatMap (takeApart 2)) = t := by
    induction t with
    | nil => rfl
    | cons c rest ih =>
      rw [order_takeApart_cons (h c List.mem_cons_self), ih fun c hm => h c (List.mem_cons_of_mem _ hm)]
  rw [composedForm, horder]
  cases t with
  | nil => rfl
  | cons c rest =>
    rw [compose, if_pos (markClass_ascii (h c List.mem_cons_self)),
      composeFrom_ascii fun c hm => h c (List.mem_cons_of_mem _ hm)]

/-- A letter that has no parts is in composed form. -/
theorem composedForm_single (hparts : parts? c = none) (hclass : markClass c = 0) : composedForm [c] = [c] := by
  have htake : takeApart 2 c = [c] := by simp only [takeApart, hparts]
  rw [composedForm, List.flatMap_cons, htake, List.flatMap_nil, List.append_nil, order, List.foldr_cons,
    List.foldr_nil, insertMark, compose, if_pos hclass]
  rfl

theorem labelFits_single (hc : c.toNat < 0x300) : labelFits [c] = true := by
  have hnonJoiner : c ≠ nonJoiner := fun heq => absurd hc (heq ▸ by decide)
  have hjoiner : c ≠ joiner := fun heq => absurd hc (heq ▸ by decide)
  have hjoiners : joinersFit [] [c] = true := by simp [joinersFit, hnonJoiner, hjoiner]
  have hone : 1 ≤ maxDecoded := by
    rw [maxDecoded]
    omega
  have hlength : decide (List.length [c] ≤ maxDecoded) = true := decide_eq_true hone
  rw [labelFits, List.head?_cons, Option.any_some, isMark_latin hc, hjoiners, hlength, Bool.or_true]
  rfl

theorem decodeDigits?_single {digits : Text}
    (hdigits : Text.isAscii digits = true ∧ digits.getLast? ≠ some '-' ∧ digits.length ≤ maxDigits)
    (hdecode : Punycode.decode digits = some [c]) (hallowed : allowed c = true) (hparts : parts? c = none)
    (hc : 128 ≤ c.toNat ∧ c.toNat < 0x300) : decodeDigits? digits = some [c] := by
  have hbeyond : Text.isAscii [c] = false := by simp [Text.isAscii, hc.1]
  have hcheck : (List.all [c] allowed && !Text.isAscii [c] && composedForm [c] == [c]) = true := by
    rw [composedForm_single hparts (markClass_latin hc.2), hbeyond]
    simp [hallowed]
  rw [decodeDigits?, if_pos hdigits, hdecode, Option.bind_eq_bind, Option.bind_some, if_pos hcheck]

/-- The characters of a label in punycode without basic characters. -/
theorem char_of_marked {digits : Text} (hdigits : ∀ d ∈ digits, 97 ≤ d.toNat ∧ d.toNat ≤ 122) :
    ∀ d ∈ punycodeMark ++ digits, d = '-' ∨ 97 ≤ d.toNat ∧ d.toNat ≤ 122 := by
  intro d hm
  rcases List.mem_append.mp hm with hm | hm
  · rw [show punycodeMark = ['x', 'n', '-', '-'] from rfl] at hm
    simp only [List.mem_cons, List.not_mem_nil, or_false] at hm
    rcases hm with rfl | rfl | rfl | rfl <;> decide
  · exact .inr (hdigits d hm)

theorem decodeLabel?_single {digits : Text} (hdigits : ∀ d ∈ digits, 97 ≤ d.toNat ∧ d.toNat ≤ 122)
    (hlength : digits.length ≤ maxDigits) (hdecode : Punycode.decode digits = some [c]) (hallowed : allowed c = true)
    (hparts : parts? c = none) (hc : 128 ≤ c.toNat ∧ c.toNat < 0x300) :
    decodeLabel? (punycodeMark ++ digits) = some [c] := by
  have hlast : digits.getLast? ≠ some '-' := fun h => absurd (hdigits '-' (List.mem_of_getLast? h)) (by decide)
  have hplain : Text.isAscii digits = true := by
    refine List.all_eq_true.mpr fun d hm => decide_eq_true ?_
    have := hdigits d hm
    omega
  rw [decodeLabel?, after?_mark]
  simp only [decodeDigits?_single ⟨hplain, hlast, hlength⟩ hdecode hallowed hparts hc]
  rw [Option.filter_some, if_pos (labelFits_single hc.2)]

/-- A label in punycode that stands for one letter without parts is shown as this letter. -/
theorem toUnicode?_single {digits : Text} (hdigits : ∀ d ∈ digits, 97 ≤ d.toNat ∧ d.toNat ≤ 122)
    (hlength : digits.length ≤ maxDigits) (hdecode : Punycode.decode digits = some [c]) (hallowed : allowed c = true)
    (hparts : parts? c = none) (hc : 128 ≤ c.toNat ∧ c.toNat < 0x300) :
    toUnicode? (punycodeMark ++ digits) = some [c] := by
  have hchar := char_of_marked hdigits
  have hascii : ∀ d ∈ punycodeMark ++ digits, d.toNat < 128 := by
    intro d hm
    rcases hchar d hm with rfl | h
    · decide
    · omega
  have hmapped : ∀ d ∈ punycodeMark ++ digits, allowed d = true := by
    intro d hm
    rcases hchar d hm with rfl | h
    · exact allowed_ascii (by decide)
    · exact allowed_ascii (by omega)
  have hdot : '.' ∉ punycodeMark ++ digits := fun hm => absurd (hchar '.' hm) (by decide)
  have hlabels : [punycodeMark ++ digits].mapM decodeLabel? = some [[c]] := by
    rw [List.mapM_cons, decodeLabel?_single hdigits hlength hdecode hallowed hparts hc, List.mapM_nil]
    rfl
  have hdirections : directionsFit [[c]] = true := by simp [directionsFit, isRightward_latin hc.2]
  have hrefused : (punycodeMark ++ digits).any (fun _ => false) = false := by simp
  rw [toUnicode?, labels?, mapText?_of_allowed hmapped, Option.bind_eq_bind, Option.bind_some,
    composedForm_ascii hascii]
  simp only [hrefused, Bool.false_eq_true, if_false]
  rw [Text.split_of_not_mem hdot, hlabels, Option.bind_eq_bind, Option.bind_some, if_pos hdirections]
  rfl

theorem decode_eszett : Punycode.decode ['z', 'c', 'a'] = some ['ß'] := by
  have hread : Punycode.readNumber 72 36 1 0 ['z', 'c', 'a'] = some (95, []) := by decide
  have hchar : Punycode.charOf? 223 = some 'ß' := by decide
  have hcut : Text.cutLast '-' ['z', 'c', 'a'] = none := by decide
  have hdone : ∀ next place bias, Punycode.insertAll ['ß'] next place bias false [] = some ['ß'] := by
    intro next place bias
    rw [Punycode.insertAll, if_pos rfl]
  rw [Punycode.decode, hcut]
  simp only []
  rw [Punycode.insertAll, if_neg (by decide), hread]
  simp [hchar, hdone]

theorem toUnicode?_eszett : toUnicode? (punycodeMark ++ ['z', 'c', 'a']) = some ['ß'] := by
  have hlength : 3 ≤ maxDigits := by
    rw [maxDigits]
    omega
  have hdigits : ∀ d ∈ ['z', 'c', 'a'], 97 ≤ d.toNat ∧ d.toNat ≤ 122 := by
    intro d hm
    simp only [List.mem_cons, List.not_mem_nil, or_false] at hm
    rcases hm with rfl | rfl | rfl <;> decide
  have hlatin : 128 ≤ 'ß'.toNat ∧ 'ß'.toNat < 0x300 := by decide
  obtain ⟨hallowed, hparts⟩ := eszett_tables
  exact toUnicode?_single hdigits hlength decode_eszett hallowed hparts hlatin

end Gatehouse.Idna
