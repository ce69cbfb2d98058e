import Gatehouse.Proofs.Text
import Gatehouse.Text.Percent

/-!
Percent coding as what may be written for bytes: of the many codings of a text every one is read as this text. Main
statements: `Codes.unescape?`, and `codes_escape` for the coding that `escape` chooses.
-/

namespace Gatehouse.Text

/-- What may be written for bytes: `%` with two hexadecimal digits for any byte, an ASCII character for its own byte unless
it is one of the special ones and, where there is one, the character `blank?` for a space. -/
inductive Codes (special : List Char) (blank? : Option Char) : Text → Bytes → Prop where
  | nil : Codes special blank? [] []
  | bare {c : Char} {coded : Text} {bytes : Bytes} (stands : c ∉ special) (ascii : c.toNat < 128)
      (rest : Codes special blank? coded bytes) : Codes special blank? (c :: coded) (UInt8.ofNat c.toNat :: bytes)
  | blank {c : Char} {coded : Text} {bytes : Bytes} (stands : blank? = some c) (rest : Codes special blank? coded bytes) :
      Codes special blank? (c :: coded) (0x20 :: bytes)
  | escaped {hi lo : Char} {h l : Nat} {coded : Text} {bytes : Bytes} (high : hexDigit? hi = some h)
      (low : hexDigit? lo = some l) (rest : Codes special blank? coded bytes) :
      Codes special blank? ('%' :: hi :: lo :: coded) (UInt8.ofNat (16 * h + l) :: bytes)

variable {special : List Char} {blank? : Option Char} {coded : Text} {bytes : Bytes}

/-! ## Digits -/

theorem isAlphanum_of_hexDigit? {c : Char} {n : Nat} (h : hexDigit? c = some n) : c.isAlphanum = true := by
  have hval : c.toNat = c.val.toNat := rfl
  rw [hexDigit?] at h
  split at h
  · rename_i hdigit
    rw [Char.isAlphanum, hdigit, Bool.or_true]
  · split at h
    · rename_i hlower
      simp only [Char.le_def, UInt32.le_iff_toNat_le] at hlower
      simp [Char.isAlphanum, Char.isAlpha, Char.isLower, Char.isUpper, Char.isDigit, UInt32.le_iff_toNat_le] at hlower ⊢
      omega
    · split at h
      · rename_i hupper
        simp only [Char.le_def, UInt32.le_iff_toNat_le] at hupper
        simp [Char.isAlphanum, Char.isAlpha, Char.isLower, Char.isUpper, Char.isDigit, UInt32.le_iff_toNat_le] at hupper ⊢
        omega
      · cases h

theorem ne_of_hexDigit? {c d : Char} {n : Nat} (h : hexDigit? c = some n) (hd : d.isAlphanum = false) : c ≠ d := by
  rintro rfl
  rw [isAlphanum_of_hexDigit? h] at hd
  cases hd

theorem ascii_of_hexDigit? {c : Char} {n : Nat} (h : hexDigit? c = some n) : c.toNat < 128 :=
  toNat_lt_of_isAlphanum (isAlphanum_of_hexDigit? h)

/-- The digits that `escape` writes are read as their values. -/
theorem hexDigit?_digitChar {n : Nat} (h : n < 16) : hexDigit? (Nat.digitChar n).toUpper = some n := by
  have hall : ∀ k < 16, hexDigit? (Nat.digitChar k).toUpper = some k := by decide
  exact hall n h

/-! ## Bytes of ASCII characters -/

theorem ofNat_toByte {c : Char} (h : c.toNat < 128) : Char.ofNat (UInt8.ofNat c.toNat).toNat = c := by
  rw [UInt8.toNat_ofNat', Nat.mod_eq_of_lt (by omega), Char.ofNat_toNat]

theorem utf8_cons {c : Char} (h : c.toNat < 128) (t : Text) : utf8 (c :: t) = UInt8.ofNat c.toNat :: utf8 t := by
  have hone := utf8_of_ascii (t := [c]) (by simpa using h)
  rw [utf8, List.flatMap_cons, List.flatMap_nil, List.append_nil] at hone
  rw [utf8, List.flatMap_cons, hone]
  rfl

/-- ASCII has no faulty pieces. -/
theorem ofUtf8Lossy_ascii {t : Text} (h : ∀ c ∈ t, c.toNat < 128) : ofUtf8Lossy (utf8 t) = t := by
  induction t with
  | nil => rfl
  | cons c rest ih =>
    have hc : c.toNat < 128 := h c List.mem_cons_self
    have hlength : sequenceLength (UInt8.ofNat c.toNat) = some 1 := by
      rw [sequenceLength, if_pos]
      rw [UInt8.lt_iff_toNat_lt, UInt8.toNat_ofNat', Nat.mod_eq_of_lt (by omega)]
      exact hc
    have hchar : [UInt8.ofNat c.toNat].toByteArray.utf8DecodeChar? 0 = some c := by
      have hdecode := ByteArray.utf8DecodeChar?_utf8EncodeChar_append (b := ByteArray.empty) (c := c)
      have hone := utf8_cons hc []
      rw [utf8, List.flatMap_cons, List.flatMap_nil, List.append_nil, utf8, List.flatMap_nil] at hone
      rwa [hone, ByteArray.append_empty] at hdecode
    rw [utf8_cons hc, ofUtf8Lossy_cons hlength hchar, ih fun d hm => h d (List.mem_cons_of_mem _ hm)]

theorem hexByteDigit?_toByte {c : Char} (h : c.toNat < 128) : hexByteDigit? (UInt8.ofNat c.toNat) = hexDigit? c := by
  rw [hexByteDigit?, ofNat_toByte h]

/-! ## Reading -/

theorem percentDecode_other {b : UInt8} (h : b ≠ 0x25) (rest : Bytes) :
    percentDecode (b :: rest) = b :: percentDecode rest := by
  rw [percentDecode]
  intro hi lo later heq
  exact absurd heq h

theorem percentDecode_escaped {hi lo : UInt8} {h l : Nat} (high : hexByteDigit? hi = some h)
    (low : hexByteDigit? lo = some l) (rest : Bytes) :
    percentDecode (0x25 :: hi :: lo :: rest) = UInt8.ofNat (16 * h + l) :: percentDecode rest := by
  rw [percentDecode, high, low]

/-- Every coding is read as what it stands for, if `%` does not stand for itself. -/
theorem Codes.percentDecode (h : Codes special none coded bytes) (hmark : '%' ∈ special) :
    percentDecode (utf8 coded) = bytes := by
  induction h with
  | nil =>
    rw [utf8, List.flatMap_nil, Text.percentDecode]
  | @bare c coded bytes stands ascii rest ih =>
    have hne : UInt8.ofNat c.toNat ≠ 0x25 := by
      intro heq
      have hc : c = '%' := by rw [← ofNat_toByte ascii, heq]; rfl
      exact stands (hc ▸ hmark)
    rw [utf8_cons ascii, percentDecode_other hne, ih]
  | blank stands rest ih => cases stands
  | @escaped hi lo h l coded bytes high low rest ih =>
    have hhigh := ascii_of_hexDigit? high
    have hlow := ascii_of_hexDigit? low
    rw [utf8_cons (by decide), utf8_cons hhigh, utf8_cons hlow]
    refine (percentDecode_escaped ?_ ?_ _).trans (congrArg _ ih)
    · rw [hexByteDigit?_toByte hhigh, high]
    · rw [hexByteDigit?_toByte hlow, low]

theorem Codes.unescape? {t : Text} (h : Codes special none coded (utf8 t)) (hmark : '%' ∈ special) :
    unescape? coded = some t := by
  rw [Text.unescape?, h.percentDecode hmark, ofUtf8?_utf8]

/-- With the character for a space put back into a space, a coding is one in which the space stands for itself. -/
theorem Codes.unblank {blank : Char} (h : Codes special (some blank) coded bytes) (hspecial : blank ∈ special)
    (hmark : blank.isAlphanum = false ∧ blank ≠ '%') :
    Codes (special.filter (· ≠ ' ')) none (coded.map fun c => if c = blank then ' ' else c) bytes := by
  induction h with
  | nil => exact .nil
  | @bare c coded bytes stands ascii rest ih =>
    have hne : c ≠ blank := fun heq => stands (heq ▸ hspecial)
    rw [List.map_cons, if_neg hne]
    exact .bare (fun hm => stands (List.mem_of_mem_filter hm)) ascii ih
  | @blank c coded bytes stands rest ih =>
    rw [List.map_cons, if_pos (Option.some.inj stands).symm]
    exact .bare (c := ' ') (by simp) (by decide) ih
  | escaped high low rest ih =>
    rw [List.map_cons, List.map_cons, List.map_cons, if_neg hmark.2.symm, if_neg (ne_of_hexDigit? high hmark.1),
      if_neg (ne_of_hexDigit? low hmark.1)]
    exact .escaped high low ih

/-! ## What is written -/

theorem Codes.ascii (h : Codes special blank? coded bytes) (hblank : ∀ c, blank? = some c → c.toNat < 128) :
    ∀ c ∈ coded, c.toNat < 128 := by
  induction h with
  | nil => exact fun _ hm => absurd hm List.not_mem_nil
  | bare stands ascii rest ih => exact List.forall_mem_cons.mpr ⟨ascii, ih⟩
  | blank stands rest ih => exact List.forall_mem_cons.mpr ⟨hblank _ stands, ih⟩
  | escaped high low rest ih =>
    exact List.forall_mem_cons.mpr ⟨by decide, List.forall_mem_cons.mpr ⟨ascii_of_hexDigit? high,
      List.forall_mem_cons.mpr ⟨ascii_of_hexDigit? low, ih⟩⟩⟩

/-- A character that stands for nothing is not written. -/
theorem Codes.not_mem {c : Char} (h : Codes special blank? coded bytes) (hspecial : c ∈ special) (hblank : blank? ≠ some c)
    (hmark : c.isAlphanum = false ∧ c ≠ '%') : c ∉ coded := by
  induction h with
  | nil => exact List.not_mem_nil
  | bare stands ascii rest ih =>
    refine List.not_mem_cons_of_ne_of_not_mem ?_ ih
    rintro rfl
    exact stands hspecial
  | blank stands rest ih =>
    refine List.not_mem_cons_of_ne_of_not_mem ?_ ih
    rintro rfl
    exact hblank stands
  | escaped high low rest ih =>
    exact List.not_mem_cons_of_ne_of_not_mem hmark.2
      (List.not_mem_cons_of_ne_of_not_mem (ne_of_hexDigit? high hmark.1).symm
        (List.not_mem_cons_of_ne_of_not_mem (ne_of_hexDigit? low hmark.1).symm ih))

theorem Codes.ne_nil {t : Text} (h : Codes special blank? coded (utf8 t)) (hne : t ≠ []) : coded ≠ [] := by
  rintro rfl
  have hnone : utf8 t = [] := by
    generalize utf8 t = bytes at h
    cases h
    rfl
  exact hne (utf8_inj hnone)

theorem codes_escapeByte (hspecial : ∀ c ∈ special, c.isAlphanum = false ∧ c ∉ ['-', '_', '.', '~']) (b : UInt8)
    (rest : Codes special blank? coded bytes) : Codes special blank? (escapeByte b ++ coded) (b :: bytes) := by
  have hb := b.toNat_lt
  rw [escapeByte]
  split
  · rename_i hunreserved
    simp only [isUnreserved, Bool.and_eq_true, Bool.or_eq_true, decide_eq_true_eq, beq_iff_eq] at hunreserved
    obtain ⟨hlt, hchar⟩ := hunreserved
    have hascii : (Char.ofNat b.toNat).toNat < 128 := by
      rw [toNat_ofByte]
      exact UInt8.lt_iff_toNat_lt.mp hlt
    have hstands : Char.ofNat b.toNat ∉ special := by
      intro hm
      obtain ⟨halnum, hmarks⟩ := hspecial _ hm
      rw [halnum] at hchar
      exact hmarks (by simpa [or_assoc] using hchar)
    have hkept := Codes.bare hstands hascii rest
    rwa [toNat_ofByte, UInt8.ofNat_toNat] at hkept
  · have hdigits := Codes.escaped (hexDigit?_digitChar (n := b.toNat / 16) (by omega))
      (hexDigit?_digitChar (n := b.toNat % 16) (by omega)) rest
    rwa [Nat.div_add_mod, UInt8.ofNat_toNat] at hdigits

/-- The coding that escapes all bytes but the unreserved ones. -/
theorem codes_escape (hspecial : ∀ c ∈ special, c.isAlphanum = false ∧ c ∉ ['-', '_', '.', '~']) (t : Text) :
    Codes special blank? (escape t) (utf8 t) := by
  rw [escape]
  induction utf8 t with
  | nil => exact .nil
  | cons b rest ih =>
    rw [List.flatMap_cons]
    exact codes_escapeByte hspecial b ih

end Gatehouse.Text
