import Gatehouse.Proofs.Host.Files
import Gatehouse.Proofs.HostName
import Gatehouse.SystemResolver

/-!
What is written when the host's resolver is pointed at a name server. Main statements: for a domain that is a label, one
file directly in the configured folder is all that changes before the reload command runs (`configure_confined`), and
different domains have different files (`place?_inj`).
-/

namespace Gatehouse.SystemResolver

open Net Host

variable {m : Method} {note : Note} {fs : Files} {working p : Path} {domain domain' : Text} {nameserver : Socket}

/-! ## Domains as names of files -/

/-- A domain that the resolver can be told of: a short word of lower-case letters, digits and hyphens. -/
structure IsDomain (domain : Text) : Prop where
  ne_nil : domain ≠ []
  short : domain.length ≤ 63
  chars : ∀ c ∈ domain, c.isLower = true ∨ c.isDigit = true ∨ c = '-'

theorem isDomain_of_isLabel (hlabel : HostName.isLabel domain = true) (hlower : Text.lower domain = domain) :
    IsDomain domain := by
  refine ⟨HostName.label_ne_nil hlabel, HostName.length_label hlabel, fun c hm => ?_⟩
  have hself : c.toLower = c := List.map_inj_left.mp (hlower.trans (List.map_id _).symm) c hm
  have hupper : c.isUpper = false := hself ▸ Char.isUpper_toLower_eq_false c
  have hchar := HostName.char_of_isLabel hlabel hm
  rw [HostName.isLabelChar, Char.isAlphanum, Char.isAlpha, hupper, Bool.false_or, Bool.or_eq_true, Bool.or_eq_true,
    beq_iff_eq, or_assoc] at hchar
  exact hchar

theorem IsDomain.isName (h : IsDomain domain) : Files.IsName domain := by
  have hother : ∀ c ∈ domain, c ≠ '/' ∧ c ≠ '.' := by
    intro c hm
    refine ⟨?_, ?_⟩ <;> rintro rfl <;> exact absurd (h.chars _ hm) (by decide)
  refine ⟨h.ne_nil, fun hm => (hother _ hm).1 rfl, ?_, ?_⟩ <;> rintro rfl <;>
    exact (hother '.' List.mem_cons_self).2 rfl

theorem dropInName_eq (domain : Text) : dropInName domain = "vipgate-".toList ++ domain ++ ".conf".toList := rfl

theorem length_dropInName (domain : Text) : (dropInName domain).length = domain.length + 13 := by
  have hfront : "vipgate-".toList.length = 8 := by decide
  have hend : ".conf".toList.length = 5 := by decide
  rw [dropInName_eq, List.length_append, List.length_append]
  omega

theorem IsDomain.isName_dropIn (h : IsDomain domain) : Files.IsName (dropInName domain) := by
  have hlength := length_dropInName domain
  have hslash : '/' ∉ dropInName domain := by
    rw [dropInName_eq, List.mem_append, List.mem_append]
    rintro ((hm | hm) | hm)
    · exact absurd hm (by decide)
    · exact h.isName.no_slash hm
    · exact absurd hm (by decide)
  refine ⟨?_, hslash, ?_, ?_⟩ <;> intro heq <;> rw [heq] at hlength <;> simp at hlength

/-! ## Places -/

/-- The place of a domain's file: in the configured folder, under the domain's name or that of its configuration. -/
def Method.place? (m : Method) (working : Path) (domain : Text) : Option Path :=
  match m with
  | directory folder => some (Files.place working folder ++ [domain])
  | dnsmasq folder _ => some (Files.place working folder ++ [dropInName domain])
  | unmanaged => none

/-- No two domains share a file. -/
theorem place?_inj (h : m.place? working domain = some p) (h' : m.place? working domain' = some p) :
    domain = domain' := by
  have hsame := h.trans h'.symm
  cases m with
  | directory folder =>
    exact (List.cons.inj (List.append_cancel_left (Option.some.inj hsame))).1
  | dnsmasq folder reload =>
    have hname := (List.cons.inj (List.append_cancel_left (Option.some.inj hsame))).1
    rwa [dropInName_eq, dropInName_eq, List.append_left_inj, List.append_right_inj] at hname
  | unmanaged => cases h

theorem place?_of_note (h : IsDomain domain) (hnote : m.note? domain nameserver = some note) (working : Path) :
    Files.IsName note.name ∧ m.place? working domain = some (Files.place working note.folder ++ [note.name]) := by
  cases m with
  | directory folder =>
    obtain rfl := Option.some.inj hnote
    exact ⟨h.isName, rfl⟩
  | dnsmasq folder reload =>
    obtain rfl := Option.some.inj hnote
    exact ⟨h.isName_dropIn, rfl⟩
  | unmanaged => cases hnote

/-! ## Writing -/

/-- Writing a note puts its content at one place, or fails and changes no file. -/
theorem write_cases (h : Files.IsName note.name) (fs : Files) (working : Path) :
    (∃ e, (note.write fs working).1 = .error e ∧ ∀ p, (note.write fs working).2.content? p = fs.content? p) ∨
      (note.write fs working).1 = .ok () ∧ ∀ p, (note.write fs working).2.content? p =
        if p = Files.place working note.folder ++ [note.name] then some (Text.utf8 note.content) else fs.content? p := by
  have hleft : ∀ p, (fs.makeFolders working note.folder).2.content? p = fs.content? p := fun p =>
    congrArg (List.lookup p) (Files.files_makeFolders fs working note.folder)
  rw [Note.write]
  generalize fs.makeFolders working note.folder = folders at hleft ⊢
  obtain ⟨made, left⟩ := folders
  cases made with
  | error e => exact .inl ⟨_, rfl, hleft⟩
  | ok _ =>
    cases hwrite : left.write working (Files.joined note.folder note.name) (Text.utf8 note.content) with
    | error e =>
      simp only [hwrite]
      exact .inl ⟨_, rfl, hleft⟩
    | ok written =>
      obtain rfl := Files.write_eq_ok hwrite
      simp only [hwrite]
      refine .inr ⟨trivial, fun p => ?_⟩
      rw [Files.place_joined h, Files.content?_put]
      exact if_congr Iff.rfl rfl (hleft p)

/-- Configuring a domain writes no file but the one at its place; then the reload command runs, unless it failed. -/
theorem configure_confined (h : IsDomain domain) (m : Method) (fs : Files) (working : Path) (nameserver : Socket) :
    ∃ written : Files, (∀ p, m.place? working domain ≠ some p → written.content? p = fs.content? p) ∧
      (m.configure fs working domain nameserver = runReload written working m.reload ∨
        ∃ e, m.configure fs working domain nameserver = (.error e, written)) := by
  rw [Method.configure]
  cases hnote : m.note? domain nameserver with
  | none =>
    cases m with
    | unmanaged => exact ⟨fs, fun _ _ => rfl, .inl rfl⟩
    | _ => cases hnote
  | some note =>
    obtain ⟨hname, hplace⟩ := place?_of_note h hnote working
    have hwrite := write_cases hname fs working
    dsimp only
    rw [hplace]
    generalize note.write fs working = written at hwrite ⊢
    obtain ⟨result, written⟩ := written
    refine ⟨written, ?_, ?_⟩
    · intro p hp
      rcases hwrite with ⟨e, -, hsame⟩ | ⟨-, hwritten⟩
      · exact hsame p
      · exact (hwritten p).trans (if_neg fun heq => hp (congrArg some heq.symm))
    · cases result with
      | error e => exact .inr ⟨e, rfl⟩
      | ok _ => exact .inl rfl

end Gatehouse.SystemResolver
