import Gatehouse.Host.Files
import Gatehouse.Proofs.Except
import Gatehouse.Proofs.Table
import Gatehouse.Proofs.Text

/-!
Where files are written. Main statements: a file that is written stands at the place that its path text leads to, and
no other file changes (`write_eq_ok`, `content?_put`); the place of a name below a folder is the folder's place with the
name after it (`place_joined`); making folders changes no file (`files_makeFolders`).
-/

namespace Gatehouse.Host.Files

variable {fs fs' : Files} {working p q : Path} {t front name : Text} {content : Bytes}

/-! ## Places -/

/-- The place that a path text leads to, whether or not something is there. -/
def place (working : Path) (t : Text) : Path := (pieces t).foldl follow (start working t)

theorem enter_eq_ok {piece : Text} (h : fs.enter p piece = .ok q) : q = follow p piece := by
  simp only [enter] at h
  split_ifs at h
  exact (Except.ok.inj h).symm

theorem foldlM_enter_eq_ok {ps : List Text} (h : ps.foldlM fs.enter p = .ok q) : q = ps.foldl follow p := by
  induction ps generalizing p with
  | nil => exact (Except.ok.inj h).symm
  | cons piece rest ih =>
    obtain ⟨next, hnext, hrest⟩ := bind_eq_ok h
    rw [List.foldl_cons, ← enter_eq_ok hnext]
    exact ih hrest

theorem locate_eq_entry (h : fs.locate working t = .ok (.entry p name)) : p ++ [name] = place working t := by
  simp only [locate] at h
  split_ifs at h
  split at h
  · cases h
  · rename_i last hlast
    obtain ⟨folder, hfolder, h⟩ := bind_eq_ok h
    split_ifs at h with hdots
    · cases h
    · cases h
      obtain ⟨front, hpieces⟩ := List.getLast?_eq_some_iff.mp hlast
      rw [hpieces, List.dropLast_concat] at hfolder
      have hfollow : follow p name = p ++ [name] := by
        rw [follow, if_neg fun hdot => hdots (.inl hdot), if_neg fun hdot => hdots (.inr hdot)]
      rw [place, hpieces, List.foldl_append, ← foldlM_enter_eq_ok hfolder, List.foldl_cons, List.foldl_nil, hfollow]

theorem target_eq_ok (h : fs.target working t = .ok p) : p = place working t := by
  obtain ⟨spot, hspot, h⟩ := bind_eq_ok h
  cases spot with
  | folder place => cases h
  | entry folder name =>
    rw [← locate_eq_entry hspot]
    simp only at h
    split_ifs at h
    exact (Except.ok.inj h).symm

theorem write_eq_ok (h : fs.write working t content = .ok fs') : fs' = fs.put (place working t) content := by
  obtain ⟨p, hp, rfl⟩ := map_eq_ok h
  rw [target_eq_ok hp]

theorem content?_put (fs : Files) (p q : Path) (content : Bytes) :
    (fs.put p content).content? q = if q = p then some content else fs.content? q :=
  Table.lookup_replace fs.files p q content

/-! ## Names below a folder -/

theorem pieces_name (hne : name ≠ []) (hslash : '/' ∉ name) : pieces name = [name] := by
  rw [pieces, Text.split_of_not_mem hslash]
  simp [hne]

theorem pieces_append_slash (front rest : Text) : pieces (front ++ '/' :: rest) = pieces front ++ pieces rest := by
  rw [pieces, Text.split_append_sep, List.filter_append, pieces, pieces]

/-- A name that leads to something below the folder from which it is read. -/
structure IsName (name : Text) : Prop where
  ne_nil : name ≠ []
  no_slash : '/' ∉ name
  ne_dot : name ≠ ['.']
  ne_dots : name ≠ ['.', '.']

theorem head?_ne_slash (h : '/' ∉ name) : name.head? ≠ some '/' := fun hhead => h (List.mem_of_head? hhead)

theorem joined_pieces (h : IsName name) (front : Text) :
    pieces (joined front name) = pieces front ++ [name] ∧ start p (joined front name) = start p front := by
  have hname := pieces_name h.ne_nil h.no_slash
  have hempty : pieces [] = [] := rfl
  rw [joined, if_neg (head?_ne_slash h.no_slash)]
  split
  case isTrue hfront =>
    rcases hfront with rfl | hfront
    · rw [List.nil_append, hname, hempty, start, if_neg (head?_ne_slash h.no_slash)]
      exact ⟨rfl, rfl⟩
    -- the slash that the front ends with cuts nothing off
    · obtain ⟨outer, rfl⟩ := List.getLast?_eq_some_iff.mp hfront
      rw [List.append_assoc, List.singleton_append, pieces_append_slash, hname, pieces_append_slash, hempty,
        List.append_nil]
      exact ⟨rfl, by cases outer <;> rfl⟩
  case isFalse hfront =>
    have hslash : front ++ "/" ++ name = front ++ '/' :: name := by rw [List.append_assoc]; rfl
    rw [hslash, pieces_append_slash, hname]
    refine ⟨rfl, ?_⟩
    cases front with
    | nil => exact absurd (.inl rfl) hfront
    | cons c rest => rfl

theorem place_joined (h : IsName name) (working : Path) (front : Text) :
    place working (joined front name) = place working front ++ [name] := by
  obtain ⟨hpieces, hstart⟩ := joined_pieces (p := working) h front
  rw [place, hpieces, hstart, List.foldl_append, List.foldl_cons, List.foldl_nil, follow, if_neg h.ne_dot,
    if_neg h.ne_dots, place]

/-- The path text of the folder may go back and end with a slash. -/
example : place ["home".toList] (joined "etc/../resolver/" "test") =
    ["home".toList, "resolver".toList, "test".toList] := by
  decide

/-! ## Folders -/

theorem files_makeFolder (h : fs.makeFolder working t = .ok fs') : fs'.files = fs.files := by
  obtain ⟨spot, -, h⟩ := bind_eq_ok h
  cases spot with
  | folder place => cases h
  | entry folder name =>
    simp only at h
    split_ifs at h
    obtain rfl := Except.ok.inj h
    rfl

theorem files_makeFoldersOf (fs : Files) (working : Path) (ts : List Text) :
    (fs.makeFoldersOf working ts).2.files = fs.files := by
  induction ts generalizing fs with
  | nil => rfl
  | cons t outer ih =>
    simp only [makeFoldersOf]
    split
    · split
      · rename_i e left houter
        exact (congrArg (·.2.files) houter).symm.trans (ih fs)
      · rename_i left houter
        have hleft : left.files = fs.files := (congrArg (·.2.files) houter).symm.trans (ih fs)
        cases hmade : left.makeFolder working t with
        | error e => exact hleft
        | ok made => exact (files_makeFolder hmade).trans hleft
    · cases hmade : fs.makeFolder working t with
      | error e => rfl
      | ok made => exact files_makeFolder hmade

theorem files_makeFolders (fs : Files) (working : Path) (t : Text) : (fs.makeFolders working t).2.files = fs.files := by
  rw [makeFolders]
  split_ifs
  · rfl
  · exact files_makeFoldersOf fs working _

end Gatehouse.Host.Files
