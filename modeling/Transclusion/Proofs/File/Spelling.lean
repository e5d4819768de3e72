import Transclusion.File.Tree

namespace Transclusion

/-! A file has many paths that differ in spelling only. Whichever of them it is found under, it is
found with the same text. -/

namespace FileTree

variable {tree : FileTree} {node : FileNode}

private theorem walk_filter {place names : List Text} (hwalk : tree.walk place names = .ok node) :
    tree.walk place (names.filter (!Path.isIdle ·)) = .ok node := by
  induction names generalizing place with
  | nil => exact hwalk
  | cons name names ih =>
      obtain ⟨hat, hsize, hrest⟩ := walk_cons_eq_ok_iff.mp hwalk
      cases hidle : Path.isIdle name with
      | true =>
          rw [List.filter_cons_of_neg (by simp [hidle])]
          rw [stepFrom_of_isIdle place hidle] at hrest
          exact ih hrest
      | false =>
          rw [List.filter_cons_of_pos (by simp [hidle])]
          exact walk_cons_eq_ok_iff.mpr ⟨hat, hsize, ih hrest⟩

end FileTree

namespace Path

private theorem names_eq (path : Text) :
    (parts path).names = (Text.split '/' path).filter (!isIdle ·) ∨
      (parts path).names = ['.'] :: (Text.split '/' path).filter (!isIdle ·) := by
  unfold parts
  dsimp only
  split
  · next rest hsplit =>
      right
      rw [hsplit, List.filter_cons_of_neg (by decide)]
  · exact .inl rfl

private theorem dot_notMem_filter (pieces : List Text) :
    ['.'] ∉ pieces.filter (!isIdle ·) := by
  intro hmem
  have := (List.mem_filter.mp hmem).2
  exact absurd this (by decide)

private theorem filter_eq_of_same {first second : Text} (hsame : same first second = true) :
    (Text.split '/' first).filter (!isIdle ·) = (Text.split '/' second).filter (!isIdle ·) := by
  have hparts : parts first = parts second := by simpa [same] using hsame
  have hnames : (parts first).names = (parts second).names := by rw [hparts]
  rcases names_eq first with hfirst | hfirst <;> rcases names_eq second with hsecond | hsecond <;>
    rw [hfirst, hsecond] at hnames
  · exact hnames
  · exact absurd (hnames ▸ List.mem_cons_self) (dot_notMem_filter _)
  · exact absurd (hnames ▸ List.mem_cons_self) (dot_notMem_filter _)
  · exact (List.cons.inj hnames).2

private theorem isAbsolute_eq_of_same {first second : Text} (hsame : same first second = true) :
    isAbsolute first = isAbsolute second := by
  have hparts : parts first = parts second := by simpa [same] using hsame
  exact congrArg Parts.absolute hparts

end Path

namespace FileTree

variable {tree : FileTree} {first second : Text}

theorem look_of_isFile {path : Text} (hfile : tree.isFile path = true) :
    ∃ content, tree.look path = .ok (.file content) := by
  unfold isFile at hfile
  split at hfile
  · next content hlook => exact ⟨content, hlook⟩
  · simp at hfile

theorem readText_of_readBytes {path text : Text}
    (hbytes : tree.readBytes path = .ok (Text.toUtf8 text)) : tree.readText path = .ok text := by
  rw [readText, hbytes]
  simp only [Text.ofUtf8?_toUtf8, Option.elim_some]

theorem readText_of_isFile {path : Text} (hfile : tree.isFile path = true) :
    (∃ text, tree.readText path = .ok text) ∨ tree.readText path = .error .notUtf8 := by
  obtain ⟨content, hlook⟩ := look_of_isFile hfile
  simp only [readText, readBytes, hlook]
  cases Text.ofUtf8? content with
  | none => exact .inr rfl
  | some text => exact .inl ⟨text, rfl⟩

theorem isFile_of_readText {path text : Text} (hread : tree.readText path = .ok text) :
    tree.isFile path = true := by
  unfold readText readBytes at hread
  unfold isFile
  split at hread
  · next hbytes =>
      split at hbytes
      · next hlook => rw [hlook]
      · cases hbytes
      · cases hbytes
  · cases hread

/-- A file has one text, however its path is spelled. -/
theorem readText_eq_of_same (hsame : Path.same first second = true)
    (hfirst : tree.isFile first = true) (hsecond : tree.isFile second = true) :
    tree.readText first = tree.readText second := by
  obtain ⟨content, hlook⟩ := look_of_isFile hfirst
  obtain ⟨content', hlook'⟩ := look_of_isFile hsecond
  have hwalk := walk_filter (walk_of_look hlook)
  have hwalk' := walk_filter (walk_of_look hlook')
  have hstart : tree.start first = tree.start second := by
    rw [start, start, Path.isAbsolute_eq_of_same hsame]
  rw [hstart, Path.filter_eq_of_same hsame, hwalk'] at hwalk
  cases hwalk
  simp only [readText, readBytes, hlook, hlook']

end FileTree

end Transclusion
