import Transclusion.Proofs.Site.Holding
import Transclusion.Proofs.Text.Split

namespace Transclusion

/-! The paths that names lead to never leave the directories of a site. -/

namespace Path

def IsStep (name : Text) : Prop :=
  name ≠ [] ∧ name ≠ ['.'] ∧ name ≠ ['.', '.']

/-- A path that leads from a directory further and further down. -/
structure Descends (path : Text) : Prop where
  ne_nil : path ≠ []
  head_ne : path.head? ≠ some '/'
  steps : ∀ name ∈ Text.split '/' path, IsStep name

theorem isIdle_eq_false_iff {name : Text} :
    isIdle name = false ↔ name ≠ [] ∧ name ≠ ['.'] := by
  simp [isIdle]

theorem IsStep.isIdle_eq_false {name : Text} (hstep : IsStep name) : isIdle name = false :=
  isIdle_eq_false_iff.mpr ⟨hstep.1, hstep.2.1⟩

theorem descends_of_steps {path : Text} (hsteps : ∀ name ∈ Text.split '/' path, IsStep name) :
    Descends path where
  ne_nil := by
    rintro rfl
    exact (hsteps [] List.mem_cons_self).1 rfl
  head_ne := by
    intro hhead
    obtain ⟨rest, rfl⟩ := List.head?_eq_some_iff.mp hhead
    have hsplit := Text.split_append '/' [] rest
    rw [List.nil_append] at hsplit
    exact (hsteps [] (by rw [hsplit]; exact List.mem_cons_self)).1 rfl
  steps := hsteps

theorem Descends.isAbsolute_eq_false {path : Text} (hpath : Descends path) :
    isAbsolute path = false := by
  simpa [isAbsolute] using hpath.head_ne

theorem isAbsolute_join {directory path : Text} (hpath : Descends path) :
    isAbsolute (join directory path) = isAbsolute directory := by
  have habsolute := hpath.isAbsolute_eq_false
  cases directory with
  | nil => simpa [join, habsolute, isAbsolute] using habsolute
  | cons c rest =>
      simp only [join, habsolute, Bool.false_eq_true, ↓reduceIte]
      split <;> rfl

end Path

namespace Reference

variable {extension channel name path : Text} {relative : Relative}

theorem descends_of_tidy? (htidy : tidy? name = some path) : Path.Descends path := by
  unfold tidy? at htidy
  dsimp only at htidy
  split at htidy
  · cases htidy
  · next hrefused =>
      cases htidy
      simp only [Bool.or_eq_true, List.isEmpty_iff, List.contains_iff_mem, not_or] at hrefused
      obtain ⟨hne, hupward⟩ := hrefused
      apply Path.descends_of_steps
      rw [Text.split_join (fun part hpart => ?_) hne]
      · intro part hpart
        have hidle := (List.mem_filter.mp hpart).2
        rw [Bool.not_eq_true', Path.isIdle_eq_false_iff] at hidle
        refine ⟨hidle.1, hidle.2, ?_⟩
        rintro rfl
        exact hupward hpart
      · exact Text.notMem_of_mem_split (List.mem_filter.mp hpart).1

theorem tidy?_of_relative? (hrelative : relative? extension channel name = some relative) :
    tidy? (fill (clean channel) (clean name ++ extension)) = some relative.path := by
  unfold relative? at hrelative
  dsimp only at hrelative
  split at hrelative
  · cases hrelative
  · split at hrelative
    · obtain ⟨path, htidy, rfl⟩ := Option.map_eq_some_iff.mp hrelative
      exact htidy
    · next hplaceless =>
        obtain ⟨path, htidy, rfl⟩ := Option.map_eq_some_iff.mp hrelative
        rw [fill_of_not_hasPlaceholder (Bool.eq_false_iff.mpr hplaceless)]
        exact htidy

/-- The channel goes in and the extension is put on before the parts are looked at, so that
neither can bring a step upwards in. -/
theorem descends_of_relative? (hrelative : relative? extension channel name = some relative) :
    Path.Descends relative.path :=
  descends_of_tidy? (tidy?_of_relative? hrelative)

end Reference

namespace FileTree

variable {tree : FileTree} {place names : List Text} {node : FileNode}

/-- Where a path leads to, as far as its spelling tells. -/
def placeOf (tree : FileTree) (path : Text) : List Text :=
  (Text.split '/' path).foldl stepFrom (tree.start path)

theorem stepFrom_nil (place : List Text) : stepFrom place [] = place :=
  rfl

theorem stepFrom_of_isStep {name : Text} (place : List Text) (hname : Path.IsStep name) :
    stepFrom place name = place ++ [name] := by
  simp [stepFrom, hname.isIdle_eq_false, hname.2.2]

theorem foldl_stepFrom_of_steps (hnames : ∀ name ∈ names, Path.IsStep name) :
    names.foldl stepFrom place = place ++ names := by
  induction names generalizing place with
  | nil => simp
  | cons name names ih =>
      have hname := hnames name List.mem_cons_self
      have hbehind := fun other hmem => hnames other (List.mem_cons_of_mem name hmem)
      rw [List.foldl_cons, stepFrom_of_isStep place hname, ih hbehind, List.append_assoc,
        List.singleton_append]

theorem at?_of_walk (hwalk : tree.walk place names = .ok node) :
    tree.at? (names.foldl stepFrom place) = some node := by
  induction names generalizing place with
  | nil => exact walk_nil_eq_ok_iff.mp hwalk
  | cons name names ih =>
      obtain ⟨-, -, hrest⟩ := walk_cons_eq_ok_iff.mp hwalk
      rw [List.foldl_cons]
      exact ih hrest

theorem foldl_split_join {directory path : Text} (hpath : Path.Descends path) :
    (Text.split '/' (Path.join directory path)).foldl stepFrom place =
      (Text.split '/' path).foldl stepFrom ((Text.split '/' directory).foldl stepFrom place) := by
  simp only [Path.join, hpath.isAbsolute_eq_false, Bool.false_eq_true, ↓reduceIte]
  split
  · next hslash =>
      simp only [Bool.or_eq_true, List.isEmpty_iff, beq_iff_eq] at hslash
      rcases hslash with rfl | hlast
      · rw [List.nil_append, Text.split_nil, List.foldl_cons, stepFrom_nil, List.foldl_nil]
      · obtain ⟨front, rfl⟩ := List.getLast?_eq_some_iff.mp hlast
        -- A slash at the end of the directory only adds a part that leads nowhere.
        rw [List.append_assoc, List.singleton_append, Text.split_append, Text.split_append,
          Text.split_nil]
        simp only [List.foldl_append, List.foldl_cons, List.foldl_nil, stepFrom_nil]
  · rw [Text.split_append, List.foldl_append]

theorem start_join {directory path : Text} (hpath : Path.Descends path) :
    tree.start (Path.join directory path) = tree.start directory := by
  rw [start, start, Path.isAbsolute_join hpath]

theorem placeOf_join {directory path : Text} (hpath : Path.Descends path) :
    tree.placeOf (Path.join directory path) =
      tree.placeOf directory ++ Text.split '/' path := by
  rw [placeOf, placeOf, start_join hpath, foldl_split_join hpath,
    foldl_stepFrom_of_steps hpath.steps]

theorem at?_of_look {directory path : Text} (hpath : Path.Descends path)
    (hlook : tree.look (Path.join directory path) = .ok node) :
    tree.at? (tree.placeOf directory ++ Text.split '/' path) = some node := by
  rw [← placeOf_join hpath]
  exact at?_of_walk (walk_of_look hlook)

/-- Ways that begin at the root, or that leave the working directory and come back. -/
example :
    let files := (⟨["w".toList], []⟩ : FileTree).put ["w".toList, "r".toList, ['a']] (.file [0x41])
    files.look "/w/r/a".toList = .ok (.file [0x41]) ∧
      files.look "../w/./r/a".toList = .ok (.file [0x41]) ∧
        files.placeOf "../w/r".toList = ["w".toList, "r".toList] := by
  decide

end FileTree

namespace Site

variable {site : Site} {files : FileTree} {channel : Channel} {name : Text}

theorem descends_of_locate_found {source : Source}
    (hlocate : site.locate files channel name = .ok (.found source)) :
    source.root ∈ site.roots ∧ Path.Descends source.relative := by
  obtain ⟨relative, hrelative, hholder⟩ := locate_eq_found_iff.mp hlocate
  rw [holder?_relative hholder]
  exact ⟨holder?_root hholder, Reference.descends_of_relative? hrelative⟩

theorem descends_of_locate_unmatched {path : Text}
    (hlocate : site.locate files channel name = .ok (.unmatched path)) :
    Path.Descends path := by
  obtain ⟨relative, hrelative, -, -, rfl⟩ := locate_eq_unmatched_iff.mp hlocate
  exact Reference.descends_of_relative? hrelative

theorem descends_of_dataPath {path : Text} (hpath : site.dataPath channel name = .ok path) :
    ∃ relative, Path.Descends relative ∧ path = Path.join site.dataDir relative := by
  unfold dataPath at hpath
  split at hpath
  · cases hpath
  · next relative hrelative =>
      cases hpath
      exact ⟨relative.path, Reference.descends_of_relative? hrelative, rfl⟩

/-- Whatever a name and a channel are, the path that they lead to descends from a root, or from the
data directory. A file at such a path lies below the place of that directory. -/
theorem named_paths_descend (site : Site) (files : FileTree) (channel : Channel) (name : Text) :
    (∀ source, site.locate files channel name = .ok (.found source) →
      source.root ∈ site.roots ∧ source.full = Path.join source.root source.relative ∧
        Path.Descends source.relative) ∧
    (∀ path, site.locate files channel name = .ok (.unmatched path) → Path.Descends path) ∧
    (∀ path, site.dataPath channel name = .ok path →
      ∃ relative, Path.Descends relative ∧ path = Path.join site.dataDir relative) ∧
    ∀ directory relative content, Path.Descends relative →
      files.look (Path.join directory relative) = .ok (.file content) →
        files.at? (files.placeOf directory ++ Text.split '/' relative) =
          some (.file content) := by
  refine ⟨fun source hlocate => ?_, fun path => descends_of_locate_unmatched,
    fun path => descends_of_dataPath, fun directory relative content => FileTree.at?_of_look⟩
  obtain ⟨hroot, hdescends⟩ := descends_of_locate_found hlocate
  exact ⟨hroot, rfl, hdescends⟩

theorem descends_of_dotted_channel :
    small.locate .empty ⟨".x/./".toList⟩ "a\\%s*/b".toList = .ok (.unmatched "a/.x/b.html".toList) ∧
      Path.Descends "a/.x/b.html".toList :=
  ⟨rfl, (named_paths_descend small .empty ⟨".x/./".toList⟩ "a\\%s*/b".toList).2.1 _ rfl⟩

end Site

end Transclusion
