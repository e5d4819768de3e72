import Transclusion.Proofs.File.Spelling
import Transclusion.Site

namespace Transclusion.Site

/-! What a site has for the names in a directive, told by where it is kept. -/

variable {site : Site} {files : FileTree} {channel : Channel}

/-- A template is the file below the first root that has it. Where the name leaves a place to the
channel and no root has the variant, it is empty. -/
inductive HasTemplate (site : Site) (files : FileTree) (channel : Channel) (name : Text) :
    Loaded → Prop where
  | file {relative : Reference.Relative} {earlier later : List Text} {root content : Text}
      (named : Reference.relative? site.templateExt channel.name name = some relative)
      (roots : site.roots = earlier ++ root :: later)
      (absent : ∀ other ∈ earlier, files.isFile (Path.join other relative.path) = false)
      (present : files.isFile (Path.join root relative.path) = true)
      (read : files.readText (Path.join root relative.path) = .ok content) :
      HasTemplate site files channel name ⟨some ⟨root, relative.path⟩, content⟩
  | vacant {relative : Reference.Relative}
      (named : Reference.relative? site.templateExt channel.name name = some relative)
      (channelled : relative.channelled = true)
      (absent : ∀ root ∈ site.roots, files.isFile (Path.join root relative.path) = false) :
      HasTemplate site files channel name ⟨none, []⟩

/-- Data are an object in a file below the data directory. No name, or an empty one, asks for
none. -/
inductive HasData (site : Site) (files : FileTree) (channel : Channel) :
    Option Text → Option Data → Prop where
  | unasked : HasData site files channel none none
  | empty : HasData site files channel (some []) none
  | object {name path text : Text} {members : Data} (asked : name ≠ [])
      (named : site.dataPath channel name = .ok path) (read : files.readText path = .ok text)
      (parsed : Json.read? text = some (.object members)) :
      HasData site files channel (some name) (some members)

theorem holder?_eq_some_iff {relative : Text} {source : Source} :
    site.holder? files relative = some source ↔
      source.relative = relative ∧ files.isFile source.full = true ∧
        ∃ earlier later, site.roots = earlier ++ source.root :: later ∧
          ∀ other ∈ earlier, files.isFile (Path.join other relative) = false := by
  unfold holder?
  rw [Option.map_eq_some_iff]
  constructor
  · rintro ⟨root, hfind, rfl⟩
    obtain ⟨hfile, earlier, later, hroots, habsent⟩ := List.find?_eq_some_iff_append.mp hfind
    exact ⟨rfl, hfile, earlier, later, hroots, fun other hmem => by simpa using habsent other hmem⟩
  · rintro ⟨rfl, hfile, earlier, later, hroots, habsent⟩
    refine ⟨source.root, List.find?_eq_some_iff_append.mpr ?_, rfl⟩
    exact ⟨hfile, earlier, later, hroots, fun other hmem => by simpa using habsent other hmem⟩

theorem holder?_eq_none_iff {relative : Text} :
    site.holder? files relative = none ↔
      ∀ root ∈ site.roots, files.isFile (Path.join root relative) = false := by
  simp [holder?, List.find?_eq_none]

theorem locate_eq_found_iff {name : Text} {source : Source} :
    site.locate files channel name = .ok (.found source) ↔
      ∃ relative, Reference.relative? site.templateExt channel.name name = some relative ∧
        site.holder? files relative.path = some source := by
  unfold locate
  constructor
  · intro h
    split at h
    · simp at h
    · next relative hrelative =>
        split at h
        · next holder hholder =>
            cases h
            exact ⟨relative, hrelative, hholder⟩
        · split at h <;> simp at h
  · rintro ⟨relative, hrelative, hholder⟩
    simp [hrelative, hholder]

theorem locate_eq_unmatched_iff {name path : Text} :
    site.locate files channel name = .ok (.unmatched path) ↔
      ∃ relative, Reference.relative? site.templateExt channel.name name = some relative ∧
        site.holder? files relative.path = none ∧ relative.channelled = true ∧
          relative.path = path := by
  unfold locate
  constructor
  · intro h
    split at h
    · simp at h
    · next relative hrelative =>
        split at h
        · simp at h
        · next hholder =>
            split at h
            · next hchannelled =>
                cases h
                exact ⟨relative, hrelative, hholder, hchannelled, rfl⟩
            · simp at h
  · rintro ⟨relative, hrelative, hholder, hchannelled, rfl⟩
    simp [hrelative, hholder, hchannelled]

theorem locate_eq_error {name : Text} {failure : Failure}
    (hlocate : site.locate files channel name = .error failure) :
    ∃ path, failure = .templateMissing path := by
  unfold locate at hlocate
  split at hlocate
  · cases hlocate
    exact ⟨name, rfl⟩
  · next relative _ =>
      split at hlocate
      · cases hlocate
      · split at hlocate
        · cases hlocate
        · cases hlocate
          exact ⟨relative.path, rfl⟩

theorem loadTemplate_eq_ok_iff_locate {name : Text} {loaded : Loaded} :
    site.loadTemplate files channel name = .ok loaded ↔
      (∃ source content, site.locate files channel name = .ok (.found source) ∧
        files.readText source.full = .ok content ∧ loaded = ⟨some source, content⟩) ∨
      (∃ path, site.locate files channel name = .ok (.unmatched path) ∧ loaded = ⟨none, []⟩) := by
  unfold loadTemplate
  cases hlocate : site.locate files channel name with
  | error failure => simp [bind, Except.bind]
  | ok located =>
      cases located with
      | unmatched path => simp [bind, Except.bind, pure, Except.pure, eq_comm]
      | found source =>
          cases hread : files.readText source.full with
          | ok content => simp [bind, Except.bind, pure, Except.pure, hread, eq_comm]
          | error fault =>
              cases fault <;>
                simp [bind, Except.bind, hread, throw, throwThe, MonadExceptOf.throw]

theorem loadTemplate_eq_ok_iff {name : Text} {loaded : Loaded} :
    site.loadTemplate files channel name = .ok loaded ↔
      site.HasTemplate files channel name loaded := by
  rw [loadTemplate_eq_ok_iff_locate]
  constructor
  · rintro (⟨source, content, hlocate, hread, rfl⟩ | ⟨path, hlocate, rfl⟩)
    · obtain ⟨relative, hrelative, hholder⟩ := locate_eq_found_iff.mp hlocate
      obtain ⟨hpath, hfile, earlier, later, hroots, habsent⟩ := holder?_eq_some_iff.mp hholder
      obtain ⟨root, path⟩ := source
      cases hpath
      exact .file hrelative hroots habsent hfile hread
    · obtain ⟨relative, hrelative, hholder, hchannelled, -⟩ := locate_eq_unmatched_iff.mp hlocate
      exact .vacant hrelative hchannelled (holder?_eq_none_iff.mp hholder)
  · intro h
    cases h with
    | @file relative earlier later root content named roots absent present read =>
        refine .inl ⟨⟨root, relative.path⟩, content, ?_, read, rfl⟩
        refine locate_eq_found_iff.mpr ⟨relative, named, ?_⟩
        exact holder?_eq_some_iff.mpr ⟨rfl, present, _, _, roots, absent⟩
    | vacant named channelled absent =>
        refine .inr ⟨_, locate_eq_unmatched_iff.mpr ⟨_, named, ?_, channelled, rfl⟩, rfl⟩
        exact holder?_eq_none_iff.mpr absent

theorem loadData_eq_ok_iff {name : Option Text} {data : Option Data} :
    site.loadData files channel name = .ok data ↔ site.HasData files channel name data := by
  constructor
  · intro h
    unfold loadData at h
    split at h
    · next hname =>
        cases h
        cases name with
        | none => exact .unasked
        | some name =>
            cases name with
            | nil => exact .empty
            | cons c name => simp at hname
    · next name' hname =>
        obtain ⟨rfl, hasked⟩ := Option.filter_eq_some_iff.mp hname
        cases hpath : site.dataPath channel name' with
        | error failure => simp [hpath, bind, Except.bind] at h
        | ok path =>
            simp only [hpath, bind, Except.bind] at h
            split at h
            · cases h
            · cases h
            · next text hread =>
                split at h
                · cases h
                · next members hparsed =>
                    cases h
                    exact .object (by simpa using hasked) hpath hread hparsed
                · cases h
  · intro h
    cases h with
    | unasked => rfl
    | empty => rfl
    | @object name path text members asked named read parsed =>
        have hname : (some name).filter (!·.isEmpty) = some name := by simp [asked]
        unfold loadData
        rw [hname]
        simp only [named, bind, Except.bind, read, parsed]
        rfl

theorem loadTemplate_eq_error {name : Text} {failure : Failure}
    (hload : site.loadTemplate files channel name = .error failure) :
    site.locate files channel name = .error failure ∨
      ∃ source, site.locate files channel name = .ok (.found source) ∧
        failure = .unreadable source.full .notUtf8 := by
  unfold loadTemplate at hload
  cases hlocate : site.locate files channel name with
  | error other =>
      rw [hlocate] at hload
      cases hload
      exact .inl rfl
  | ok located =>
      cases located with
      | unmatched path =>
          rw [hlocate] at hload
          cases hload
      | found source =>
          obtain ⟨relative, -, hholder⟩ := locate_eq_found_iff.mp hlocate
          rw [hlocate] at hload
          rcases FileTree.readText_of_isFile (holder?_isFile hholder) with ⟨text, hread⟩ | hread
          · simp only [bind, Except.bind, hread] at hload
            cases hload
          · simp only [bind, Except.bind, hread] at hload
            cases hload
            exact .inr ⟨source, rfl, rfl⟩

/-- The file that the data are asked for in is there, whatever it holds. -/
def DataPresent (site : Site) (files : FileTree) (channel : Channel) (name : Option Text) : Prop :=
  ∀ asked, name = some asked →
    ∃ path, site.dataPath channel asked = .ok path ∧ files.isFile path = true

theorem dataPresent_of_loadData {name : Option Text} {data : Option Data}
    (hne : name ≠ some []) (hload : site.loadData files channel name = .ok data) :
    site.DataPresent files channel name := by
  intro asked hasked
  cases loadData_eq_ok_iff.mp hload with
  | unasked => cases hasked
  | empty => exact absurd rfl hne
  | object _ named read _ =>
      cases hasked
      exact ⟨_, named, FileTree.isFile_of_readText read⟩

/-- Data whose file is there may be unreadable or malformed, but not missing. -/
theorem not_dataMissing_of_dataPresent {name : Option Text} {failure : Failure}
    (hpresent : site.DataPresent files channel name)
    (hload : site.loadData files channel name = .error failure) (path : Text) :
    failure ≠ .dataMissing path := by
  rintro rfl
  unfold loadData at hload
  split at hload
  · cases hload
  · next asked hasked =>
      obtain ⟨rfl, -⟩ := Option.filter_eq_some_iff.mp hasked
      obtain ⟨place, hplace, hfile⟩ := hpresent asked rfl
      simp only [hplace, bind, Except.bind] at hload
      rcases FileTree.readText_of_isFile hfile with ⟨text, hread⟩ | hread
      · simp only [hread] at hload
        split at hload <;> cases hload
      · simp only [hread] at hload
        cases hload

theorem dataPath_eq_error {name : Text} {failure : Failure}
    (hpath : site.dataPath channel name = .error failure) :
    ∃ path, failure = .dataMissing path := by
  unfold dataPath at hpath
  split at hpath
  · cases hpath
    exact ⟨_, rfl⟩
  · cases hpath

theorem loadData_eq_error {name : Option Text} {failure : Failure}
    (hload : site.loadData files channel name = .error failure) :
    (∃ path, failure = .dataMissing path) ∨ (∃ path fault, failure = .unreadable path fault) ∨
      (∃ path text, failure = .dataMalformed path text) ∨
        ∃ path, failure = .dataNotObject path := by
  unfold loadData at hload
  split at hload
  · cases hload
  · next asked _ =>
      cases hpath : site.dataPath channel asked with
      | error other =>
          rw [hpath] at hload
          cases hload
          exact .inl (dataPath_eq_error hpath)
      | ok path =>
          simp only [hpath, bind, Except.bind] at hload
          split at hload
          · cases hload
            exact .inl ⟨path, rfl⟩
          · cases hload
            exact .inr (.inl ⟨path, _, rfl⟩)
          · next text _ =>
            split at hload
            · cases hload
              exact .inr (.inr (.inl ⟨path, text, rfl⟩))
            · cases hload
            · cases hload
              exact .inr (.inr (.inr ⟨path, rfl⟩))

theorem HasTemplate.unique {name : Text} {first second : Loaded}
    (hfirst : site.HasTemplate files channel name first)
    (hsecond : site.HasTemplate files channel name second) : first = second := by
  rw [← loadTemplate_eq_ok_iff] at hfirst hsecond
  exact Except.ok.inj (hfirst.symm.trans hsecond)

theorem HasData.unique {name : Option Text} {first second : Option Data}
    (hfirst : site.HasData files channel name first)
    (hsecond : site.HasData files channel name second) : first = second := by
  rw [← loadData_eq_ok_iff] at hfirst hsecond
  exact Except.ok.inj (hfirst.symm.trans hsecond)

theorem isFile_of_locate {name : Text} {source : Source}
    (hlocate : site.locate files channel name = .ok (.found source)) :
    files.isFile source.full = true := by
  obtain ⟨relative, -, hholder⟩ := locate_eq_found_iff.mp hlocate
  exact holder?_isFile hholder

def small : Site := ⟨["r".toList], "d".toList, ".html".toList, ".json".toList⟩

def small.tree (texts : List (String × String)) : FileTree :=
  texts.foldl (fun tree text =>
    tree.put ["r".toList, text.1.toList] (.file (Text.toUtf8 text.2.toList))) .empty

end Transclusion.Site
