import Transclusion.Proofs.Site.Containment

namespace Transclusion

/-! File trees that are the same below the roots of a site hold the same templates for it. -/

namespace FileTree

variable {first second : FileTree} {directory : Text} {place names : List Text}

/-- Whatever lies further down than the directory is the same in both trees. -/
def AgreeBelow (first second : FileTree) (directory : Text) : Prop :=
  ∀ path, Path.Descends path →
    first.look (Path.join directory path) = second.look (Path.join directory path)

theorem walk_congr (hnames : ∀ name ∈ names, Path.IsStep name)
    (hagree : ∀ further, further <+: names →
      first.at? (place ++ further) = second.at? (place ++ further)) :
    first.walk place names = second.walk place names := by
  induction names generalizing place with
  | nil =>
      have hhere := hagree [] List.nil_prefix
      rw [List.append_nil] at hhere
      simp only [walk, hhere]
  | cons name names ih =>
      have hhere := hagree [] List.nil_prefix
      rw [List.append_nil] at hhere
      have hname := hnames name List.mem_cons_self
      have hrest : first.walk (place ++ [name]) names =
          second.walk (place ++ [name]) names := by
        apply ih
        · intro other hmem
          exact hnames other (List.mem_cons_of_mem _ hmem)
        · intro further hfurther
          rw [List.append_assoc, List.singleton_append]
          exact hagree (name :: further) (List.cons_prefix_cons.mpr ⟨rfl, hfurther⟩)
      simp only [walk, hhere, stepFrom_of_isStep place hname, hrest]

theorem split_join_of_descends {path : Text} (hdirectory : Path.Descends directory)
    (hpath : Path.Descends path) :
    Text.split '/' (Path.join directory path) =
      Text.split '/' directory ++ Text.split '/' path := by
  have hopen : (directory.isEmpty || directory.getLast? == some '/') = false := by
    rw [Bool.or_eq_false_iff, List.isEmpty_eq_false_iff, beq_eq_false_iff_ne]
    refine ⟨hdirectory.ne_nil, fun hlast => ?_⟩
    obtain ⟨front, rfl⟩ := List.getLast?_eq_some_iff.mp hlast
    have hsplit := Text.split_append '/' front []
    exact (hdirectory.steps [] (by rw [hsplit]; simp)).1 rfl
  simp only [Path.join, hpath.isAbsolute_eq_false, hopen, Bool.false_eq_true, ↓reduceIte,
    Text.split_append]

/-- Trees seen from one place agree below a directory if they do at the places on the way there and
from there on. -/
theorem agreeBelow_of_at? (hdirectory : Path.Descends directory) (hhome : first.home = second.home)
    (hagree : ∀ further,
      further <+: Text.split '/' directory ∨ Text.split '/' directory <+: further →
        first.at? (first.home ++ further) = second.at? (first.home ++ further)) :
    first.AgreeBelow second directory := by
  intro path hpath
  have hrelative : Path.isAbsolute (Path.join directory path) = false := by
    rw [Path.isAbsolute_join hpath, hdirectory.isAbsolute_eq_false]
  have hwalk : first.walk first.home (Text.split '/' (Path.join directory path)) =
      second.walk first.home (Text.split '/' (Path.join directory path)) := by
    rw [split_join_of_descends hdirectory hpath]
    apply walk_congr
    · intro name hmem
      rcases List.mem_append.mp hmem with hmem | hmem
      · exact hdirectory.steps name hmem
      · exact hpath.steps name hmem
    · intro further hfurther
      exact hagree further
        (List.prefix_or_prefix_of_prefix hfurther (List.prefix_append _ _))
  simp only [look, start, hrelative, Bool.false_eq_true, ↓reduceIte, ← hhome, hwalk]

end FileTree

namespace Site

variable {site : Site} {first second : FileTree} {channel : Channel} {name relative : Text}
  (hagree : ∀ root ∈ site.roots, first.AgreeBelow second root)
include hagree

theorem holder?_congr (hrelative : Path.Descends relative) :
    site.holder? first relative = site.holder? second relative := by
  have hfind : site.roots.find? (fun root => first.isFile (Path.join root relative)) =
      site.roots.find? (fun root => second.isFile (Path.join root relative)) := by
    rw [← List.head?_filter, ← List.head?_filter]
    apply congrArg List.head?
    apply List.filter_congr
    intro root hroot
    exact FileTree.isFile_congr (hagree root hroot relative hrelative)
  rw [holder?, holder?, hfind]

theorem locate_congr : site.locate first channel name = site.locate second channel name := by
  unfold locate
  cases hrelative : Reference.relative? site.templateExt channel.name name with
  | none => rfl
  | some relative =>
      have hholder := holder?_congr hagree (Reference.descends_of_relative? hrelative)
      simp only [hholder]

theorem loadTemplate_congr :
    site.loadTemplate first channel name = site.loadTemplate second channel name := by
  have hlocate : site.locate first channel name = site.locate second channel name :=
    locate_congr hagree
  cases hlocated : site.locate second channel name with
  | error failure => simp only [loadTemplate, hlocate, hlocated, bind, Except.bind]
  | ok located =>
      cases located with
      | unmatched path => simp only [loadTemplate, hlocate, hlocated, bind, Except.bind]
      | found source =>
          obtain ⟨hroot, hdescends⟩ := descends_of_locate_found hlocated
          have hread : first.readText source.full = second.readText source.full :=
            FileTree.readText_congr (hagree source.root hroot source.relative hdescends)
          simp only [loadTemplate, hlocate, hlocated, hread, bind, Except.bind]

end Site

end Transclusion
