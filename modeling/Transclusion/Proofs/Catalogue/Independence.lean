import Transclusion.Proofs.Catalogue.Expansion
import Transclusion.Proofs.Site.Agreement

namespace Transclusion

/-! Which templates a page comes to include is settled by the files below the roots. The data have
no say in it, neither in what is found nor in what is missing. -/

def Partial.bare (entry : Partial) : Partial :=
  { entry with data := none }

namespace Catalogue

variable {flags : List Text} {load other : Directive → Except Failure Partial} {texts : List Text}
  {catalogue : Catalogue} {nesting : Nesting} {entry : Partial}

/-- The keys of a catalogue, and under each of them the source and the content. -/
def bare (catalogue : Catalogue) : Catalogue :=
  Dict.mapValues Partial.bare catalogue

theorem isDue_mapValues (change : Partial → Partial) (catalogue : Catalogue)
    (directive : Directive) :
    isDue (Dict.mapValues change catalogue) directive = isDue catalogue directive := by
  rw [isDue, isDue, Dict.contains_mapValues]

theorem gatherEach_mapValues (change : Partial → Partial) (texts : List Text)
    (catalogue : Catalogue) :
    gatherEach flags (fun directive => (load directive).map change) texts
        (Dict.mapValues change catalogue) =
      ((gatherEach flags load texts catalogue).1,
        Dict.mapValues change (gatherEach flags load texts catalogue).2) := by
  induction texts generalizing catalogue with
  | nil => rfl
  | cons text texts ih =>
      cases hparse : parse flags text with
      | error failure => simp only [gatherEach, hparse]
      | ok directive =>
          cases hdue : isDue catalogue directive with
          | false =>
              simp only [gatherEach, hparse, isDue_mapValues, hdue, Bool.false_eq_true, ↓reduceIte,
                ih]
          | true =>
              cases hload : load directive with
              | error failure =>
                  simp only [gatherEach, hparse, isDue_mapValues, hdue, ↓reduceIte, hload]
                  rfl
              | ok entry =>
                  have hmap : (Except.ok entry : Except Failure Partial).map change =
                      .ok (change entry) := rfl
                  simp only [gatherEach, hparse, isDue_mapValues, hdue, ↓reduceIte, hload, hmap,
                    ← Dict.mapValues_insert, ih]

theorem gatherEach_congr
    (hload : ∀ text ∈ texts, ∀ directive, Directive.parse? flags text = some directive →
      load directive = other directive) (catalogue : Catalogue) :
    gatherEach flags load texts catalogue = gatherEach flags other texts catalogue := by
  induction texts generalizing catalogue with
  | nil => rfl
  | cons text texts ih =>
      have hrest := fun catalogue =>
        ih (fun text hmem => hload text (List.mem_cons_of_mem _ hmem)) catalogue
      simp only [gatherEach, hrest]
      cases hparse : parse flags text with
      | error failure => rfl
      | ok directive =>
          simp only [hload text List.mem_cons_self directive (parse_eq_ok_iff.mp hparse)]

theorem expandEntry_bare :
    expandEntry nesting entry.bare =
      ((expandEntry nesting entry).1, (expandEntry nesting entry).2.bare) := by
  have hexpand : nesting.expand entry.bare.source.toList entry.bare.content =
      nesting.expand entry.source.toList entry.content := rfl
  unfold expandEntry
  rw [hexpand]
  cases nesting.expand entry.source.toList entry.content <;> rfl

theorem expand_bare (nesting : Nesting) (catalogue : Catalogue) :
    expand nesting catalogue.bare =
      ((expand nesting catalogue).1, (expand nesting catalogue).2.bare) :=
  Dict.sweep_mapValues (fun _ => expandEntry_bare) catalogue

end Catalogue

namespace Site

variable {site : Site} {files first second : FileTree} {channel : Channel} {flags : List Text}
  {body : Text} {directive : Directive}

/-- All the data that the directives of a page name are there and are objects. -/
def Supplies (site : Site) (files : FileTree) (channel : Channel) (flags : List Text)
    (body : Text) : Prop :=
  ∀ word ∈ Markup.directives body, ∀ directive, Directive.parse? flags word = some directive →
    ∃ own, site.HasData files channel directive.dataRef own

theorem map_bare_load {own : Option Data}
    (hdata : site.HasData files channel directive.dataRef own) :
    (Catalogue.load site files channel directive).map Partial.bare =
      (site.loadTemplate files channel directive.templateRef).map
        fun loaded => ⟨loaded.source, loaded.content, none⟩ := by
  unfold Catalogue.load
  rw [loadData_eq_ok_iff.mpr hdata]
  cases site.loadTemplate files channel directive.templateRef <;> rfl

theorem map_bare_load_congr (hagree : ∀ root ∈ site.roots, first.AgreeBelow second root)
    (hfirst : site.Supplies first channel flags body)
    (hsecond : site.Supplies second channel flags body) :
    ∀ word ∈ Markup.directives body, ∀ directive, Directive.parse? flags word = some directive →
      (Catalogue.load site first channel directive).map Partial.bare =
        (Catalogue.load site second channel directive).map Partial.bare := by
  intro word hword directive hparse
  obtain ⟨own, hown⟩ := hfirst word hword directive hparse
  obtain ⟨other, hother⟩ := hsecond word hword directive hparse
  rw [map_bare_load hown, map_bare_load hother, loadTemplate_congr hagree]

theorem nesting_congr (hagree : ∀ root ∈ site.roots, first.AgreeBelow second root)
    (maxDepth : Nat) :
    site.nesting first channel flags maxDepth = site.nesting second channel flags maxDepth := by
  have hload : site.loadTemplate first channel = site.loadTemplate second channel := by
    funext name
    exact loadTemplate_congr hagree
  rw [nesting, nesting, hload]

end Site

namespace Catalogue

variable {site : Site} {first second : FileTree} {channel : Channel} {flags : List Text}
  {body : Text}

theorem gather_bare_congr (hagree : ∀ root ∈ site.roots, first.AgreeBelow second root)
    (hfirst : site.Supplies first channel flags body)
    (hsecond : site.Supplies second channel flags body) :
    ((gather flags (load site first channel) body []).1,
        (gather flags (load site first channel) body []).2.bare) =
      ((gather flags (load site second channel) body []).1,
        (gather flags (load site second channel) body []).2.bare) := by
  have hbare := fun files =>
    @gatherEach_mapValues flags (load site files channel) Partial.bare (Markup.directives body) []
  have hsame := gatherEach_congr (Site.map_bare_load_congr hagree hfirst hsecond) []
  exact (hbare first).symm.trans (hsame.trans (hbare second))

/-- Over two file trees that agree below the roots, and that both hold the data that a page names,
gathering ends the same way and so does expanding: with the same failure, if any, and with the same
source and content under the same keys. -/
theorem included_whatever_the_data (site : Site) (first second : FileTree) (channel : Channel)
    (flags : List Text) (body : Text) (maxDepth : Nat)
    (hagree : ∀ root ∈ site.roots, first.AgreeBelow second root)
    (hfirst : site.Supplies first channel flags body)
    (hsecond : site.Supplies second channel flags body) :
    let gathered := fun files => gather flags (load site files channel) body []
    let expanded := fun files =>
      expand (site.nesting files channel flags maxDepth) (gathered files).2
    (gathered first).1 = (gathered second).1 ∧
      (gathered first).2.bare = (gathered second).2.bare ∧
      (expanded first).1 = (expanded second).1 ∧
      (expanded first).2.bare = (expanded second).2.bare := by
  intro gathered expanded
  have hgathered := Prod.mk.inj (gather_bare_congr hagree hfirst hsecond)
  have hexpanded : ((expanded first).1, (expanded first).2.bare) =
      ((expanded second).1, (expanded second).2.bare) := by
    rw [← expand_bare, ← expand_bare, Site.nesting_congr hagree, hgathered.2]
  have hexpanded := Prod.mk.inj hexpanded
  exact ⟨hgathered.1, hgathered.2, hexpanded.1, hexpanded.2⟩

def baited (value : String) : FileTree :=
  (Site.small.tree [("a.html", "[{{> b}}]"), ("b.html", "y")]).put ["d".toList, "x.json".toList]
    (.file (Text.toUtf8 value.toList))

def baited.lure : String := "\x7b\"n\": \"{{> c}}\"\x7d"

def baited.plain : String := "\x7b\"m\": null\x7d"

theorem baited_agreeBelow (value other : String) :
    (baited value).AgreeBelow (baited other) "r".toList := by
  apply FileTree.agreeBelow_of_at?
  · apply Path.descends_of_steps
    intro name hname
    cases List.mem_singleton.mp hname
    exact ⟨by decide, by decide, by decide⟩
  · rfl
  · intro place hplace
    cases place with
    | nil => rfl
    | cons name names =>
        have hname : name = "r".toList := by
          rcases hplace with hplace | hplace
          · exact (List.cons_prefix_cons.mp hplace).1
          · exact (List.cons_prefix_cons.mp hplace).1.symm
        subst hname
        rfl

theorem supplies_baited {value : String} {members : Data}
    (hread : Json.read? value.toList = some (.object members)) :
    Site.small.Supplies (baited value) ⟨[]⟩ [] "{{> a|x}}".toList := by
  intro word hword directive hparse
  have htokens : Markup.tokens "{{> a|x}}".toList = [.directive "{{> a|x}}".toList] := by rfl
  rw [Markup.mem_directives, htokens, List.mem_singleton] at hword
  cases hword
  have hasked : Directive.parse? [] "{{> a|x}}".toList =
      some ⟨"a|x".toList, ['a'], some ['x'], []⟩ := by rfl
  cases hasked.symm.trans hparse
  exact ⟨some members, .object (by decide) rfl (FileTree.readText_of_readBytes rfl) hread⟩

theorem included_of_baited :
    let expanded := fun value =>
      expand (Site.small.nesting (baited value) ⟨[]⟩ [] 4)
        (gather [] (load Site.small (baited value) ⟨[]⟩) "{{> a|x}}".toList []).2
    (expanded baited.lure).1 = (expanded baited.plain).1 ∧
      (expanded baited.lure).2.bare = (expanded baited.plain).2.bare := by
  have hroots : ∀ root ∈ Site.small.roots,
      (baited baited.lure).AgreeBelow (baited baited.plain) root := by
    intro root hroot
    cases List.mem_singleton.mp hroot
    exact baited_agreeBelow _ _
  have hlure : Json.read? baited.lure.toList =
      some (.object [(['n'], .string "{{> c}}".toList)]) := by cbv
  have hplain : Json.read? baited.plain.toList =
      some (.object [(['m'], .null)]) := by cbv
  exact (included_whatever_the_data Site.small _ _ ⟨[]⟩ [] _ 4 hroots
    (supplies_baited hlure) (supplies_baited hplain)).2.2

end Catalogue

end Transclusion
