import Transclusion.Proofs.Publication
import Transclusion.Report

namespace Transclusion

/-! What the report on a page has to do with gathering what its directives ask for. -/

variable {flags : List Text} {site : Site} {files : FileTree} {channel : Channel}
  {publisher : Publisher} {body word : Text} {directive : Directive} {status : Status}

namespace Report

theorem isFine_ofData_iff {name : Option Text} :
    (ofData site files channel name).2.isFine = true ↔ site.DataPresent files channel name := by
  unfold ofData Site.DataPresent
  split
  · simp [Status.isFine]
  · next name =>
      split
      · next path hpath =>
          cases hfile : files.isFile path <;> simp [Status.isFine, hpath, hfile]
      · next failure hpath => simp [Status.isFine, hpath]

theorem isFine_ofTemplate_iff {name : Text} :
    (ofTemplate site files channel name status).2.isFine = true ↔
      (∃ source, site.locate files channel name = .ok (.found source)) ∧ status.isFine = true ∨
        (∃ path, site.locate files channel name = .ok (.unmatched path)) := by
  unfold ofTemplate
  split <;> simp_all [Status.isFine]

theorem isFine_ofDirective_iff :
    (ofDirective flags site files channel word).status.isFine = true ↔
      ∃ directive, Directive.parse? flags word = some directive ∧
        ((∃ source, site.locate files channel directive.templateRef = .ok (.found source)) ∧
            site.DataPresent files channel directive.dataRef ∨
          ∃ path, site.locate files channel directive.templateRef = .ok (.unmatched path)) := by
  unfold ofDirective
  cases hparse : Directive.parse? flags word with
  | none => simp [Status.isFine]
  | some directive =>
      simp only [Option.some.injEq, exists_eq_left']
      rw [isFine_ofTemplate_iff, isFine_ofData_iff]

theorem status_of_unmatched {path : Text} (hparse : Directive.parse? flags word = some directive)
    (hlocate : site.locate files channel directive.templateRef = .ok (.unmatched path)) :
    (ofDirective flags site files channel word).status = .unmatched := by
  simp only [ofDirective, hparse, ofTemplate, hlocate]

theorem key_ofDirective (hparse : Directive.parse? flags word = some directive) :
    (ofDirective flags site files channel word).key = some directive.key ∧
      (ofDirective flags site files channel word).flags = directive.flags := by
  simp only [ofDirective, hparse, and_self]

theorem directive_ofDirective : (ofDirective flags site files channel word).directive = word := by
  unfold ofDirective
  split <;> rfl

end Report

section Load

variable {entry : Partial} {failure : Failure}

theorem isFine_of_load (hparse : Directive.parse? flags word = some directive)
    (hload : Catalogue.load site files channel directive = .ok entry) :
    (Report.ofDirective flags site files channel word).status.isFine = true := by
  obtain ⟨hdata, htemplate⟩ := Catalogue.load_eq_ok_iff.mp hload
  refine Report.isFine_ofDirective_iff.mpr ⟨directive, hparse, ?_⟩
  rcases Site.loadTemplate_eq_ok_iff_locate.mp htemplate with
    ⟨source, content, hlocate, -, -⟩ | ⟨path, hlocate, -⟩
  · exact .inl ⟨⟨source, hlocate⟩,
      Site.dataPresent_of_loadData (Directive.dataRef_ne_nil hparse) hdata⟩
  · exact .inr ⟨path, hlocate⟩

theorem load_failure_of_isFine
    (hfine : (Report.ofDirective flags site files channel word).status.isFine = true)
    (hparse : Directive.parse? flags word = some directive)
    (hload : Catalogue.load site files channel directive = .error failure) :
    (∀ text, failure ≠ .malformed text) ∧ (∀ path, failure ≠ .templateMissing path) ∧
      ∀ path, failure = .dataMissing path →
        (Report.ofDirective flags site files channel word).status = .unmatched ∧
          site.loadData files channel directive.dataRef = .error (.dataMissing path) := by
  obtain ⟨other, hother, hreport⟩ := Report.isFine_ofDirective_iff.mp hfine
  cases hparse.symm.trans hother
  rcases Catalogue.load_eq_error hload with hdata | ⟨-, htemplate⟩
  · have hforms := Site.loadData_eq_error hdata
    refine ⟨fun text hfailure => ?_, fun path hfailure => ?_, fun path hfailure => ?_⟩
    · rw [hfailure] at hforms
      simp at hforms
    · rw [hfailure] at hforms
      simp at hforms
    · subst hfailure
      rcases hreport with ⟨-, hpresent⟩ | ⟨path', hlocate⟩
      · exact absurd rfl (Site.not_dataMissing_of_dataPresent hpresent hdata path)
      · exact ⟨Report.status_of_unmatched hparse hlocate, hdata⟩
  · rcases Site.loadTemplate_eq_error htemplate with hlocate | ⟨source, -, rfl⟩
    · rcases hreport with ⟨⟨source, hfound⟩, -⟩ | ⟨path, hunmatched⟩
      · cases hfound.symm.trans hlocate
      · cases hunmatched.symm.trans hlocate
    · simp

end Load

namespace Publisher

def gathered (publisher : Publisher) (files : FileTree) (channel : Channel) (body : Text) :
    Except Failure Nat × Catalogue :=
  Catalogue.gather publisher.settings.flags
    (Catalogue.load publisher.settings.site files channel) body []

/-- The report on a directive finds nothing wrong, and tells under which key and with which flags
its entry has been gathered. -/
structure Reports (publisher : Publisher) (files : FileTree) (channel : Channel)
    (catalogue : Catalogue) (word : Text) (report : Report) : Prop where
  directive : report.directive = word
  fine : report.status.isFine = true
  entry : ∃ directive entry, Directive.parse? publisher.settings.flags word = some directive ∧
    report.key = some directive.key ∧ report.flags = directive.flags ∧
      Dict.find? catalogue directive.key = some entry ∧
        Catalogue.load publisher.settings.site files channel directive = .ok entry

theorem reports_of_gathered {count : Nat} {catalogue : Catalogue}
    (hgathered : publisher.gathered files channel body = (.ok count, catalogue))
    (hword : word ∈ Markup.directives body) :
    publisher.Reports files channel catalogue word
      (Report.ofDirective publisher.settings.flags publisher.settings.site files channel word) := by
  obtain ⟨directive, entry, hparse, hfind, hload⟩ :=
    Catalogue.exists_find?_of_gather hgathered hword
  exact ⟨Report.directive_ofDirective, isFine_of_load hparse hload, directive, entry, hparse,
    (Report.key_ofDirective hparse).1, (Report.key_ofDirective hparse).2, hfind, hload⟩

/-- If the report finds nothing wrong with a page, gathering it does not fail for want of a name, a
template or data, unless data are missing beside a template that the channel has no variant of. If
gathering ends well, the report finds nothing wrong with any directive. -/
theorem inspect_agrees_with_gathered (publisher : Publisher) (files : FileTree) (channel : Channel)
    (body : Text) :
    ((∀ report ∈ publisher.inspect files channel body, report.status.isFine = true) →
      ∀ failure, (publisher.gathered files channel body).1 = .error failure →
        (∀ text, failure ≠ .malformed text) ∧ (∀ path, failure ≠ .templateMissing path) ∧
          ∀ path, failure = .dataMissing path →
            ∃ report ∈ publisher.inspect files channel body, report.status = .unmatched ∧
              ∃ directive, Directive.parse? publisher.settings.flags report.directive =
                  some directive ∧
                publisher.settings.site.loadData files channel directive.dataRef =
                  .error (.dataMissing path)) ∧
    ∀ count, (publisher.gathered files channel body).1 = .ok count →
      List.Forall₂ (publisher.Reports files channel (publisher.gathered files channel body).2)
        (Markup.directives body) (publisher.inspect files channel body) := by
  constructor
  · intro hfine failure hfailure
    rcases hgathered : publisher.gathered files channel body with ⟨outcome, catalogue⟩
    rw [hgathered] at hfailure
    cases hfailure
    obtain ⟨earlier, word, later, _, htexts, -, ⟨hparse, -⟩ | ⟨directive, hparse, -, hload⟩⟩ :=
      Catalogue.gatherEach_eq_error hgathered
    all_goals
      have hword : word ∈ Markup.directives body :=
        htexts ▸ List.mem_append_right earlier List.mem_cons_self
    · have hmem := hfine _ (List.mem_map_of_mem hword)
      obtain ⟨directive, hdirective, -⟩ := Report.isFine_ofDirective_iff.mp hmem
      cases hparse.symm.trans hdirective
    · have hmem := List.mem_map_of_mem (f := Report.ofDirective publisher.settings.flags
        publisher.settings.site files channel) hword
      obtain ⟨hmalformed, htemplate, hdata⟩ :=
        load_failure_of_isFine (hfine _ hmem) hparse hload
      refine ⟨hmalformed, htemplate, fun path hpath => ?_⟩
      obtain ⟨hunmatched, hmissing⟩ := hdata path hpath
      exact ⟨_, hmem, hunmatched, directive,
        by rw [Report.directive_ofDirective]; exact hparse, hmissing⟩
  · intro count hcount
    exact List.forall₂_map_right_iff.mpr (List.forall₂_same.mpr fun word hword =>
      reports_of_gathered (Prod.ext hcount rfl) hword)

theorem reports_of_variants :
    (small.gathered (Site.small.tree [("a.html", "x")]) ⟨['c']⟩
        "{{> a}}{{> b_%s}}".toList).1 = .ok 2 ∧
      List.Forall₂
        (small.Reports (Site.small.tree [("a.html", "x")]) ⟨['c']⟩
          (small.gathered (Site.small.tree [("a.html", "x")]) ⟨['c']⟩
            "{{> a}}{{> b_%s}}".toList).2)
        (Markup.directives "{{> a}}{{> b_%s}}".toList)
        (small.inspect (Site.small.tree [("a.html", "x")]) ⟨['c']⟩ "{{> a}}{{> b_%s}}".toList) :=
  ⟨by rfl, (inspect_agrees_with_gathered small _ _ _).2 2 (by rfl)⟩

/-- A report that tells only of the missing variant, where gathering fails for want of data. -/
theorem missing_data_unreported : ¬ ∀ (publisher : Publisher) (files : FileTree)
    (channel : Channel) (body : Text),
    (∀ report ∈ publisher.inspect files channel body, report.status.isFine = true) →
      ∀ path, (publisher.gathered files channel body).1 ≠ .error (.dataMissing path) := by
  intro hagrees
  have hfine : ∀ report ∈ small.inspect .empty ⟨['c']⟩ "{{> a_%s|b}}".toList,
      report.status.isFine = true := by decide
  exact hagrees small .empty ⟨['c']⟩ "{{> a_%s|b}}".toList hfine "d/b.json".toList rfl

end Publisher

end Transclusion
