import Transclusion.Proofs.Catalogue.Expansion
import Transclusion.Session

namespace Transclusion

/-! What a page is published as. Each directive comes to a portion of its own, whatever else stands
on the page. -/

variable {publisher : Publisher} {files : FileTree} {channel : Channel} {page : Text}
  {shared : Data} {body out word portion : Text} {directive : Directive} {entry : Partial}
  {count : Nat} {catalogue : Catalogue}

namespace Publisher

/-- The names of a template and of data come to a portion: the template, with all that it includes
in place, rendered against the data with the shared data laid over them. -/
inductive Yields (publisher : Publisher) (files : FileTree) (channel : Channel) (shared : Data)
    (templateRef : Text) (dataRef : Option Text) (portion : Text) : Prop where
  | intro {loaded : Loaded} {own : Option Data} {content : Text}
      (template : publisher.settings.site.HasTemplate files channel templateRef loaded)
      (data : publisher.settings.site.HasData files channel dataRef own)
      (composable : ∀ file, loaded.source = some file →
        publisher.settings.site.Composable files channel publisher.settings.flags
          publisher.settings.maxDepth file.full)
      (unfolds : publisher.settings.site.Unfolds files channel publisher.settings.flags
        (Markup.tokens loaded.content) content)
      (rendered : Template.render publisher.settings.autoescape content
        (own.elim shared (Dict.overlay · shared)) = .ok portion)

def Stands (publisher : Publisher) (files : FileTree) (channel : Channel) (shared : Data)
    (word portion : Text) : Prop :=
  ∃ directive, Directive.parse? publisher.settings.flags word = some directive ∧
    publisher.Yields files channel shared directive.templateRef directive.dataRef portion

/-- The bytes of every directive give way to its portion, and all other bytes stay. -/
def Publishes (publisher : Publisher) (files : FileTree) (channel : Channel) (shared : Data)
    (body out : Text) : Prop :=
  ∃ portions, List.Forall₂ (publisher.Stands files channel shared) (Markup.directives body)
      portions ∧
    Markup.Filled 0 (Markup.spans body) portions body out

theorem publishes_iff_replaced :
    publisher.Publishes files channel shared body out ↔
      Markup.Replaced (publisher.Stands files channel shared) (Markup.tokens body) out :=
  Markup.replaced_iff_filled.symm

theorem Yields.unique {templateRef first second : Text} {dataRef : Option Text}
    (hfirst : publisher.Yields files channel shared templateRef dataRef first)
    (hsecond : publisher.Yields files channel shared templateRef dataRef second) :
    first = second := by
  obtain ⟨template, data, -, unfolds, rendered⟩ := hfirst
  obtain ⟨template', data', -, unfolds', rendered'⟩ := hsecond
  cases template.unique template'
  cases data.unique data'
  cases unfolds.unique unfolds'
  exact Except.ok.inj (rendered.symm.trans rendered')

theorem Yields.exists_load
    (hyields : publisher.Yields files channel shared directive.templateRef directive.dataRef
      portion) :
    ∃ entry, Catalogue.load publisher.settings.site files channel directive = .ok entry := by
  obtain ⟨template, data, -, -, -⟩ := hyields
  exact ⟨⟨_, _, _⟩, Catalogue.load_eq_ok_iff.mpr
    ⟨Site.loadData_eq_ok_iff.mpr data, Site.loadTemplate_eq_ok_iff.mpr template⟩⟩

theorem Stands.exists_load (hstands : publisher.Stands files channel shared word portion) :
    ∃ directive entry, Directive.parse? publisher.settings.flags word = some directive ∧
      Catalogue.load publisher.settings.site files channel directive = .ok entry := by
  obtain ⟨directive, hparse, hyields⟩ := hstands
  obtain ⟨entry, hload⟩ := hyields.exists_load
  exact ⟨directive, entry, hparse, hload⟩

def small : Publisher where
  settings := { roots := ["r".toList], dataDir := "d".toList }
  pattern := none
  defaults := .empty

end Publisher

namespace Session

abbrev nestingOf (publisher : Publisher) (files : FileTree) (channel : Channel) :
    Catalogue.Nesting :=
  publisher.settings.site.nesting files channel publisher.settings.flags
    publisher.settings.maxDepth

def expanded (publisher : Publisher) (files : FileTree) (channel : Channel) (entry : Partial) :
    Except Failure Unit × Partial :=
  Catalogue.expandEntry (nestingOf publisher files channel) entry

def finished (publisher : Publisher) (files : FileTree) (channel : Channel) (shared : Data)
    (entry : Partial) : Except Failure Unit × Partial :=
  Catalogue.renderEntry (Template.render publisher.settings.autoescape) shared
    (expanded publisher files channel entry).2

abbrev allFinished (publisher : Publisher) (files : FileTree) (channel : Channel) (shared : Data)
    (catalogue : Catalogue) : Catalogue :=
  Dict.mapValues (fun entry => (finished publisher files channel shared entry).2) catalogue

theorem renderEntry_eq_ok_iff {render : Text → Data → Except TemplateError Text} {text : Text} :
    (Catalogue.renderEntry render shared entry).1 = .ok () ∧
        (Catalogue.renderEntry render shared entry).2.content = text ↔
      render entry.content (entry.data.elim shared (Dict.overlay · shared)) = .ok text := by
  have hcontext : entry.context shared = entry.data.elim shared (Dict.overlay · shared) := by
    unfold Partial.context
    cases entry.data <;> rfl
  unfold Catalogue.renderEntry
  rw [hcontext]
  cases render entry.content (entry.data.elim shared (Dict.overlay · shared)) with
  | error error => simp
  | ok content => simp

theorem finished_iff_yields
    (hload : Catalogue.load publisher.settings.site files channel directive = .ok entry) :
    (expanded publisher files channel entry).1 = .ok () ∧
        (finished publisher files channel shared entry).1 = .ok () ∧
        (finished publisher files channel shared entry).2.content = portion ↔
      publisher.Yields files channel shared directive.templateRef directive.dataRef portion := by
  obtain ⟨hdata, htemplate⟩ := Catalogue.load_eq_ok_iff.mp hload
  rw [finished, renderEntry_eq_ok_iff]
  constructor
  · rintro ⟨hexpanded, hrendered⟩
    have hcomposed := Site.composed_of_expandEntry htemplate hexpanded
    rw [expanded, hcomposed.data] at hrendered
    exact .intro (Site.loadTemplate_eq_ok_iff.mp htemplate) (Site.loadData_eq_ok_iff.mp hdata)
      ((Site.expandEntry_ok_iff htemplate).mp hexpanded) hcomposed.content hrendered
  · rintro ⟨template, data, composable, unfolds, rendered⟩
    rw [← Site.loadTemplate_eq_ok_iff, htemplate] at template
    rw [← Site.loadData_eq_ok_iff, hdata] at data
    cases template
    cases data
    have hexpanded := (Site.expandEntry_ok_iff htemplate).mpr composable
    have hcomposed := Site.composed_of_expandEntry htemplate hexpanded
    refine ⟨hexpanded, ?_⟩
    rw [expanded, hcomposed.data, hcomposed.content.unique unfolds]
    exact rendered

theorem yields_of_load
    (hload : Catalogue.load publisher.settings.site files channel directive = .ok entry)
    (hspans : Markup.spans entry.content = [])
    (hrender : Template.render publisher.settings.autoescape entry.content
      (entry.data.elim shared (Dict.overlay · shared)) = .ok portion) :
    publisher.Yields files channel shared directive.templateRef directive.dataRef portion := by
  refine (finished_iff_yields hload).mp ?_
  rw [finished, renderEntry_eq_ok_iff]
  unfold expanded Catalogue.expandEntry
  rw [Catalogue.Nesting.expand_self _ _ hspans]
  exact ⟨rfl, hrender⟩

section Steps

variable {session : Session} {outcome : Except Failure Unit}

theorem gather_eq {counted : Except Failure Nat}
    (hgather : Catalogue.gather publisher.settings.flags
      (Catalogue.load publisher.settings.site files session.channel) body session.catalogue =
        (counted, catalogue)) :
    session.gather publisher files body = (counted, { session with catalogue }) := by
  simp only [gather, hgather]

theorem expand_eq
    (hexpand : Catalogue.expand (nestingOf publisher files session.channel) session.catalogue =
      (outcome, catalogue)) :
    session.expand publisher files = (outcome, { session with catalogue }) := by
  change Catalogue.expand (session.nesting publisher files) session.catalogue = _ at hexpand
  simp only [expand, hexpand]

theorem render_eq
    (hrender : Catalogue.render (Template.render publisher.settings.autoescape) session.shared
      session.catalogue = (outcome, catalogue)) :
    session.render publisher = (outcome, { session with catalogue }) := by
  simp only [render, hrender]

theorem run_eq_ok_iff_steps :
    (session.run publisher files body).1 = .ok out ↔
      ∃ count gathered,
        Catalogue.gather publisher.settings.flags
          (Catalogue.load publisher.settings.site files session.channel) body session.catalogue =
            (.ok count, gathered) ∧
        ∃ composed, Catalogue.expand (nestingOf publisher files session.channel) gathered =
            (.ok (), composed) ∧
          ∃ rendered, Catalogue.render (Template.render publisher.settings.autoescape)
              session.shared composed = (.ok (), rendered) ∧
            Catalogue.splice publisher.settings.flags rendered body = .ok out := by
  rcases hgather : Catalogue.gather publisher.settings.flags
    (Catalogue.load publisher.settings.site files session.channel) body session.catalogue
    with ⟨failure | count, gathered⟩
  · simp [run, gather_eq hgather]
  · rcases hexpand : Catalogue.expand (nestingOf publisher files session.channel) gathered
      with ⟨failure | _, composed⟩
    · have hstep := @expand_eq _ _ _ { session with catalogue := gathered } _ hexpand
      simp [run, gather_eq hgather, hstep, hexpand]
    · have hstep := @expand_eq _ _ _ { session with catalogue := gathered } _ hexpand
      rcases hrender : Catalogue.render (Template.render publisher.settings.autoescape)
        session.shared composed with ⟨failure | _, rendered⟩
      · have hlast := @render_eq _ _ { session with catalogue := composed } _ hrender
        simp [run, gather_eq hgather, hstep, hlast, hexpand, hrender]
      · have hlast := @render_eq _ _ { session with catalogue := composed } _ hrender
        simp [run, gather_eq hgather, hstep, hlast, hexpand, hrender, splice]

theorem run_eq_of_steps {gathered composed rendered : Catalogue}
    (hgather : Catalogue.gather publisher.settings.flags
      (Catalogue.load publisher.settings.site files session.channel) body session.catalogue =
        (.ok count, gathered))
    (hexpand : Catalogue.expand (nestingOf publisher files session.channel) gathered =
      (.ok (), composed))
    (hrender : Catalogue.render (Template.render publisher.settings.autoescape) session.shared
      composed = (.ok (), rendered)) :
    session.run publisher files body =
      (Catalogue.splice publisher.settings.flags rendered body,
        { session with catalogue := rendered }) := by
  have hstep := @expand_eq _ _ _ { session with catalogue := gathered } _ hexpand
  have hlast := @render_eq _ _ { session with catalogue := composed } _ hrender
  simp only [run, gather_eq hgather, hstep, hlast]
  rfl

end Steps

theorem expand_render_eq_ok_iff {gathered rendered : Catalogue} :
    (∃ composed, Catalogue.expand (nestingOf publisher files channel) gathered =
        (.ok (), composed) ∧
      Catalogue.render (Template.render publisher.settings.autoescape) shared composed =
        (.ok (), rendered)) ↔
      (∀ key entry, (key, entry) ∈ gathered →
        (expanded publisher files channel entry).1 = .ok () ∧
          (finished publisher files channel shared entry).1 = .ok ()) ∧
        allFinished publisher files channel shared gathered = rendered := by
  unfold Catalogue.expand Catalogue.render
  simp only [Dict.sweep_eq_ok_iff]
  constructor
  · rintro ⟨composed, ⟨hexpanded, rfl⟩, hfinished, rfl⟩
    refine ⟨fun key entry hmem => ⟨hexpanded key entry hmem, ?_⟩, ?_⟩
    · exact hfinished key _ (Dict.mem_mapValues.mpr ⟨entry, hmem, rfl⟩)
    · rw [Dict.mapValues_mapValues]
      rfl
  · rintro ⟨hentries, rfl⟩
    refine ⟨_, ⟨fun key entry hmem => (hentries key entry hmem).1, rfl⟩, ?_, ?_⟩
    · intro key composed hmem
      obtain ⟨entry, hentry, rfl⟩ := Dict.mem_mapValues.mp hmem
      exact (hentries key entry hentry).2
    · rw [Dict.mapValues_mapValues]
      rfl

/-- Every directive of the body has an entry in the catalogue, and nothing else is there. The entry
can be finished just if the directive comes to a portion, and then holds it. -/
structure Ready (publisher : Publisher) (files : FileTree) (channel : Channel) (shared : Data)
    (body : Text) (comesTo : Text → Text → Prop) (catalogue : Catalogue) : Prop where
  asked : ∀ key entry, (key, entry) ∈ catalogue → ∃ word ∈ Markup.directives body,
    ∃ directive, Directive.parse? publisher.settings.flags word = some directive ∧
      Dict.find? catalogue directive.key = some entry
  answered : ∀ word ∈ Markup.directives body, ∃ directive entry,
    Directive.parse? publisher.settings.flags word = some directive ∧
      Dict.find? catalogue directive.key = some entry ∧
      ∀ portion, (expanded publisher files channel entry).1 = .ok () ∧
        (finished publisher files channel shared entry).1 = .ok () ∧
        (finished publisher files channel shared entry).2.content = portion ↔
          comesTo word portion

namespace Ready

variable {comesTo : Text → Text → Prop}
  (hready : Ready publisher files channel shared body comesTo catalogue)
include hready

theorem finished
    (hportions : ∀ word ∈ Markup.directives body, ∃ portion, comesTo word portion) :
    ∀ key entry, (key, entry) ∈ catalogue →
      (expanded publisher files channel entry).1 = .ok () ∧
        (Session.finished publisher files channel shared entry).1 = .ok () := by
  intro key entry hmem
  obtain ⟨word, hword, directive, hparse, hfind⟩ := hready.asked key entry hmem
  obtain ⟨other, found, hother, hfound, hiff⟩ := hready.answered word hword
  cases hparse.symm.trans hother
  cases hfind.symm.trans hfound
  obtain ⟨portion, hportion⟩ := hportions word hword
  obtain ⟨hexpanded, hfinished, -⟩ := (hiff portion).mpr hportion
  exact ⟨hexpanded, hfinished⟩

theorem contentOf_eq_ok_iff
    (hentries : ∀ key entry, (key, entry) ∈ catalogue →
      (expanded publisher files channel entry).1 = .ok () ∧
        (Session.finished publisher files channel shared entry).1 = .ok ())
    (hword : word ∈ Markup.directives body) :
    Catalogue.contentOf publisher.settings.flags
        (allFinished publisher files channel shared catalogue) word = .ok portion ↔
      comesTo word portion := by
  obtain ⟨directive, entry, hparse, hfind, hiff⟩ := hready.answered word hword
  obtain ⟨hexpanded, hfinished⟩ := hentries _ _ (Dict.mem_of_find?_eq_some hfind)
  have hcontent : Catalogue.contentOf publisher.settings.flags
      (allFinished publisher files channel shared catalogue) word =
        .ok (Session.finished publisher files channel shared entry).2.content := by
    simp only [Catalogue.contentOf, Catalogue.parse_eq_ok_iff.mpr hparse, bind, Except.bind,
      Dict.find?_mapValues, hfind, Option.map_some]
    rfl
  rw [hcontent, ← hiff, Except.ok.injEq]
  exact ⟨fun heq => ⟨hexpanded, hfinished, heq⟩, fun hall => hall.2.2⟩

theorem run_eq_ok_iff {start : Catalogue}
    (hgather : Catalogue.gather publisher.settings.flags
      (Catalogue.load publisher.settings.site files channel) body start = (.ok count, catalogue)) :
    (Session.run publisher files body ⟨channel, page, shared, start⟩).1 = .ok out ↔
      Markup.Replaced comesTo (Markup.tokens body) out := by
  rw [run_eq_ok_iff_steps]
  constructor
  · rintro ⟨count', gathered, hgather', composed, hexpand, rendered, hrender, hsplice⟩
    cases hgather.symm.trans hgather'
    obtain ⟨hentries, rfl⟩ := expand_render_eq_ok_iff.mp ⟨composed, hexpand, hrender⟩
    refine (Markup.replace_eq_ok_iff.mp hsplice).mono fun word hword new hcontent => ?_
    exact (hready.contentOf_eq_ok_iff hentries (Markup.mem_directives.mpr hword)).mp hcontent
  · intro hreplaced
    have hentries := hready.finished fun word hword =>
      Markup.Replaced.exists_iff.mp ⟨out, hreplaced⟩ word (Markup.mem_directives.mp hword)
    obtain ⟨composed, hexpand, hrender⟩ := expand_render_eq_ok_iff.mpr ⟨hentries, rfl⟩
    refine ⟨count, catalogue, hgather, composed, hexpand, _, hrender, ?_⟩
    refine Markup.replace_eq_ok_iff.mpr (hreplaced.mono fun word hword new hnew => ?_)
    exact (hready.contentOf_eq_ok_iff hentries (Markup.mem_directives.mpr hword)).mpr hnew

end Ready

theorem run_eq_ok_iff_replaced {start : Catalogue} {comesTo : Text → Text → Prop}
    (hready : ∀ count gathered, Catalogue.gather publisher.settings.flags
      (Catalogue.load publisher.settings.site files channel) body start = (.ok count, gathered) →
        Ready publisher files channel shared body comesTo gathered)
    (hloads : ∀ word portion, comesTo word portion → ∃ directive entry,
      Directive.parse? publisher.settings.flags word = some directive ∧
        Catalogue.load publisher.settings.site files channel directive = .ok entry) :
    (Session.run publisher files body ⟨channel, page, shared, start⟩).1 = .ok out ↔
      Markup.Replaced comesTo (Markup.tokens body) out := by
  constructor
  · intro hrun
    obtain ⟨count, gathered, hgather, -⟩ := run_eq_ok_iff_steps.mp hrun
    exact ((hready count gathered hgather).run_eq_ok_iff hgather).mp hrun
  · intro hreplaced
    have hall : ∀ word ∈ Markup.directives body, ∃ directive entry,
        Directive.parse? publisher.settings.flags word = some directive ∧
          Catalogue.load publisher.settings.site files channel directive = .ok entry := by
      intro word hword
      obtain ⟨portion, hportion⟩ :=
        Markup.Replaced.exists_iff.mp ⟨out, hreplaced⟩ word (Markup.mem_directives.mp hword)
      exact hloads word portion hportion
    obtain ⟨count, gathered, hgather⟩ := Catalogue.exists_gatherEach hall start
    exact ((hready count gathered hgather).run_eq_ok_iff hgather).mpr hreplaced

theorem ready_of_gather
    (hgather : Catalogue.gather publisher.settings.flags
      (Catalogue.load publisher.settings.site files channel) body [] = (.ok count, catalogue)) :
    Ready publisher files channel shared body (publisher.Stands files channel shared)
      catalogue where
  asked key entry hmem := by
    obtain ⟨word, hword, directive, hparse, rfl, -⟩ :=
      Catalogue.gather_faithful hgather key entry hmem
    have hsorted := Catalogue.sorted_gatherEach Dict.Sorted.nil hgather
    exact ⟨word, hword, directive, hparse, hsorted.mem_iff_find?.mp hmem⟩
  answered word hword := by
    obtain ⟨directive, entry, hparse, hfind, hload⟩ :=
      Catalogue.exists_find?_of_gather hgather hword
    refine ⟨directive, entry, hparse, hfind, fun portion => ?_⟩
    rw [finished_iff_yields hload]
    constructor
    · exact fun hyields => ⟨directive, hparse, hyields⟩
    · rintro ⟨other, hother, hyields⟩
      cases hparse.symm.trans hother
      exact hyields

theorem run_eq_ok_iff_publishes :
    (Session.run publisher files body ⟨channel, page, shared, []⟩).1 = .ok out ↔
      publisher.Publishes files channel shared body out := by
  rw [Publisher.publishes_iff_replaced]
  apply run_eq_ok_iff_replaced
  · exact fun count gathered hgather => ready_of_gather hgather
  · exact fun word portion hstands => hstands.exists_load

end Session

namespace Publisher

/-- A page can be made just if each of its directives comes to a portion, and it is then the body
with these in place of the directives. The names in a directive settle its portion. -/
theorem process_eq_ok_iff_publishes (publisher : Publisher) (files : FileTree) :
    (∀ channel page shared body out,
      (Session.run publisher files body ⟨channel, page, shared, []⟩).1 = .ok out ↔
        publisher.Publishes files channel shared body out) ∧
    (∀ request body out,
      publisher.process files request body = .ok out ↔
        publisher.Publishes files request.channel (publisher.session request).shared
          (request.rename?.elim body (·.apply body)) out) ∧
    ∀ channel shared templateRef dataRef first second,
      publisher.Yields files channel shared templateRef dataRef first →
        publisher.Yields files channel shared templateRef dataRef second → first = second := by
  refine ⟨fun channel page shared body out => Session.run_eq_ok_iff_publishes,
    fun request body out => Session.run_eq_ok_iff_publishes,
    fun channel shared templateRef dataRef first second => Yields.unique⟩

end Publisher

end Transclusion
