import Transclusion.Proofs.Publication
import Transclusion.Proofs.Template.Evaluation

namespace Transclusion

/-! Publishing a body again in one session. What has been put in place of a directive is then taken
for its template, unless the directive is loaded anew. -/

variable {publisher : Publisher} {files : FileTree} {channel : Channel} {page : Text}
  {shared : Data} {body out word text portion : Text} {directive other : Directive}
  {entry loaded : Partial} {count n : Nat} {catalogue gathered : Catalogue}

namespace Publisher

/-- Some directive of the body with this key carries a flag. -/
def Reloads (publisher : Publisher) (body key : Text) : Prop :=
  ∃ word ∈ Markup.directives body, ∃ directive,
    Directive.parse? publisher.settings.flags word = some directive ∧ directive.key = key ∧
      directive.isFlagged = true

inductive Rereads (publisher : Publisher) (files : FileTree) (channel : Channel) (shared : Data)
    (directive : Directive) (portion text : Text) : Prop where
  | intro {loaded : Loaded} {own : Option Data} {content : Text}
      (template : publisher.settings.site.HasTemplate files channel directive.templateRef loaded)
      (data : publisher.settings.site.HasData files channel directive.dataRef own)
      (expanded : (Session.nestingOf publisher files channel).expand loaded.source.toList portion =
        .ok content)
      (rendered : Template.render publisher.settings.autoescape content
        (own.elim shared (Dict.overlay · shared)) = .ok text)

/-- What a directive comes to when the body has been published so many times before. -/
inductive YieldsAgain (publisher : Publisher) (files : FileTree) (channel : Channel)
    (shared : Data) (body : Text) (directive : Directive) : Nat → Text → Prop where
  | first {portion : Text}
      (yields : publisher.Yields files channel shared directive.templateRef directive.dataRef
        portion) :
      YieldsAgain publisher files channel shared body directive 0 portion
  | reloaded {n : Nat} {portion : Text} (reloads : publisher.Reloads body directive.key)
      (yields : publisher.Yields files channel shared directive.templateRef directive.dataRef
        portion) :
      YieldsAgain publisher files channel shared body directive (n + 1) portion
  | kept {n : Nat} {portion text : Text} (keeps : ¬ publisher.Reloads body directive.key)
      (before : YieldsAgain publisher files channel shared body directive n portion)
      (rereads : publisher.Rereads files channel shared directive portion text) :
      YieldsAgain publisher files channel shared body directive (n + 1) text

def StandsAgain (publisher : Publisher) (files : FileTree) (channel : Channel) (shared : Data)
    (body : Text) (n : Nat) (word portion : Text) : Prop :=
  ∃ directive, Directive.parse? publisher.settings.flags word = some directive ∧
    publisher.YieldsAgain files channel shared body directive n portion

theorem Rereads.unique {first second : Text}
    (hfirst : publisher.Rereads files channel shared directive portion first)
    (hsecond : publisher.Rereads files channel shared directive portion second) :
    first = second := by
  obtain ⟨template, data, expanded, rendered⟩ := hfirst
  obtain ⟨template', data', expanded', rendered'⟩ := hsecond
  cases template.unique template'
  cases data.unique data'
  cases expanded.symm.trans expanded'
  exact Except.ok.inj (rendered.symm.trans rendered')

namespace YieldsAgain

theorem unique {first second : Text}
    (hfirst : publisher.YieldsAgain files channel shared body directive n first)
    (hsecond : publisher.YieldsAgain files channel shared body directive n second) :
    first = second := by
  induction hfirst generalizing second with
  | first yields =>
      cases hsecond with
      | first yields' => exact yields.unique yields'
  | reloaded reloads yields =>
      cases hsecond with
      | reloaded _ yields' => exact yields.unique yields'
      | kept keeps _ _ => exact absurd reloads keeps
  | kept keeps _ rereads ih =>
      cases hsecond with
      | reloaded reloads _ => exact absurd reloads keeps
      | kept _ before rereads' =>
          cases ih before
          exact rereads.unique rereads'

theorem iff_yields (hdue : n = 0 ∨ publisher.Reloads body directive.key) :
    publisher.YieldsAgain files channel shared body directive n portion ↔
      publisher.Yields files channel shared directive.templateRef directive.dataRef portion := by
  constructor
  · intro hagain
    cases hagain with
    | first yields => exact yields
    | reloaded _ yields => exact yields
    | kept keeps _ _ =>
        rcases hdue with hzero | hreloads
        · cases hzero
        · exact absurd hreloads keeps
  · intro hyields
    cases n with
    | zero => exact .first hyields
    | succ n =>
        rcases hdue with hzero | hreloads
        · cases hzero
        · exact .reloaded hreloads hyields

theorem iff_rereads (hkeeps : ¬ publisher.Reloads body directive.key)
    (hbefore : publisher.YieldsAgain files channel shared body directive n portion) :
    publisher.YieldsAgain files channel shared body directive (n + 1) text ↔
      publisher.Rereads files channel shared directive portion text := by
  constructor
  · intro hagain
    cases hagain with
    | reloaded reloads _ => exact absurd reloads hkeeps
    | kept _ before rereads =>
        cases before.unique hbefore
        exact rereads
  · exact .kept hkeeps hbefore

theorem exists_before
    (hagain : publisher.YieldsAgain files channel shared body directive (n + 1) text) :
    ∃ portion, publisher.YieldsAgain files channel shared body directive n portion := by
  cases hagain with
  | reloaded reloads yields => exact ⟨_, (iff_yields (.inr reloads)).mpr yields⟩
  | kept _ before _ => exact ⟨_, before⟩

theorem exists_load
    (hagain : publisher.YieldsAgain files channel shared body directive n text) :
    ∃ entry, Catalogue.load publisher.settings.site files channel directive = .ok entry := by
  induction hagain with
  | first yields => exact yields.exists_load
  | reloaded _ yields => exact yields.exists_load
  | kept _ _ _ ih => exact ih

end YieldsAgain

theorem StandsAgain.exists_load
    (hstands : publisher.StandsAgain files channel shared body n word portion) :
    ∃ directive entry, Directive.parse? publisher.settings.flags word = some directive ∧
      Catalogue.load publisher.settings.site files channel directive = .ok entry := by
  obtain ⟨directive, hparse, hagain⟩ := hstands
  obtain ⟨entry, hload⟩ := hagain.exists_load
  exact ⟨directive, entry, hparse, hload⟩

end Publisher

namespace Session

def after (publisher : Publisher) (files : FileTree) (body : Text) (session : Session) :
    Nat → Session
  | 0 => session
  | n + 1 => ((after publisher files body session n).run publisher files body).2

/-- What publishing the body comes to when it has been published so many times before. -/
def rerun (publisher : Publisher) (files : FileTree) (body : Text) (session : Session) (n : Nat) :
    Except Failure Text :=
  ((after publisher files body session n).run publisher files body).1

/-- The entry of a directive when the body has been published so many times and is gathered for the
next. -/
inductive Holds (publisher : Publisher) (files : FileTree) (channel : Channel) (shared : Data)
    (body : Text) (directive : Directive) : Nat → Partial → Prop where
  | fresh {n : Nat} {loaded : Partial} (due : n = 0 ∨ publisher.Reloads body directive.key)
      (load : Catalogue.load publisher.settings.site files channel directive = .ok loaded) :
      Holds publisher files channel shared body directive n loaded
  | kept {n : Nat} {loaded : Partial} {portion : Text}
      (keeps : ¬ publisher.Reloads body directive.key)
      (load : Catalogue.load publisher.settings.site files channel directive = .ok loaded)
      (before : publisher.YieldsAgain files channel shared body directive n portion) :
      Holds publisher files channel shared body directive (n + 1)
        ⟨loaded.source, portion, loaded.data.map (Dict.overlay · shared)⟩

theorem map_overlaid (own : Option Data) :
    (own.map (Dict.overlay · shared)).map (Dict.overlay · shared) =
      own.map (Dict.overlay · shared) := by
  cases own with
  | none => rfl
  | some own => simp only [Option.map_some, Dict.overlay_overlay_self]

theorem elim_overlaid (own : Option Data) :
    (own.map (Dict.overlay · shared)).elim shared (Dict.overlay · shared) =
      own.elim shared (Dict.overlay · shared) := by
  cases own with
  | none => rfl
  | some own => exact Dict.overlay_overlay_self own shared

theorem finished_snd (entry : Partial) :
    (finished publisher files channel shared entry).2 =
      ⟨entry.source, (finished publisher files channel shared entry).2.content,
        entry.data.map (Dict.overlay · shared)⟩ := by
  unfold finished expanded Catalogue.expandEntry Catalogue.renderEntry
  split <;> split <;> rfl

theorem finished_iff_rereads
    (hload : Catalogue.load publisher.settings.site files channel directive = .ok loaded)
    (hentry : entry = ⟨loaded.source, portion, loaded.data.map (Dict.overlay · shared)⟩) :
    (expanded publisher files channel entry).1 = .ok () ∧
        (finished publisher files channel shared entry).1 = .ok () ∧
        (finished publisher files channel shared entry).2.content = text ↔
      publisher.Rereads files channel shared directive portion text := by
  obtain ⟨hdata, htemplate⟩ := Catalogue.load_eq_ok_iff.mp hload
  rw [finished, renderEntry_eq_ok_iff, hentry]
  constructor
  · rintro ⟨hexpanded, hrendered⟩
    unfold expanded Catalogue.expandEntry at hexpanded hrendered
    split at hexpanded
    · next content hexpand =>
        rw [hexpand, elim_overlaid] at hrendered
        exact .intro (Site.loadTemplate_eq_ok_iff.mp htemplate) (Site.loadData_eq_ok_iff.mp hdata)
          hexpand hrendered
    · cases hexpanded
  · rintro ⟨template, data, hexpand, rendered⟩
    rw [← Site.loadTemplate_eq_ok_iff, htemplate] at template
    rw [← Site.loadData_eq_ok_iff, hdata] at data
    cases template
    cases data
    unfold expanded Catalogue.expandEntry
    rw [hexpand, elim_overlaid]
    exact ⟨rfl, rendered⟩

namespace Holds

theorem finished_iff (hholds : Holds publisher files channel shared body directive n entry) :
    (expanded publisher files channel entry).1 = .ok () ∧
        (Session.finished publisher files channel shared entry).1 = .ok () ∧
        (Session.finished publisher files channel shared entry).2.content = text ↔
      publisher.YieldsAgain files channel shared body directive n text := by
  cases hholds with
  | fresh due load => rw [finished_iff_yields load, Publisher.YieldsAgain.iff_yields due]
  | kept keeps load before =>
      rw [finished_iff_rereads load rfl, Publisher.YieldsAgain.iff_rereads keeps before]

theorem next (hholds : Holds publisher files channel shared body directive n entry)
    (hkeeps : ¬ publisher.Reloads body directive.key)
    (hexpanded : (expanded publisher files channel entry).1 = .ok ())
    (hfinished : (Session.finished publisher files channel shared entry).1 = .ok ()) :
    Holds publisher files channel shared body directive (n + 1)
      (Session.finished publisher files channel shared entry).2 := by
  have hagain := hholds.finished_iff.mp ⟨hexpanded, hfinished, rfl⟩
  rw [finished_snd]
  cases hholds with
  | fresh due load => exact .kept hkeeps load hagain
  | kept keeps load before =>
      -- The shared data lie over the entry's own already.
      rw [map_overlaid]
      exact .kept hkeeps load hagain

end Holds

structure Keeps (publisher : Publisher) (files : FileTree) (channel : Channel) (shared : Data)
    (body : Text) (n : Nat) (catalogue : Catalogue) : Prop where
  sorted : Dict.Sorted catalogue
  asked : ∀ key, Dict.contains catalogue key = true → ∃ word ∈ Markup.directives body,
    ∃ directive, Directive.parse? publisher.settings.flags word = some directive ∧
      directive.key = key
  held : ∀ word ∈ Markup.directives body, ∃ directive entry,
    Directive.parse? publisher.settings.flags word = some directive ∧
      Dict.find? catalogue directive.key = some entry ∧
      Holds publisher files channel shared body directive n entry

theorem Keeps.ready (hkeeps : Keeps publisher files channel shared body n catalogue) :
    Ready publisher files channel shared body
      (publisher.StandsAgain files channel shared body n) catalogue where
  asked key entry hmem := by
    have hfind := hkeeps.sorted.mem_iff_find?.mp hmem
    have hcontains : Dict.contains catalogue key = true := by rw [Dict.contains, hfind]; rfl
    obtain ⟨word, hword, directive, hparse, rfl⟩ := hkeeps.asked key hcontains
    exact ⟨word, hword, directive, hparse, hfind⟩
  answered word hword := by
    obtain ⟨directive, entry, hparse, hfind, hholds⟩ := hkeeps.held word hword
    refine ⟨directive, entry, hparse, hfind, fun portion => ?_⟩
    rw [hholds.finished_iff]
    constructor
    · exact fun hagain => ⟨directive, hparse, hagain⟩
    · rintro ⟨other, hother, hagain⟩
      cases hparse.symm.trans hother
      exact hagain

theorem keeps_of_gather
    (hgather : Catalogue.gather publisher.settings.flags
      (Catalogue.load publisher.settings.site files channel) body [] = (.ok count, catalogue)) :
    Keeps publisher files channel shared body 0 catalogue where
  sorted := Catalogue.sorted_gatherEach Dict.Sorted.nil hgather
  asked key hcontains := by
    obtain ⟨entry, hfind⟩ := Option.isSome_iff_exists.mp hcontains
    obtain ⟨word, hword, directive, hparse, hkey, -⟩ :=
      Catalogue.gather_faithful hgather key entry (Dict.mem_of_find?_eq_some hfind)
    exact ⟨word, hword, directive, hparse, hkey⟩
  held word hword := by
    obtain ⟨directive, entry, hparse, hfind, hload⟩ :=
      Catalogue.exists_find?_of_gather hgather hword
    exact ⟨directive, entry, hparse, hfind, .fresh (.inl rfl) hload⟩

theorem wanted_iff_reloads (hcontains : Dict.contains catalogue directive.key = true) :
    Catalogue.Wanted publisher.settings.flags (Markup.directives body) catalogue directive.key ↔
      publisher.Reloads body directive.key := by
  unfold Catalogue.Wanted Publisher.Reloads Catalogue.isDue
  refine exists_congr fun word => and_congr_right fun _ => exists_congr fun other =>
    and_congr_right fun _ => and_congr_right fun hkey => ?_
  rw [hkey, hcontains, Bool.not_true, Bool.false_or]

theorem Keeps.next (hkeeps : Keeps publisher files channel shared body n catalogue)
    (hentries : ∀ key entry, (key, entry) ∈ catalogue →
      (expanded publisher files channel entry).1 = .ok () ∧
        (finished publisher files channel shared entry).1 = .ok ())
    (hgather : Catalogue.gather publisher.settings.flags
      (Catalogue.load publisher.settings.site files channel) body
      (allFinished publisher files channel shared catalogue) = (.ok count, gathered)) :
    Keeps publisher files channel shared body (n + 1) gathered where
  sorted := Catalogue.sorted_gatherEach (hkeeps.sorted.mapValues _) hgather
  asked key hcontains := by
    obtain ⟨hkept, hloaded⟩ := Catalogue.find?_gatherEach hgather key
    by_cases hwanted : Catalogue.Wanted publisher.settings.flags (Markup.directives body)
      (allFinished publisher files channel shared catalogue) key
    · obtain ⟨word, hword, directive, -, hparse, hkey, -⟩ := hloaded hwanted
      exact ⟨word, hword, directive, hparse, hkey⟩
    · refine hkeeps.asked key ?_
      rw [Dict.contains, hkept hwanted, Dict.find?_mapValues, Option.isSome_map] at hcontains
      exact hcontains
  held word hword := by
    obtain ⟨directive, entry, hparse, hfind, hholds⟩ := hkeeps.held word hword
    obtain ⟨hexpanded, hfinished⟩ := hentries _ _ (Dict.mem_of_find?_eq_some hfind)
    obtain ⟨hkept, hloaded⟩ := Catalogue.find?_gatherEach hgather directive.key
    rw [Dict.find?_mapValues, hfind] at hkept
    have hcontains : Dict.contains (allFinished publisher files channel shared catalogue)
        directive.key = true := by
      rw [Dict.contains, Dict.find?_mapValues, hfind]
      rfl
    -- The key is there from the time before, so that only a flag has it loaded anew.
    rw [wanted_iff_reloads hcontains] at hkept hloaded
    by_cases hreloads : publisher.Reloads body directive.key
    · obtain ⟨other, -, found, loaded, hother, hkey, hload, hnew⟩ := hloaded hreloads
      refine ⟨directive, loaded, hparse, hnew, .fresh (.inr hreloads) ?_⟩
      rw [Catalogue.load_eq_of_key_eq hparse hother hkey.symm, hload]
    · exact ⟨directive, _, hparse, hkept hreloads, hholds.next hreloads hexpanded hfinished⟩

def Reached (publisher : Publisher) (files : FileTree) (channel : Channel) (shared : Data)
    (body : Text) (n : Nat) (catalogue : Catalogue) : Prop :=
  ∀ count gathered, Catalogue.gather publisher.settings.flags
    (Catalogue.load publisher.settings.site files channel) body catalogue = (.ok count, gathered) →
      Keeps publisher files channel shared body n gathered

namespace Reached

variable (hreached : Reached publisher files channel shared body n catalogue)
include hreached

theorem run_eq_ok_iff :
    (run publisher files body ⟨channel, page, shared, catalogue⟩).1 = .ok out ↔
      Markup.Replaced (publisher.StandsAgain files channel shared body n) (Markup.tokens body)
        out := by
  apply run_eq_ok_iff_replaced
  · exact fun count gathered hgather => (hreached count gathered hgather).ready
  · exact fun word portion hstands => hstands.exists_load

theorem next
    (hrun : (run publisher files body ⟨channel, page, shared, catalogue⟩).1 = .ok out) :
    ∃ left, (run publisher files body ⟨channel, page, shared, catalogue⟩).2 =
        ⟨channel, page, shared, left⟩ ∧
      Reached publisher files channel shared body (n + 1) left := by
  obtain ⟨count, gathered, hgather, composed, hexpand, rendered, hrender, -⟩ :=
    run_eq_ok_iff_steps.mp hrun
  obtain ⟨hentries, rfl⟩ := expand_render_eq_ok_iff.mp ⟨composed, hexpand, hrender⟩
  refine ⟨_, congrArg Prod.snd (run_eq_of_steps hgather hexpand hrender), ?_⟩
  exact fun _ _ hnext => (hreached count gathered hgather).next hentries hnext

end Reached

theorem reached_after
    (hruns : ∀ m < n, ∃ out,
      rerun publisher files body ⟨channel, page, shared, []⟩ m = .ok out) :
    ∃ catalogue, after publisher files body ⟨channel, page, shared, []⟩ n =
        ⟨channel, page, shared, catalogue⟩ ∧
      Reached publisher files channel shared body n catalogue := by
  induction n with
  | zero => exact ⟨[], rfl, fun _ _ hgather => keeps_of_gather hgather⟩
  | succ n ih =>
      obtain ⟨catalogue, hafter, hreached⟩ := ih fun m hm => hruns m (Nat.lt_succ_of_lt hm)
      obtain ⟨out, hrun⟩ := hruns n (Nat.lt_succ_self n)
      rw [rerun, hafter] at hrun
      obtain ⟨left, hleft, hnext⟩ := hreached.next hrun
      exact ⟨left, by rw [after, hafter, hleft], hnext⟩

theorem rerun_eq_ok_iff
    (hruns : ∀ m < n, ∃ out,
      rerun publisher files body ⟨channel, page, shared, []⟩ m = .ok out) :
    rerun publisher files body ⟨channel, page, shared, []⟩ n = .ok out ↔
      Markup.Replaced (publisher.StandsAgain files channel shared body n) (Markup.tokens body)
        out := by
  obtain ⟨catalogue, hafter, hreached⟩ := reached_after hruns
  rw [rerun, hafter]
  exact hreached.run_eq_ok_iff

theorem rerun_of_replaced
    (hreplaced : Markup.Replaced (publisher.StandsAgain files channel shared body n)
      (Markup.tokens body) out) :
    ∀ m < n, ∃ out, rerun publisher files body ⟨channel, page, shared, []⟩ m = .ok out := by
  induction n generalizing out with
  | zero => exact fun m hm => absurd hm (Nat.not_lt_zero m)
  | succ n ih =>
      -- What comes to something this time has come to something the time before.
      have hbefore : ∃ earlier, Markup.Replaced
          (publisher.StandsAgain files channel shared body n) (Markup.tokens body) earlier := by
        refine Markup.Replaced.exists_iff.mpr fun word hword => ?_
        obtain ⟨portion, directive, hparse, hagain⟩ :=
          Markup.Replaced.exists_iff.mp ⟨out, hreplaced⟩ word hword
        obtain ⟨earlier, hearlier⟩ := hagain.exists_before
        exact ⟨earlier, directive, hparse, hearlier⟩
      obtain ⟨earlier, hearlier⟩ := hbefore
      intro m hm
      rcases Nat.lt_succ_iff_lt_or_eq.mp hm with hlt | rfl
      · exact ih hearlier m hlt
      · exact ⟨earlier, (rerun_eq_ok_iff (ih hearlier)).mpr hearlier⟩

theorem rerun_ok_iff_replaced :
    ((∀ m < n, ∃ earlier, rerun publisher files body ⟨channel, page, shared, []⟩ m =
        .ok earlier) ∧
      rerun publisher files body ⟨channel, page, shared, []⟩ n = .ok out) ↔
      Markup.Replaced (publisher.StandsAgain files channel shared body n) (Markup.tokens body)
        out := by
  constructor
  · exact fun ⟨hruns, hrun⟩ => (rerun_eq_ok_iff hruns).mp hrun
  · intro hreplaced
    have hruns := fun m (hm : m < n) => @rerun_of_replaced _ _ _ page _ _ _ _ hreplaced m hm
    exact ⟨hruns, (rerun_eq_ok_iff hruns).mpr hreplaced⟩

end Session

namespace Publisher

theorem rereads_self
    (hyields : publisher.Yields files channel shared directive.templateRef directive.dataRef
      portion)
    (hspans : Markup.spans portion = []) (htags : (Template.cut portion).tags = []) :
    publisher.Rereads files channel shared directive portion portion := by
  obtain ⟨template, data, -, -, -⟩ := hyields
  exact .intro template data (Catalogue.Nesting.expand_self _ _ hspans)
    (Template.render_of_untagged _ _ htags)

theorem standsAgain_of_stands (hstands : publisher.Stands files channel shared word portion)
    (hback : ∀ directive, Directive.parse? publisher.settings.flags word = some directive →
      publisher.Reloads body directive.key ∨
        publisher.Rereads files channel shared directive portion portion) (n : Nat) :
    publisher.StandsAgain files channel shared body n word portion := by
  obtain ⟨directive, hparse, hyields⟩ := hstands
  refine ⟨directive, hparse, ?_⟩
  by_cases hreloads : publisher.Reloads body directive.key
  · exact (YieldsAgain.iff_yields (.inr hreloads)).mpr hyields
  · have hrereads := (hback directive hparse).resolve_left hreloads
    induction n with
    | zero => exact .first hyields
    | succ n ih => exact .kept hreloads ih hrereads

/-- Publishing a body for another time succeeds just if each directive has come to a portion each
time, and then puts the last portions in place. The entries of a flagged key are loaded anew, and
all others go on from the portion before, in which directives and tags count again. So nothing
changes where each portion comes back to itself, as it does if neither is left in it. -/
theorem rerun_publishes (publisher : Publisher) (files : FileTree) (channel : Channel)
    (page : Text) (shared : Data) (body : Text) :
    (∀ n out,
      ((∀ m < n, ∃ earlier,
          Session.rerun publisher files body ⟨channel, page, shared, []⟩ m = .ok earlier) ∧
        Session.rerun publisher files body ⟨channel, page, shared, []⟩ n = .ok out) ↔
        Markup.Replaced (publisher.StandsAgain files channel shared body n) (Markup.tokens body)
          out) ∧
    (∀ out, Session.rerun publisher files body ⟨channel, page, shared, []⟩ 0 = .ok out →
      (∀ word ∈ Markup.directives body, ∀ portion,
        publisher.Stands files channel shared word portion → ∀ directive,
          Directive.parse? publisher.settings.flags word = some directive →
            publisher.Reloads body directive.key ∨
              publisher.Rereads files channel shared directive portion portion) →
      ∀ n, Session.rerun publisher files body ⟨channel, page, shared, []⟩ n = .ok out) ∧
    ∀ directive portion,
      publisher.Yields files channel shared directive.templateRef directive.dataRef portion →
        Markup.spans portion = [] → (Template.cut portion).tags = [] →
          publisher.Rereads files channel shared directive portion portion := by
  refine ⟨fun n out => Session.rerun_ok_iff_replaced, fun out hfirst hback n => ?_,
    fun directive portion => rereads_self⟩
  have hpublishes := publishes_iff_replaced.mp (Session.run_eq_ok_iff_publishes.mp hfirst)
  refine (Session.rerun_ok_iff_replaced.mpr (hpublishes.mono ?_)).2
  intro word hword portion hstands
  exact standsAgain_of_stands hstands
    (hback word (Markup.mem_directives.mpr hword) portion hstands) n

def settled : FileTree :=
  Site.small.tree [("a.html", "{{x}}\x7b")]

def settled.values : Data :=
  [(['x'], .string "\x7b ".toList)]

theorem rerun_of_settled :
    Session.rerun small settled "{{> a}}".toList ⟨⟨['d']⟩, [], settled.values, []⟩ 0 =
        .ok "\x7b \x7b".toList ∧
      Session.rerun small settled "{{> a}}".toList ⟨⟨['d']⟩, [], settled.values, []⟩ 3 =
        .ok "\x7b \x7b".toList := by
  have hparse : Directive.parse? [] "{{> a}}".toList = some ⟨['a'], ['a'], none, []⟩ := by rfl
  have htokens : Markup.tokens "{{> a}}".toList = [.directive "{{> a}}".toList] := by rfl
  have hload : Catalogue.load small.settings.site settled ⟨['d']⟩ ⟨['a'], ['a'], none, []⟩ =
      .ok ⟨some ⟨['r'], "a.html".toList⟩, "{{x}}\x7b".toList, none⟩ := by rfl
  have hyields : small.Yields settled ⟨['d']⟩ settled.values ['a'] none
      "\x7b \x7b".toList := Session.yields_of_load hload (by decide) (by rfl)
  obtain ⟨hagain, hsettled, hself⟩ :=
    rerun_publishes small settled ⟨['d']⟩ [] settled.values "{{> a}}".toList
  have hfirst := ((hagain 0 "\x7b \x7b".toList).mpr
    (htokens ▸ .single ⟨_, hparse, .first hyields⟩)).2
  refine ⟨hfirst, hsettled _ hfirst ?_ 3⟩
  intro word hword portion hstands directive hdirective
  rw [Markup.mem_directives, htokens, List.mem_singleton] at hword
  cases hword
  cases hparse.symm.trans hdirective
  obtain ⟨other, hother, hportion⟩ := hstands
  cases hparse.symm.trans hother
  cases hyields.unique hportion
  exact .inr (hself _ _ hyields (by decide) (by decide))

def relayed : FileTree :=
  (Site.small.tree [("a.html", "{{x}}")]).put ["d".toList, "a.json".toList]
    (.file (Text.toUtf8 "\x7b\"x\": \"{{y}}\", \"y\": \"z\"\x7d".toList))

def relayed.data : Data :=
  [(['x'], .string "{{y}}".toList), (['y'], .string ['z'])]

def relayed.asked : Directive := ⟨"a|a".toList, ['a'], some ['a'], []⟩

theorem value_rendered_again : ¬ ∀ (publisher : Publisher) (files : FileTree) (channel : Channel)
    (page : Text) (shared : Data) (body out : Text),
    Session.rerun publisher files body ⟨channel, page, shared, []⟩ 0 = .ok out →
      ∀ n, Session.rerun publisher files body ⟨channel, page, shared, []⟩ n = .ok out := by
  intro hsame
  have hparse : Directive.parse? [] "{{> a|a}}".toList = some relayed.asked := by rfl
  have htokens : Markup.tokens "{{> a|a}}".toList = [.directive "{{> a|a}}".toList] := by rfl
  have hkeeps : ¬ small.Reloads "{{> a|a}}".toList relayed.asked.key := by
    rintro ⟨other, hmem, found, hfound, -, hflagged⟩
    rw [Markup.mem_directives, htokens, List.mem_singleton] at hmem
    cases hmem
    cases hparse.symm.trans hfound
    cases hflagged
  have htemplate : small.settings.site.loadTemplate relayed ⟨['d']⟩ ['a'] =
      .ok ⟨some ⟨['r'], "a.html".toList⟩, "{{x}}".toList⟩ := by rfl
  have hdata : small.settings.site.HasData relayed ⟨['d']⟩ (some ['a']) (some relayed.data) :=
    .object (by decide) rfl (FileTree.readText_of_readBytes rfl) (by cbv)
  have hload : Catalogue.load small.settings.site relayed ⟨['d']⟩ relayed.asked =
      .ok ⟨some ⟨['r'], "a.html".toList⟩, "{{x}}".toList, some relayed.data⟩ :=
    Catalogue.load_eq_ok_iff.mpr ⟨Site.loadData_eq_ok_iff.mpr hdata, htemplate⟩
  have hyields : small.Yields relayed ⟨['d']⟩ [] ['a'] (some ['a']) "{{y}}".toList :=
    Session.yields_of_load hload (by decide) (by rfl)
  have hrereads : small.Rereads relayed ⟨['d']⟩ [] relayed.asked "{{y}}".toList ['z'] :=
    .intro (Site.loadTemplate_eq_ok_iff.mp htemplate) hdata
      (Catalogue.Nesting.expand_self _ _ (by decide)) (by rfl)
  have hfirst : Session.rerun small relayed "{{> a|a}}".toList ⟨⟨['d']⟩, [], [], []⟩ 0 =
      .ok "{{y}}".toList := by
    rw [Session.rerun_eq_ok_iff fun m hm => absurd hm (Nat.not_lt_zero m), htokens]
    exact .single ⟨relayed.asked, hparse, .first hyields⟩
  have hsecond : Session.rerun small relayed "{{> a|a}}".toList ⟨⟨['d']⟩, [], [], []⟩ 1 =
      .ok ['z'] := by
    rw [Session.rerun_eq_ok_iff fun m hm => ⟨_, Nat.lt_one_iff.mp hm ▸ hfirst⟩, htokens]
    exact .single ⟨relayed.asked, hparse, .kept hkeeps (.first hyields) hrereads⟩
  rw [hsame _ _ _ _ _ _ _ hfirst 1] at hsecond
  exact absurd hsecond (by decide)

end Publisher

end Transclusion
