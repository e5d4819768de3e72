import Transclusion.Proofs.Session.Course
import Transclusion.Proofs.Site.Containment
import Transclusion.Proofs.Template.Evaluation

namespace Transclusion

/-! What a catalogue is like at any time, however the calls on its session have ended. -/

variable {publisher : Publisher} {site : Site} {files : FileTree} {channel : Channel}
  {page key text : Text} {shared : Data} {flags : List Text} {directive : Directive}
  {entry after : Partial} {catalogue : Catalogue} {session : Session}

namespace Reference

/-- The names that a name in a directive comes to, one for each step down from a root. The name is
cleaned, the extension is put on and the channel goes in before it is split. -/
def steps (extension channel name : Text) : List Text :=
  (Text.split '/' (fill (clean channel) (clean name ++ extension))).filter (!Path.isIdle ·)

theorem path_of_relative? {extension channel name : Text} {relative : Relative}
    (hrelative : relative? extension channel name = some relative) :
    relative.path = Text.join ['/'] (steps extension channel name) := by
  have htidy := tidy?_of_relative? hrelative
  unfold tidy? at htidy
  dsimp only at htidy
  split at htidy
  · cases htidy
  · exact (Option.some.inj htidy).symm

end Reference

namespace Site

structure Places (site : Site) (channel : Channel) (name : Text) (source : Source) : Prop where
  root : source.root ∈ site.roots
  relative : source.relative =
    Text.join ['/'] (Reference.steps site.templateExt channel.name name)
  descends : Path.Descends source.relative
  full : source.full = Path.join source.root source.relative

theorem places_of_locate {name : Text} {source : Source}
    (hlocate : site.locate files channel name = .ok (.found source)) :
    site.Places channel name source := by
  obtain ⟨hroot, hdescends⟩ := descends_of_locate_found hlocate
  obtain ⟨relative, hrelative, hholder⟩ := locate_eq_found_iff.mp hlocate
  refine ⟨hroot, ?_, hdescends, rfl⟩
  rw [holder?_relative hholder]
  exact Reference.path_of_relative? hrelative

/-- An entry has data just if its directive asks for some, it holds no text without a file, and its
file is where the directive says. -/
structure Accords (site : Site) (channel : Channel) (directive : Directive) (entry : Partial) :
    Prop where
  data : entry.data.isSome = directive.dataRef.isSome
  vacant : entry.source = none → entry.content = []
  placed : ∀ source, entry.source = some source →
    site.Places channel directive.templateRef source

namespace Accords

theorem of_load (hparse : Directive.parse? flags text = some directive)
    (hload : Catalogue.load site files channel directive = .ok entry) :
    site.Accords channel directive entry := by
  obtain ⟨hdata, htemplate⟩ := Catalogue.load_eq_ok_iff.mp hload
  have hpresent : entry.data.isSome = directive.dataRef.isSome := by
    -- An empty name would ask for nothing, but a directive never comes to have one.
    have hne := Directive.dataRef_ne_nil hparse
    generalize directive.dataRef = asked, entry.data = own at hdata hne
    cases loadData_eq_ok_iff.mp hdata with
    | unasked => rfl
    | empty => exact absurd rfl hne
    | object => rfl
  obtain ⟨source, content, own⟩ := entry
  rcases loadTemplate_eq_ok_iff_locate.mp htemplate with
    ⟨found, _, hlocate, -, heq⟩ | ⟨path, -, heq⟩
  · cases heq
    refine ⟨hpresent, fun hnone => ?_, fun source hsource => ?_⟩
    · cases hnone
    · cases hsource
      exact places_of_locate hlocate
  · cases heq
    refine ⟨hpresent, fun _ => rfl, fun source hsource => ?_⟩
    cases hsource

theorem change (haccords : site.Accords channel directive entry)
    (hsource : after.source = entry.source) (hdata : after.data.isSome = entry.data.isSome)
    (hempty : entry.content = [] → after.content = []) : site.Accords channel directive after where
  data := hdata.trans haccords.data
  vacant hnone := hempty (haccords.vacant (hsource ▸ hnone))
  placed source hsome := haccords.placed source (hsource ▸ hsome)

end Accords

end Site

namespace Catalogue

/-- Every key is what its directive is called without flags, and its entry accords with that. -/
def Orderly (flags : List Text) (site : Site) (channel : Channel) (catalogue : Catalogue) : Prop :=
  ∀ key entry, (key, entry) ∈ catalogue →
    ∃ directive, Directive.parse? flags key = some directive ∧ directive.key = key ∧
      directive.flags = [] ∧ site.Accords channel directive entry

namespace Orderly

theorem nil : Orderly flags site channel [] :=
  fun _ _ hmem => absurd hmem List.not_mem_nil

theorem insert {word : Directive.Word} (horderly : Orderly flags site channel catalogue)
    (hvalid : word.Valid) (hparse : Directive.parse? flags word.text = some directive)
    (haccords : site.Accords channel directive entry) :
    Orderly flags site channel (Dict.insert catalogue directive.key entry) := by
  intro key' entry' hmem
  rcases Dict.mem_insert hmem with heq | hmem
  · cases heq
    refine ⟨{ directive with flags := [] }, Directive.Word.parse?_key hvalid hparse, rfl, rfl, ?_⟩
    exact ⟨haccords.data, haccords.vacant, haccords.placed⟩
  · exact horderly key' entry' hmem

theorem gather {body : Text} {outcome : Except Failure Nat} {gathered : Catalogue}
    (horderly : Orderly flags site channel catalogue)
    (hgather : Catalogue.gather flags (Catalogue.load site files channel) body catalogue =
      (outcome, gathered)) :
    Orderly flags site channel gathered := by
  refine gatherEach_keeps hgather ?_ horderly
  intro text hmem directive entry catalogue hparse hload hbefore
  -- Only of a word of the grammar can the key be read like the word itself.
  obtain ⟨word, hvalid, rfl⟩ := Markup.exists_word_of_mem_directives hmem
  exact hbefore.insert hvalid hparse (.of_load hparse hload)

theorem sweep {pass : Partial → Except Failure Unit × Partial}
    (horderly : Orderly flags site channel catalogue)
    (hpass : ∀ directive entry, site.Accords channel directive entry →
      site.Accords channel directive (pass entry).2) :
    Orderly flags site channel (Dict.sweep pass catalogue).2 := by
  intro key entry hmem
  obtain ⟨before, hbefore, hentry⟩ := Dict.mem_sweep hmem
  obtain ⟨directive, hparse, hkey, hflags, haccords⟩ := horderly key before hbefore
  refine ⟨directive, hparse, hkey, hflags, ?_⟩
  rcases hentry with rfl | rfl
  · exact haccords
  · exact hpass directive before haccords

theorem expand (horderly : Orderly flags site channel catalogue) (nesting : Nesting) :
    Orderly flags site channel (Catalogue.expand nesting catalogue).2 := by
  refine horderly.sweep fun directive entry haccords => ?_
  unfold expandEntry
  cases hexpand : nesting.expand entry.source.toList entry.content with
  | error failure => exact haccords
  | ok content =>
      refine haccords.change rfl rfl fun hempty => ?_
      rw [hempty, Nesting.expand_self nesting _ rfl] at hexpand
      exact (Except.ok.inj hexpand).symm

theorem render {render : Text → Data → Except TemplateError Text}
    (horderly : Orderly flags site channel catalogue)
    (hrender : ∀ data, render [] data = .ok []) (shared : Data) :
    Orderly flags site channel (Catalogue.render render shared catalogue).2 := by
  refine horderly.sweep fun directive entry haccords => ?_
  have hbound : (entry.data.map (Dict.overlay · shared)).isSome = entry.data.isSome :=
    Option.isSome_map
  unfold renderEntry
  cases hcontent : render entry.content (entry.context shared) with
  | error error => exact haccords.change rfl hbound id
  | ok content =>
      refine haccords.change rfl hbound fun hempty => ?_
      rw [hempty, hrender] at hcontent
      exact (Except.ok.inj hcontent).symm

end Orderly

end Catalogue

namespace Session

inductive Reachable (publisher : Publisher) (channel : Channel) (page : Text) (shared : Data) :
    Session → Prop where
  | fresh : Reachable publisher channel page shared ⟨channel, page, shared, []⟩
  | call {session : Session} (call : Call)
      (before : Reachable publisher channel page shared session) :
      Reachable publisher channel page shared (call.perform publisher session)
  | reset {session : Session} (before : Reachable publisher channel page shared session) :
      Reachable publisher channel page shared session.reset

structure Upheld (publisher : Publisher) (channel : Channel) (session : Session) : Prop where
  steady : session.channel = channel
  orderly : session.catalogue.Orderly publisher.settings.flags publisher.settings.site channel

theorem Upheld.perform (hupheld : Upheld publisher channel session) (call : Call) :
    Upheld publisher channel (call.perform publisher session) := by
  refine call.perform_keeps (fun files body session hupheld => ?_)
    (fun files session hupheld => ?_) (fun session hupheld => ?_) hupheld
  · obtain ⟨rfl, horderly⟩ := hupheld
    exact ⟨rfl, horderly.gather rfl⟩
  · exact ⟨hupheld.steady, hupheld.orderly.expand _⟩
  · refine ⟨hupheld.steady, hupheld.orderly.render (fun data => ?_) _⟩
    exact Template.render_of_untagged _ data rfl

/-- Whatever has been asked of a session, and however it went, its catalogue is in order. -/
theorem orderly_of_reachable (hreachable : Reachable publisher channel page shared session) :
    session.catalogue.Orderly publisher.settings.flags publisher.settings.site channel := by
  have hupheld : Upheld publisher channel session := by
    induction hreachable with
    | fresh => exact ⟨rfl, .nil⟩
    | call call _ ih => exact ih.perform call
    | reset _ ih => exact ⟨ih.steady, .nil⟩
  exact hupheld.orderly

def interrupted : Session :=
  Call.perform Publisher.small ⟨⟨['d']⟩, [], [], []⟩
    (.gather (Site.small.tree [("a.html", "x")]) "{{> %s/c | }}{{> a}}{{> b}}".toList)

theorem orderly_of_interrupted :
    Reachable Publisher.small ⟨['d']⟩ [] [] interrupted ∧
      interrupted.catalogue = [("%s/c|".toList, ⟨none, [], none⟩),
        (['a'], ⟨some ⟨['r'], "a.html".toList⟩, ['x'], none⟩)] ∧
      interrupted.catalogue.Orderly Publisher.small.settings.flags Publisher.small.settings.site
        ⟨['d']⟩ := by
  have hreachable : Reachable Publisher.small ⟨['d']⟩ [] [] interrupted := .call _ .fresh
  exact ⟨hreachable, rfl, orderly_of_reachable hreachable⟩

end Session

end Transclusion
