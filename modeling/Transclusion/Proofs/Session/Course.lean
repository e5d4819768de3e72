import Transclusion.Proofs.Publication

namespace Transclusion

/-! A session goes on from call to call. Calls that fail count too: what they have changed by then
stays. -/

variable {publisher : Publisher} {files : FileTree} {body word portion key : Text} {count : Nat}
  {session gathered later : Session}

theorem Catalogue.contentOf_eq_ok_iff {flags : List Text} {catalogue : Catalogue} :
    Catalogue.contentOf flags catalogue word = .ok portion ↔
      ∃ directive entry, Directive.parse? flags word = some directive ∧
        Dict.find? catalogue directive.key = some entry ∧ entry.content = portion := by
  unfold contentOf parse
  cases Directive.parse? flags word with
  | none => simp [bind, Except.bind]
  | some directive =>
      simp only [bind, Except.bind, Option.some.injEq, exists_and_left, exists_eq_left']
      cases Dict.find? catalogue directive.key with
      | none => simp [throw, throwThe, MonadExceptOf.throw]
      | some entry => simp [pure, Except.pure]

namespace Session

inductive Call where
  | gather (files : FileTree) (body : Text)
  | expand (files : FileTree)
  | render
  | splice (body : Text)
  | run (files : FileTree) (body : Text)

/-- The session that a call leaves behind, however the call ends. The files may be others with each
call. -/
def Call.perform (publisher : Publisher) (session : Session) : Call → Session
  | .gather files body => (session.gather publisher files body).2
  | .expand files => (session.expand publisher files).2
  | .render => (session.render publisher).2
  | .splice _ => session
  | .run files body => (session.run publisher files body).2

theorem run_keeps {keeps : Session → Prop}
    (hgather : ∀ session, keeps session → keeps (session.gather publisher files body).2)
    (hexpand : ∀ session, keeps session → keeps (session.expand publisher files).2)
    (hrender : ∀ session, keeps session → keeps (session.render publisher).2)
    (hstart : keeps session) : keeps (session.run publisher files body).2 := by
  have hgathered := hgather session hstart
  unfold run
  split
  · next heq =>
      rw [heq] at hgathered
      exact hgathered
  · next gathered heq =>
      rw [heq] at hgathered
      have hexpanded := hexpand gathered hgathered
      split
      · next heq =>
          rw [heq] at hexpanded
          exact hexpanded
      · next expanded heq =>
          rw [heq] at hexpanded
          have hrendered := hrender expanded hexpanded
          split
          · next heq =>
              rw [heq] at hrendered
              exact hrendered
          · next heq =>
              rw [heq] at hrendered
              exact hrendered

theorem Call.perform_keeps {keeps : Session → Prop}
    (hgather : ∀ files body session, keeps session →
      keeps (session.gather publisher files body).2)
    (hexpand : ∀ files session, keeps session → keeps (session.expand publisher files).2)
    (hrender : ∀ session, keeps session → keeps (session.render publisher).2)
    (call : Call) (hstart : keeps session) : keeps (call.perform publisher session) := by
  cases call with
  | gather files body => exact hgather files body session hstart
  | expand files => exact hexpand files session hstart
  | render => exact hrender session hstart
  | splice body => exact hstart
  | run files body => exact run_keeps (hgather files body) (hexpand files) hrender hstart

def register (key : Text) (entry : Partial) (session : Session) : Session :=
  { session with catalogue := Dict.insert session.catalogue key entry }

inductive Follows (publisher : Publisher) (start : Session) : Session → Prop where
  | start : Follows publisher start start
  | call {session : Session} (call : Call) (before : Follows publisher start session) :
      Follows publisher start (call.perform publisher session)
  | register {session : Session} (key : Text) (entry : Partial)
      (before : Follows publisher start session) :
      Follows publisher start (session.register key entry)

def Has (key : Text) (session : Session) : Prop :=
  Dict.contains session.catalogue key = true

namespace Has

theorem gather (files : FileTree) (body : Text) (session : Session) (hhas : session.Has key) :
    (session.gather publisher files body).2.Has key :=
  Catalogue.contains_of_gatherEach rfl hhas

theorem expand (files : FileTree) (session : Session) (hhas : session.Has key) :
    (session.expand publisher files).2.Has key := by
  unfold Has Session.expand Catalogue.expand
  rw [Dict.contains_sweep]
  exact hhas

theorem render (session : Session) (hhas : session.Has key) :
    (session.render publisher).2.Has key := by
  unfold Has Session.render Catalogue.render
  rw [Dict.contains_sweep]
  exact hhas

theorem follows (hhas : session.Has key) (hlater : Follows publisher session later) :
    later.Has key := by
  induction hlater with
  | start => exact hhas
  | call call _ ih => exact call.perform_keeps gather expand render ih
  | register other entry _ ih =>
      exact Catalogue.contains_of_insert ih

end Has

def Offers (publisher : Publisher) (session : Session) (word portion : Text) : Prop :=
  ∃ directive entry, Directive.parse? publisher.settings.flags word = some directive ∧
    Dict.find? session.catalogue directive.key = some entry ∧ entry.content = portion

theorem splice_eq_ok_iff {out : Text} :
    session.splice publisher body = .ok out ↔
      ∃ portions, List.Forall₂ (session.Offers publisher) (Markup.directives body) portions ∧
        Markup.Filled 0 (Markup.spans body) portions body out := by
  rw [← Markup.replaced_iff_filled, splice, Catalogue.splice, Markup.replace_eq_ok_iff]
  simp only [Catalogue.contentOf_eq_ok_iff]
  rfl

theorem exists_splice_iff :
    (∃ out, session.splice publisher body = .ok out) ↔
      ∀ word ∈ Markup.directives body, ∃ portion, session.Offers publisher word portion := by
  simp only [splice_eq_ok_iff, ← Markup.replaced_iff_filled, Markup.Replaced.exists_iff,
    Markup.mem_directives]

/-- Once a body is gathered, it can be spliced whatever comes between but a reset. Its directives
give way to what is under their keys by then, and this is not looked at again. -/
theorem splice_of_gathered (hgather : session.gather publisher files body = (.ok count, gathered))
    (hlater : Follows publisher gathered later) :
    ∃ portions out, later.splice publisher body = .ok out ∧
      List.Forall₂ (later.Offers publisher) (Markup.directives body) portions ∧
      Markup.Filled 0 (Markup.spans body) portions body out := by
  have hcatalogue : Catalogue.gather publisher.settings.flags
      (Catalogue.load publisher.settings.site files session.channel) body session.catalogue =
        (.ok count, gathered.catalogue) := by
    have hcount := congrArg Prod.fst hgather
    have hafter := congrArg (fun after => after.2.catalogue) hgather
    exact Prod.ext hcount hafter
  have hportions : ∀ word ∈ Markup.directives body, ∃ portion,
      later.Offers publisher word portion := by
    intro word hword
    obtain ⟨directive, hparse, hcontains⟩ :=
      Catalogue.exists_contains_of_gatherEach hcatalogue word hword
    -- Loading and splicing read the word alike, so the key to find is the one that was put in.
    have hhas : later.Has directive.key := Has.follows hcontains hlater
    obtain ⟨entry, hfind⟩ := Option.isSome_iff_exists.mp hhas
    exact ⟨entry.content, directive, entry, hparse, hfind, rfl⟩
  obtain ⟨out, hsplice⟩ := exists_splice_iff.mpr hportions
  obtain ⟨portions, hoffers, hfilled⟩ := splice_eq_ok_iff.mp hsplice
  exact ⟨portions, out, hsplice, hoffers, hfilled⟩

def loaded : Session :=
  ⟨⟨['d']⟩, [], [], [(['a'], ⟨some ⟨['r'], "a.html".toList⟩, ['x'], none⟩)]⟩

def relaid : Session :=
  Call.perform Publisher.small (loaded.register ['a'] ⟨none, "{{> z}}".toList, none⟩)
    (.expand .empty)

theorem splice_of_relaid :
    Session.gather Publisher.small (Site.small.tree [("a.html", "x")]) "{{> a}}".toList
        ⟨⟨['d']⟩, [], [], []⟩ = (.ok 1, loaded) ∧
      Follows Publisher.small loaded relaid ∧
      ∃ portions out, relaid.splice Publisher.small "{{> a}}".toList = .ok out ∧
        List.Forall₂ (relaid.Offers Publisher.small) (Markup.directives "{{> a}}".toList)
          portions ∧
        Markup.Filled 0 (Markup.spans "{{> a}}".toList) portions "{{> a}}".toList out := by
  have hgather : Session.gather Publisher.small (Site.small.tree [("a.html", "x")])
      "{{> a}}".toList ⟨⟨['d']⟩, [], [], []⟩ = (.ok 1, loaded) := by rfl
  have hlater : Follows Publisher.small loaded relaid := .call (.expand .empty) (.register _ _ .start)
  exact ⟨hgather, hlater, splice_of_gathered hgather hlater⟩

end Session

end Transclusion
