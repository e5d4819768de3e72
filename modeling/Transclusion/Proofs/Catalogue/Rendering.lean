import Transclusion.Catalogue.Render
import Transclusion.Proofs.Dict.Order
import Transclusion.Template.Slots

namespace Transclusion.Catalogue

/-! What rendering makes of a catalogue, and how far it has come where it fails. -/

variable {render : Text → Data → Except TemplateError Text} {shared : Data}
  {catalogue after : Catalogue} {entry : Partial} {key : Text} {failure : Failure}
  {outcome : Except Failure Unit}

/-- An entry before and after it is rendered. Data of its own have those that all share laid over
them, and stay so. -/
inductive Rendered (render : Text → Data → Except TemplateError Text) (shared : Data) :
    Partial → Partial → Prop where
  | own {source : Option Source} {content new : Text} {data : Data}
      (rendered : render content (Dict.overlay data shared) = .ok new) :
      Rendered render shared ⟨source, content, some data⟩
        ⟨source, new, some (Dict.overlay data shared)⟩
  | plain {source : Option Source} {content new : Text}
      (rendered : render content shared = .ok new) :
      Rendered render shared ⟨source, content, none⟩ ⟨source, new, none⟩

/-- An entry before and after it fails to be rendered. Its text stays, but its own data have the
shared ones laid over them by then. -/
inductive Refused (render : Text → Data → Except TemplateError Text) (shared : Data)
    (error : TemplateError) : Partial → Partial → Prop where
  | own {source : Option Source} {content : Text} {data : Data}
      (refused : render content (Dict.overlay data shared) = .error error) :
      Refused render shared error ⟨source, content, some data⟩
        ⟨source, content, some (Dict.overlay data shared)⟩
  | plain {source : Option Source} {content : Text}
      (refused : render content shared = .error error) :
      Refused render shared error ⟨source, content, none⟩ ⟨source, content, none⟩

theorem rendered_of_renderEntry (hok : (renderEntry render shared entry).1 = .ok ()) :
    Rendered render shared entry (renderEntry render shared entry).2 := by
  obtain ⟨source, content, data⟩ := entry
  unfold renderEntry at hok ⊢
  split at hok
  · next new hrender =>
      cases data with
      | none => exact .plain hrender
      | some data => exact .own hrender
  · cases hok

theorem refused_of_renderEntry (hfail : (renderEntry render shared entry).1 = .error failure) :
    ∃ error, failure = .template error ∧
      Refused render shared error entry (renderEntry render shared entry).2 := by
  obtain ⟨source, content, data⟩ := entry
  unfold renderEntry at hfail ⊢
  split at hfail
  · cases hfail
  · next error hrender =>
      cases hfail
      refine ⟨error, rfl, ?_⟩
      cases data with
      | none => exact .plain hrender
      | some data => exact .own hrender

theorem source_renderEntry (entry : Partial) :
    (renderEntry render shared entry).2.source = entry.source := by
  unfold renderEntry
  split <;> rfl

theorem source_of_render (hfind : Dict.find? catalogue key = some entry) :
    ∃ later, Dict.find? (Catalogue.render render shared catalogue).2 key = some later ∧
      later.source = entry.source := by
  rcases Dict.find?_sweep hfind with hsame | hchanged
  · exact ⟨entry, hsame, rfl⟩
  · exact ⟨_, hchanged, source_renderEntry entry⟩

def RenderedAt (render : Text → Data → Except TemplateError Text) (shared : Data)
    (catalogue after : Catalogue) (key : Text) : Prop :=
  ∀ entry, Dict.find? catalogue key = some entry →
    ∃ later, Dict.find? after key = some later ∧ Rendered render shared entry later

theorem renderedAt_of_render (hok : (Catalogue.render render shared catalogue).1 = .ok ())
    (key : Text) :
    RenderedAt render shared catalogue (Catalogue.render render shared catalogue).2 key := by
  intro entry hfind
  have hentry : (renderEntry render shared entry).1 = .ok () :=
    (Dict.sweep_fst_eq_ok_iff _ catalogue).mp hok key entry (Dict.mem_of_find?_eq_some hfind)
  refine ⟨(renderEntry render shared entry).2, ?_, rendered_of_renderEntry hentry⟩
  rw [Catalogue.render, Dict.sweep_snd_of_ok hok, Dict.find?_mapValues, hfind]
  rfl

/-- Rendering keeps the keys and the files. When it succeeds, every entry is rendered against its
own data, over which the shared ones are laid. When it fails, it has come to the entry of some key:
those of smaller keys are rendered, those of greater ones are as they were, and of the entry itself
only the data are bound. -/
theorem render_settles (hsorted : Dict.Sorted catalogue) (hshared : Dict.Sorted shared)
    (hrender : Catalogue.render render shared catalogue = (outcome, after)) :
    Dict.keys after = Dict.keys catalogue ∧
      (∀ key entry, Dict.find? catalogue key = some entry →
        ∃ later, Dict.find? after key = some later ∧ later.source = entry.source) ∧
      (∀ (data : Data) (name : Text), Dict.find? (Dict.overlay data shared) name =
        (Dict.find? shared name).or (Dict.find? data name)) ∧
      (outcome = .ok () → ∀ key, RenderedAt render shared catalogue after key) ∧
      ∀ failure, outcome = .error failure → ∃ key entry later error,
        failure = .template error ∧ Dict.find? catalogue key = some entry ∧
          Dict.find? after key = some later ∧ Refused render shared error entry later ∧
            (∀ other, other < key → RenderedAt render shared catalogue after other) ∧
              ∀ other, key < other → Dict.find? after other = Dict.find? catalogue other := by
  have hafter : (Catalogue.render render shared catalogue).2 = after := by rw [hrender]
  refine ⟨?_, fun key entry hfind => ?_, fun data name => hshared.find?_overlay data name,
    fun hok key => ?_, fun failure hfail => ?_⟩
  · rw [← hafter]
    exact Dict.keys_sweep _ catalogue
  · rw [← hafter]
    exact source_of_render hfind
  · rw [← hafter]
    exact renderedAt_of_render (by rw [hrender, hok]) key
  · subst hfail
    obtain ⟨key, entry, hfind, hentry, hkey, hsmaller, hgreater⟩ :=
      hsorted.find?_sweep_of_error hrender
    obtain ⟨error, hfailure, hrefused⟩ := refused_of_renderEntry hentry
    refine ⟨key, entry, _, error, hfailure, hfind, hkey, hrefused, ?_, hgreater⟩
    intro other hlt present hpresent
    obtain ⟨hok, hother⟩ := hsmaller other present hlt hpresent
    exact ⟨_, hother, rendered_of_renderEntry hok⟩

def unclosed : Catalogue :=
  [(['a'], ⟨none, "{{x}}".toList, some [(['x'], .string ['o'])]⟩),
    (['b'], ⟨none, "{{#x}}".toList, some []⟩), (['c'], ⟨none, "{{x}}".toList, none⟩)]

def unclosed.common : Data :=
  [(['x'], .string ['s'])]

def unclosed.left : Catalogue :=
  [(['a'], ⟨none, ['s'], some unclosed.common⟩),
    (['b'], ⟨none, "{{#x}}".toList, some unclosed.common⟩), (['c'], ⟨none, "{{x}}".toList, none⟩)]

theorem settles_of_unclosed :
    Dict.Sorted unclosed ∧ Dict.Sorted unclosed.common ∧
      Catalogue.render (Template.render true) unclosed.common unclosed =
        (.error (.template (.unclosedSection ['x'])), unclosed.left) ∧
      ∃ key entry later error, TemplateError.unclosedSection ['x'] = error ∧
        Dict.find? unclosed key = some entry ∧ Dict.find? unclosed.left key = some later ∧
          Refused (Template.render true) unclosed.common error entry later ∧
            (∀ other, other < key →
              RenderedAt (Template.render true) unclosed.common unclosed unclosed.left other) ∧
              ∀ other, key < other →
                Dict.find? unclosed.left other = Dict.find? unclosed other := by
  have hsorted : Dict.Sorted unclosed := by
    unfold Dict.Sorted
    decide
  have hcommon : Dict.Sorted unclosed.common := List.pairwise_singleton _ _
  have hrender : Catalogue.render (Template.render true) unclosed.common unclosed =
      (.error (.template (.unclosedSection ['x'])), unclosed.left) := by rfl
  obtain ⟨-, -, -, -, hfail⟩ := render_settles hsorted hcommon hrender
  obtain ⟨key, entry, later, error, hfailure, hrest⟩ := hfail _ rfl
  exact ⟨hsorted, hcommon, hrender, key, entry, later, error, Failure.template.inj hfailure, hrest⟩

theorem bound_though_refused : ¬ ∀ (render : Text → Data → Except TemplateError Text)
    (shared : Data) (catalogue after : Catalogue) (failure : Failure),
    Dict.Sorted catalogue → Catalogue.render render shared catalogue = (.error failure, after) →
      ∃ key entry error, failure = .template error ∧ Dict.find? catalogue key = some entry ∧
        render entry.content (entry.context shared) = .error error ∧
          ∀ other, ¬ other < key → Dict.find? after other = Dict.find? catalogue other := by
  intro hintact
  have hrender : Catalogue.render (Template.render true) [(['s'], .string ['t'])]
      [(['a'], ⟨none, "{{#x}}".toList, some []⟩)] =
        (.error (.template (.unclosedSection ['x'])),
          [(['a'], ⟨none, "{{#x}}".toList, some [(['s'], .string ['t'])]⟩)]) := by rfl
  have hsorted : Dict.Sorted [(['a'], (⟨none, "{{#x}}".toList, some []⟩ : Partial))] :=
    List.pairwise_singleton _ _
  obtain ⟨key, entry, error, -, hfind, -, hsame⟩ := hintact _ _ _ _ _ hsorted hrender
  rw [Dict.find?_cons] at hfind
  split at hfind
  · next heq =>
      subst heq
      have hdata := hsame ['a'] (lt_irrefl _)
      cases hdata
  · cases hfind

end Transclusion.Catalogue
