import Transclusion.Proofs.Catalogue.Expansion

namespace Transclusion

/-! What an expansion leaves behind. An expanded text is put together from stretches of the texts of
many files, none of which holds a directive, but one may come about where they meet. -/

open Directive

namespace Markup

variable {stretch text word : Text} {stretches : List Text} {c : Char} {rest : List Token}

/-- A word of the grammar of directives begins in one stretch and ends in a later one. -/
def Straddled (stretches : List Text) : Prop :=
  ∃ before first middle last after, stretches = before ++ first :: (middle ++ last :: after) ∧
    ∃ (word : Word) (front back : Text), word.Valid ∧ word.text = front ++ middle.flatten ++ back ∧
      front ≠ [] ∧ front <:+ first ∧ back ≠ [] ∧ back <+: last

private theorem exists_of_prefix_flatten {part : Text} (hne : part ≠ [])
    (hpart : part <+: stretches.flatten) :
    ∃ middle last after back, stretches = middle ++ last :: after ∧
      part = middle.flatten ++ back ∧ back ≠ [] ∧ back <+: last := by
  induction stretches generalizing part with
  | nil => exact absurd (List.prefix_nil.mp hpart) hne
  | cons stretch stretches ih =>
      obtain ⟨behind, hbehind⟩ := hpart
      rw [List.flatten_cons] at hbehind
      rcases List.append_eq_append_iff.mp hbehind with ⟨tail, rfl, -⟩ | ⟨further, rfl, hfurther⟩
      · exact ⟨[], _, stretches, part, rfl, rfl, hne, List.prefix_append _ _⟩
      · by_cases hnil : further = []
        · subst hnil
          rw [List.append_nil] at hne ⊢
          exact ⟨[], stretch, stretches, stretch, rfl, rfl, hne, List.prefix_rfl⟩
        · obtain ⟨middle, last, after, back, rfl, rfl, hback, hlast⟩ :=
            ih hnil ⟨behind, hfurther.symm⟩
          refine ⟨stretch :: middle, last, after, back, rfl, ?_, hback, hlast⟩
          rw [List.flatten_cons, List.append_assoc]

theorem wordless_flatten_iff (hstretches : ∀ stretch ∈ stretches, Wordless stretch) :
    Wordless stretches.flatten ↔ ¬ Straddled stretches := by
  constructor
  · rintro hwordless ⟨before, first, middle, last, after, rfl, word, front, back, hvalid, htext,
      -, ⟨ahead, rfl⟩, -, ⟨behind, rfl⟩⟩
    refine hwordless word hvalid ⟨before.flatten ++ ahead, behind ++ after.flatten, ?_⟩
    simp only [htext, List.flatten_append, List.flatten_cons, List.append_assoc]
  · intro hstraddled word hvalid hword
    apply hstraddled
    clear hstraddled
    induction stretches with
    | nil => exact absurd hword (wordless_nil word hvalid)
    | cons stretch stretches ih =>
        rw [List.flatten_cons] at hword
        rcases List.infix_append_iff_ne_nil.mp hword with
          hinside | hbehind | ⟨front, part, hfront, hpart, htext, hfirst, hrest⟩
        · exact absurd hinside (hstretches stretch List.mem_cons_self word hvalid)
        · obtain ⟨before, first, middle, last, after, rfl, hacross⟩ :=
            ih (fun other hmem => hstretches other (List.mem_cons_of_mem _ hmem)) hbehind
          exact ⟨stretch :: before, first, middle, last, after, rfl, hacross⟩
        · obtain ⟨middle, last, after, back, rfl, rfl, hback, hlast⟩ :=
            exists_of_prefix_flatten hpart hrest
          refine ⟨[], stretch, middle, last, after, rfl, word, front, back, hvalid, ?_, hfront,
            hfirst, hback, hlast⟩
          rw [htext, List.append_assoc]

end Markup

namespace Site

variable {site : Site} {files : FileTree} {channel : Channel} {flags : List Text}
  {maxDepth : Nat} {tokens : List Markup.Token} {text stretch : Text} {stretches : List Text}

/-- The stretches of literal text that tokens unfold to, in order: a new one begins behind every
directive and with every file, be it empty or not. -/
inductive Unravels (site : Site) (files : FileTree) (channel : Channel) (flags : List Text) :
    List Markup.Token → List Text → Prop where
  | nil : Unravels site files channel flags [] [[]]
  | char (c : Char) {rest : List Markup.Token} {stretch : Text} {stretches : List Text}
      (behind : Unravels site files channel flags rest (stretch :: stretches)) :
      Unravels site files channel flags (.char c :: rest) ((c :: stretch) :: stretches)
  | vacant {word content : Text} {directive : Directive} {rest : List Markup.Token}
      {stretches : List Text} (parsed : Directive.parse? flags word = some directive)
      (loaded : site.HasTemplate files channel directive.templateRef ⟨none, content⟩)
      (behind : Unravels site files channel flags rest stretches) :
      Unravels site files channel flags (.directive word :: rest) ([] :: stretches)
  | file {word content : Text} {directive : Directive} {source : Source}
      {rest : List Markup.Token} {inside stretches : List Text}
      (parsed : Directive.parse? flags word = some directive)
      (loaded : site.HasTemplate files channel directive.templateRef ⟨some source, content⟩)
      (inner : Unravels site files channel flags (Markup.tokens content) inside)
      (behind : Unravels site files channel flags rest stretches) :
      Unravels site files channel flags (.directive word :: rest) ([] :: inside ++ stretches)

namespace Unravels

theorem ne_nil (hunravels : site.Unravels files channel flags tokens stretches) :
    stretches ≠ [] := by
  cases hunravels <;> exact List.cons_ne_nil _ _

theorem unfolds (hunravels : site.Unravels files channel flags tokens stretches) :
    site.Unfolds files channel flags tokens stretches.flatten := by
  induction hunravels with
  | nil => exact .nil
  | char c _ ih => exact .char c ih
  | vacant parsed loaded _ ih => exact .vacant parsed loaded ih
  | file parsed loaded _ _ ihInner ih =>
      rw [List.cons_append, List.flatten_cons, List.nil_append, List.flatten_append]
      exact .file parsed loaded ihInner ih

theorem exists_of_unfolds (hunfolds : site.Unfolds files channel flags tokens text) :
    ∃ stretches, site.Unravels files channel flags tokens stretches ∧
      stretches.flatten = text := by
  induction hunfolds with
  | nil => exact ⟨[[]], .nil, rfl⟩
  | char c _ ih =>
      obtain ⟨stretches, hbehind, rfl⟩ := ih
      cases stretches with
      | nil => exact absurd rfl hbehind.ne_nil
      | cons stretch stretches => exact ⟨_, .char c hbehind, rfl⟩
  | vacant parsed loaded _ ih =>
      obtain ⟨stretches, hbehind, rfl⟩ := ih
      exact ⟨_, .vacant parsed loaded hbehind, rfl⟩
  | file parsed loaded _ _ ihInner ih =>
      obtain ⟨inside, hinner, rfl⟩ := ihInner
      obtain ⟨stretches, hbehind, rfl⟩ := ih
      exact ⟨_, .file parsed loaded hinner hbehind, by simp⟩

theorem first_prefix (hunravels : site.Unravels files channel flags tokens (stretch :: stretches)) :
    stretch <+: tokens.flatMap Markup.Token.text := by
  generalize hall : stretch :: stretches = all at hunravels
  induction hunravels generalizing stretch stretches with
  | nil =>
      cases hall
      exact List.nil_prefix
  | char c _ ih =>
      cases hall
      exact List.cons_prefix_cons.mpr ⟨rfl, ih rfl⟩
  | vacant _ _ _ _ =>
      cases hall
      exact List.nil_prefix
  | file _ _ _ _ _ _ =>
      cases hall
      exact List.nil_prefix

theorem wordless
    (hunravels : site.Unravels files channel flags (Markup.tokens text) stretches) :
    ∀ stretch ∈ stretches, Markup.Wordless stretch := by
  generalize htokens : Markup.tokens text = tokens at hunravels
  induction hunravels generalizing text with
  | nil =>
      intro stretch hmem
      rw [List.mem_singleton.mp hmem]
      exact Markup.wordless_nil
  | @char c rest stretch stretches behind ih =>
      obtain ⟨after, rfl, hread, rfl⟩ := Markup.tokens_eq_char_cons htokens
      have hbehind := ih rfl
      intro other hmem
      rcases List.mem_cons.mp hmem with rfl | hmem
      · -- In its file the character comes before more than the stretch, whence the prefix.
        refine Markup.wordless_cons ?_ (hbehind stretch List.mem_cons_self)
        have hprefix := behind.first_prefix
        rw [Markup.flatMap_text_tokens] at hprefix
        exact Markup.read?_eq_none_of_isPrefix hread hprefix
      · exact hbehind other (List.mem_cons_of_mem _ hmem)
  | vacant _ _ _ ih =>
      obtain ⟨after, rfl⟩ := Markup.tokens_eq_directive_cons htokens
      intro other hmem
      rcases List.mem_cons.mp hmem with rfl | hmem
      · exact Markup.wordless_nil
      · exact ih rfl other hmem
  | file _ _ _ _ ihInner ih =>
      obtain ⟨after, rfl⟩ := Markup.tokens_eq_directive_cons htokens
      intro other hmem
      rcases List.mem_append.mp hmem with hmem | hmem
      · rcases List.mem_cons.mp hmem with rfl | hmem
        · exact Markup.wordless_nil
        · exact ihInner rfl other hmem
      · exact ih rfl other hmem

end Unravels

theorem Composed.spans_eq_nil_iff {before after : Partial}
    (hcomposed : site.Composed files channel flags before after) :
    Markup.spans after.content = [] ↔
      ∃ stretches, site.Unravels files channel flags (Markup.tokens before.content) stretches ∧
        ¬ Markup.Straddled stretches := by
  rw [Markup.spans_eq_nil_iff]
  constructor
  · intro hwordless
    obtain ⟨stretches, hunravels, hflatten⟩ := Unravels.exists_of_unfolds hcomposed.content
    refine ⟨stretches, hunravels, (Markup.wordless_flatten_iff hunravels.wordless).mp ?_⟩
    rwa [hflatten]
  · rintro ⟨stretches, hunravels, hstraddled⟩
    rw [hcomposed.content.unique hunravels.unfolds]
    exact (Markup.wordless_flatten_iff hunravels.wordless).mpr hstraddled

end Site

namespace Catalogue

variable {site : Site} {files : FileTree} {channel : Channel} {flags : List Text}
  {body : Text} {count maxDepth : Nat} {catalogue composed : Catalogue}

/-- No directive is left in an expanded catalogue just if none comes about where the stretches of
one of its entries meet. -/
theorem spans_eq_nil_iff_not_straddled
    (hgather : gather flags (load site files channel) body [] = (.ok count, catalogue))
    (hexpand : expand (site.nesting files channel flags maxDepth) catalogue = (.ok (), composed)) :
    (∀ key entry, (key, entry) ∈ composed → Markup.spans entry.content = []) ↔
      ∀ key entry, (key, entry) ∈ catalogue →
        ∃ stretches, site.Unravels files channel flags (Markup.tokens entry.content) stretches ∧
          ¬ Markup.Straddled stretches := by
  obtain ⟨hok, rfl⟩ := Dict.sweep_eq_ok_iff.mp hexpand
  constructor
  · intro hspans key entry hmem
    have hcomposed := composed_of_mem hgather hmem (hok key entry hmem)
    exact hcomposed.spans_eq_nil_iff.mp
      (hspans key _ (Dict.mem_mapValues.mpr ⟨entry, hmem, rfl⟩))
  · intro hstretches key after hmem
    obtain ⟨entry, hentry, rfl⟩ := Dict.mem_mapValues.mp hmem
    have hcomposed := composed_of_mem hgather hentry (hok key entry hentry)
    exact hcomposed.spans_eq_nil_iff.mpr (hstretches key entry hentry)

def braced : FileTree :=
  Site.small.tree [("a.html", "{x {{> b}} }"), ("b.html", "y")]

def braced.entry : Partial :=
  ⟨some ⟨['r'], "a.html".toList⟩, "{x {{> b}} }".toList, none⟩

theorem not_straddled_of_included :
    ∃ stretches, Site.Unravels .small braced ⟨[]⟩ [] (Markup.tokens "{x {{> b}} }".toList) stretches
      ∧ ¬ Markup.Straddled stretches := by
  have hgather : gather [] (load .small braced ⟨[]⟩) "{{> a}}".toList [] =
      (.ok 1, [(['a'], braced.entry)]) := by rfl
  have hinner : (Site.nesting .small braced ⟨[]⟩ [] 8).expand
      [⟨['r'], "a.html".toList⟩, ⟨['r'], "b.html".toList⟩] ['y'] = .ok ['y'] :=
    Nesting.expand_eq_ok_iff.mpr (.char 'y' .nil)
  have hplace : (Site.nesting .small braced ⟨[]⟩ [] 8).place
      [⟨['r'], "a.html".toList⟩] "{{> b}}".toList = .ok ['y'] := hinner
  have houter : (Site.nesting .small braced ⟨[]⟩ [] 8).expand
      [⟨['r'], "a.html".toList⟩] "{x {{> b}} }".toList = .ok "{x y }".toList := by
    rw [Nesting.expand_eq]
    change Markup.replaceTokens _
      [.char '{', .char 'x', .char ' ', .directive "{{> b}}".toList, .char ' ', .char '}'] = _
    simp only [Markup.replaceTokens, hplace]
    rfl
  refine (spans_eq_nil_iff_not_straddled hgather (expand_singleton houter)).mp ?_ _ _
    List.mem_cons_self
  intro key entry hmem
  cases List.mem_singleton.mp hmem
  decide

def seamed : FileTree :=
  Site.small.tree [("a.html", "{{> x{{> b_%s}} }}"), ("x.html", "X")]

def seamed.entry : Partial :=
  ⟨some ⟨['r'], "a.html".toList⟩, "{{> x{{> b_%s}} }}".toList, none⟩

theorem directive_left_at_seam : ¬ ∀ (site : Site) (files : FileTree) (channel : Channel)
    (flags : List Text) (body : Text) (count maxDepth : Nat) (catalogue composed : Catalogue),
    gather flags (load site files channel) body [] = (.ok count, catalogue) →
      expand (site.nesting files channel flags maxDepth) catalogue = (.ok (), composed) →
        ∀ key entry, (key, entry) ∈ composed → Markup.spans entry.content = [] := by
  intro hfixed
  have hgather : gather [] (load .small seamed ⟨['d']⟩) "{{> a}}".toList [] =
      (.ok 1, [(['a'], seamed.entry)]) := by rfl
  have hplace : (Site.nesting .small seamed ⟨['d']⟩ [] 8).place
      [⟨['r'], "a.html".toList⟩] "{{> b_%s}}".toList = .ok [] := rfl
  have houter : (Site.nesting .small seamed ⟨['d']⟩ [] 8).expand
      [⟨['r'], "a.html".toList⟩] "{{> x{{> b_%s}} }}".toList = .ok "{{> x }}".toList := by
    rw [Nesting.expand_eq]
    change Markup.replaceTokens _ [.char '{', .char '{', .char '>', .char ' ', .char 'x',
      .directive "{{> b_%s}}".toList, .char ' ', .char '}', .char '}'] = _
    simp only [Markup.replaceTokens, hplace]
    rfl
  have hspans := hfixed _ _ _ _ _ _ _ _ _ hgather (expand_singleton houter) _ _
    List.mem_cons_self
  exact absurd hspans (by decide)

end Catalogue

end Transclusion
