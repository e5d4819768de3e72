import Transclusion.Proofs.Template.Cutting
import Transclusion.Template.Slots

namespace Transclusion.Template

/-! Templates can be parsed just if their tags nest. Where they do not, the first tag that does not
fit is told of. -/

def Cut.marks (cut : Cut) : List Tag :=
  cut.tags.map Prod.fst

variable {tag : Tag} {marks front more before after : List Tag} {name : Text} {names : List Text}
  {error : TemplateError} {frames : List Frame} {nodes : List Node} {tags : List (Tag × Text)}

inductive TagKind.Plain : TagKind → Prop where
  | value (name : Text) (escaped : Bool) : Plain (.value name escaped)
  | note : Plain .note
  | inclusion : Plain .inclusion

/-- Every section is closed by its own name, after all that is opened within it. -/
inductive Nested : List Tag → Prop where
  | nil : Nested []
  | plain {tag : Tag} {rest : List Tag} (kind : tag.kind.Plain) (behind : Nested rest) :
      Nested (tag :: rest)
  | block {enter leave : Tag} {name : Text} {inverted : Bool} {children rest : List Tag}
      (enters : enter.kind = .enter name inverted) (inner : Nested children)
      (leaves : leave.kind = .leave name) (behind : Nested rest) :
      Nested (enter :: (children ++ leave :: rest))

/-- Tags that nest but for sections that are still open, whose names are given from the innermost
to the outermost. -/
inductive Opens : List Text → List Tag → Prop where
  | all_closed {marks : List Tag} (nested : Nested marks) : Opens [] marks
  | inside {names : List Text} {front children : List Tag} {enter : Tag} {name : Text}
      {inverted : Bool} (outer : Opens names front) (enters : enter.kind = .enter name inverted)
      (nested : Nested children) : Opens (name :: names) (front ++ enter :: children)

/-- What is wrong with tags that do not nest. All is well ahead of the tag that is blamed. -/
inductive Blames : List Tag → TemplateError → Prop where
  | delimiters {names : List Text} {before after : List Tag} {tag : Tag}
      (opens : Opens names before) (kind : tag.kind = .delimiters) :
      Blames (before ++ tag :: after) (.unsupportedTag tag.text)
  | unopened {before after : List Tag} {tag : Tag} {name : Text} (opens : Opens [] before)
      (kind : tag.kind = .leave name) : Blames (before ++ tag :: after) (.unopenedSection name)
  | crossed {names : List Text} {before after : List Tag} {tag : Tag} {name other : Text}
      (opens : Opens (name :: names) before) (kind : tag.kind = .leave other)
      (name_ne : name ≠ other) : Blames (before ++ tag :: after) (.unclosedSection name)
  | unclosed {names : List Text} {marks : List Tag} {name : Text}
      (opens : Opens (name :: names) marks) : Blames marks (.unclosedSection name)

theorem Nested.append (hfront : Nested front) (hmore : Nested more) : Nested (front ++ more) := by
  induction hfront with
  | nil => exact hmore
  | plain kind _ ih => exact .plain kind ih
  | block enters inner leaves _ _ ih =>
      rw [List.cons_append, List.append_assoc, List.cons_append]
      exact .block enters inner leaves ih

theorem Nested.ne_delimiters (hnested : Nested marks) : ∀ tag ∈ marks, tag.kind ≠ .delimiters := by
  induction hnested with
  | nil => exact fun _ hmem => absurd hmem List.not_mem_nil
  | plain kind _ ih =>
      refine List.forall_mem_cons.mpr ⟨fun hkind => ?_, ih⟩
      rw [hkind] at kind
      cases kind
  | block enters _ leaves _ ihInner ih =>
      refine List.forall_mem_cons.mpr ⟨fun hkind => ?_, List.forall_mem_append.mpr
        ⟨ihInner, List.forall_mem_cons.mpr ⟨fun hkind => ?_, ih⟩⟩⟩
      · rw [hkind] at enters
        cases enters
      · rw [hkind] at leaves
        cases leaves

namespace Opens

theorem append (hopens : Opens names front) (hmore : Nested more) :
    Opens names (front ++ more) := by
  cases hopens with
  | all_closed nested => exact .all_closed (nested.append hmore)
  | inside outer enters nested =>
      rw [List.append_assoc, List.cons_append]
      exact .inside outer enters (nested.append hmore)

theorem plain (hopens : Opens names front) (hkind : tag.kind.Plain) :
    Opens names (front ++ [tag]) :=
  hopens.append (.plain hkind .nil)

theorem enter {inverted : Bool} (hopens : Opens names front)
    (hkind : tag.kind = .enter name inverted) : Opens (name :: names) (front ++ [tag]) :=
  .inside hopens hkind .nil

theorem leave (hopens : Opens (name :: names) front) (hkind : tag.kind = .leave name) :
    Opens names (front ++ [tag]) := by
  cases hopens with
  | inside outer enters nested =>
      rw [List.append_assoc, List.cons_append]
      exact outer.append (.block enters nested hkind .nil)

theorem nested (hopens : Opens [] marks) : Nested marks := by
  cases hopens with
  | all_closed nested => exact nested

theorem nested_or_blames (hopens : Opens names front) (marks : List Tag) :
    Nested (front ++ marks) ∨ ∃ error, Blames (front ++ marks) error := by
  -- The tags go over to the front one by one, until one does not fit or there are no more.
  induction marks generalizing names front with
  | nil =>
      rw [List.append_nil]
      cases names with
      | nil => exact .inl hopens.nested
      | cons name names => exact .inr ⟨_, .unclosed hopens⟩
  | cons tag marks ih =>
      have hnext : ∀ {names : List Text}, Opens names (front ++ [tag]) →
          Nested (front ++ tag :: marks) ∨ ∃ error, Blames (front ++ tag :: marks) error := by
        intro names hopens
        have hmarks := ih hopens
        rwa [List.append_assoc, List.singleton_append] at hmarks
      cases hkind : tag.kind with
      | value name escaped => exact hnext (hopens.plain (hkind ▸ .value name escaped))
      | note => exact hnext (hopens.plain (hkind ▸ .note))
      | inclusion => exact hnext (hopens.plain (hkind ▸ .inclusion))
      | enter name inverted => exact hnext (hopens.enter hkind)
      | leave name =>
          cases names with
          | nil => exact .inr ⟨_, .unopened hopens hkind⟩
          | cons inner names =>
              by_cases hname : inner = name
              · exact hnext (hopens.leave (hname ▸ hkind))
              · exact .inr ⟨_, .crossed hopens hkind hname⟩
      | delimiters => exact .inr ⟨_, .delimiters hopens hkind⟩

end Opens

section Nest

theorem nest_plain (hkind : tag.kind.Plain) (behind : Text) :
    ∃ added, ∀ frames nodes rest,
      nest frames nodes ((tag, behind) :: rest) = nest frames (nodes ++ added) rest := by
  generalize hsame : tag.kind = kind at hkind
  cases hkind <;> exact ⟨_, fun frames nodes rest => by rw [nest, hsame]⟩

theorem nest_enter {inverted : Bool} (hkind : tag.kind = .enter name inverted)
    (behind : Text) (rest : List (Tag × Text)) :
    nest frames nodes ((tag, behind) :: rest) =
      nest (⟨name, inverted, nodes⟩ :: frames) (textNodes behind) rest := by
  rw [nest, hkind]

theorem nest_leave {inverted : Bool} {outer : List Node} (hkind : tag.kind = .leave name)
    (behind : Text) (rest : List (Tag × Text)) :
    nest (⟨name, inverted, outer⟩ :: frames) nodes ((tag, behind) :: rest) =
      nest frames (outer ++ .block name inverted nodes :: textNodes behind) rest := by
  rw [nest, hkind]
  simp only [↓reduceIte]

theorem Nested.exists_nest (hnested : Nested (tags.map Prod.fst)) :
    ∃ added, ∀ frames nodes rest,
      nest frames nodes (tags ++ rest) = nest frames (nodes ++ added) rest := by
  generalize hmarks : tags.map Prod.fst = marks at hnested
  induction hnested generalizing tags with
  | nil =>
      rw [List.map_eq_nil_iff] at hmarks
      exact ⟨[], fun frames nodes rest => by rw [hmarks, List.nil_append, List.append_nil]⟩
  | plain kind _ ih =>
      obtain ⟨⟨_, behind⟩, tags, rfl, rfl, rfl⟩ := List.map_eq_cons_iff.mp hmarks
      obtain ⟨here, hhere⟩ := nest_plain kind behind
      obtain ⟨added, hadded⟩ := ih rfl
      refine ⟨here ++ added, fun frames nodes rest => ?_⟩
      rw [List.cons_append, hhere, hadded, List.append_assoc]
  | @block _ _ name inverted _ _ enters _ leaves _ ihInner ih =>
      obtain ⟨⟨enter, first⟩, tags, rfl, rfl, htags⟩ := List.map_eq_cons_iff.mp hmarks
      obtain ⟨inner, tags, rfl, rfl, hrest⟩ := List.map_eq_append_iff.mp htags
      obtain ⟨⟨leave, last⟩, tags, rfl, rfl, rfl⟩ := List.map_eq_cons_iff.mp hrest
      obtain ⟨children, hchildren⟩ := ihInner rfl
      obtain ⟨added, hadded⟩ := ih rfl
      refine ⟨.block name inverted (textNodes first ++ children) :: textNodes last ++ added,
        fun frames nodes rest => ?_⟩
      rw [List.cons_append, List.append_assoc, List.cons_append, nest_enter enters, hchildren,
        nest_leave leaves, hadded, List.append_assoc]

theorem Opens.exists_nest (hopens : Opens names (tags.map Prod.fst)) (nodes : List Node) :
    ∃ frames more, frames.map Frame.name = names ∧
      ∀ rest, nest [] nodes (tags ++ rest) = nest frames more rest := by
  generalize hmarks : tags.map Prod.fst = marks at hopens
  induction hopens generalizing tags with
  | all_closed nested =>
      subst hmarks
      obtain ⟨added, hadded⟩ := nested.exists_nest
      exact ⟨[], nodes ++ added, rfl, hadded [] nodes⟩
  | @inside names _ _ _ name inverted _ enters nested ih =>
      obtain ⟨front, tags, rfl, rfl, htags⟩ := List.map_eq_append_iff.mp hmarks
      obtain ⟨⟨enter, first⟩, tags, rfl, rfl, rfl⟩ := List.map_eq_cons_iff.mp htags
      obtain ⟨frames, outer, rfl, houter⟩ := ih rfl
      obtain ⟨added, hadded⟩ := nested.exists_nest
      refine ⟨⟨name, inverted, outer⟩ :: frames, textNodes first ++ added, rfl, fun rest => ?_⟩
      rw [List.append_assoc, houter, List.cons_append, nest_enter enters, hadded]

theorem Blames.nest_eq (hblames : Blames (tags.map Prod.fst) error) (nodes : List Node) :
    nest [] nodes tags = .error error := by
  generalize hmarks : tags.map Prod.fst = marks at hblames
  cases hblames with
  | delimiters opens kind =>
      obtain ⟨front, tags, rfl, rfl, htags⟩ := List.map_eq_append_iff.mp hmarks
      obtain ⟨⟨tag, behind⟩, tags, rfl, rfl, rfl⟩ := List.map_eq_cons_iff.mp htags
      obtain ⟨frames, more, -, hmore⟩ := opens.exists_nest nodes
      rw [hmore, nest, kind]
  | unopened opens kind =>
      obtain ⟨front, tags, rfl, rfl, htags⟩ := List.map_eq_append_iff.mp hmarks
      obtain ⟨⟨tag, behind⟩, tags, rfl, rfl, rfl⟩ := List.map_eq_cons_iff.mp htags
      obtain ⟨frames, more, hframes, hmore⟩ := opens.exists_nest nodes
      rw [hmore, List.map_eq_nil_iff.mp hframes, nest, kind]
  | crossed opens kind name_ne =>
      obtain ⟨front, tags, rfl, rfl, htags⟩ := List.map_eq_append_iff.mp hmarks
      obtain ⟨⟨tag, behind⟩, tags, rfl, rfl, rfl⟩ := List.map_eq_cons_iff.mp htags
      obtain ⟨frames, more, hframes, hmore⟩ := opens.exists_nest nodes
      obtain ⟨frame, frames, rfl, rfl, rfl⟩ := List.map_eq_cons_iff.mp hframes
      rw [hmore, nest, kind]
      simp only [if_neg name_ne]
  | unclosed opens =>
      subst hmarks
      obtain ⟨frames, more, hframes, hmore⟩ := opens.exists_nest nodes
      obtain ⟨frame, frames, rfl, rfl, rfl⟩ := List.map_eq_cons_iff.mp hframes
      have hall := hmore []
      rw [List.append_nil] at hall
      rw [hall, nest]

theorem Nested.exists_nest_eq_ok (hnested : Nested (tags.map Prod.fst)) :
    ∃ added, ∀ nodes, nest [] nodes tags = .ok (nodes ++ added) := by
  obtain ⟨added, hadded⟩ := hnested.exists_nest
  refine ⟨added, fun nodes => ?_⟩
  have hall := hadded [] nodes []
  rwa [List.append_nil] at hall

theorem exists_nest_iff : (∃ result, nest [] nodes tags = .ok result) ↔
    Nested (tags.map Prod.fst) := by
  constructor
  · rintro ⟨result, hnest⟩
    rcases (Opens.all_closed .nil).nested_or_blames (tags.map Prod.fst) with hnested | ⟨_, hblames⟩
    · exact hnested
    · rw [hblames.nest_eq nodes] at hnest
      cases hnest
  · intro hnested
    obtain ⟨added, hadded⟩ := hnested.exists_nest_eq_ok
    exact ⟨_, hadded nodes⟩

theorem nest_eq_error_iff :
    nest [] nodes tags = .error error ↔ Blames (tags.map Prod.fst) error := by
  constructor
  · intro hnest
    rcases (Opens.all_closed .nil).nested_or_blames (tags.map Prod.fst) with hnested | ⟨_, hblames⟩
    · obtain ⟨result, hresult⟩ := exists_nest_iff.mpr hnested
      rw [hnest] at hresult
      cases hresult
    · rw [hblames.nest_eq nodes] at hnest
      cases hnest
      exact hblames
  · exact fun hblames => hblames.nest_eq nodes

end Nest

theorem marks_tidyFrom (beginsLine : Bool) (lead : Text) (tags : List (Tag × Text)) :
    (tidyFrom beginsLine lead tags).marks = tags.map Prod.fst := by
  induction tags generalizing beginsLine lead with
  | nil => rfl
  | cons entry tags ih =>
      unfold tidyFrom
      split <;> exact congrArg (entry.1 :: ·) (ih _ _)

section Parse

variable {template : Text} {data : Data}

theorem exists_parse_iff :
    (∃ nodes, parse template = .ok nodes) ↔ Nested (cut template).marks := by
  rw [Cut.marks, ← marks_tidyFrom true (cut template).lead]
  exact exists_nest_iff

theorem parse_eq_error_iff :
    parse template = .error error ↔ Blames (cut template).marks error := by
  rw [Cut.marks, ← marks_tidyFrom true (cut template).lead]
  exact nest_eq_error_iff

theorem exists_bound_iff (data : Data) :
    (∃ result, bound template data = .ok result) ↔ ∃ nodes, parse template = .ok nodes := by
  unfold bound
  cases parse template with
  | ok nodes => exact ⟨fun _ => ⟨nodes, rfl⟩, fun _ => ⟨_, rfl⟩⟩
  | error error => exact ⟨fun ⟨_, heq⟩ => (nomatch heq), fun ⟨_, heq⟩ => (nomatch heq)⟩

theorem bound_eq_error_iff (data : Data) :
    bound template data = .error error ↔ parse template = .error error := by
  unfold bound
  cases parse template with
  | ok nodes => exact ⟨fun heq => (nomatch heq), fun heq => (nomatch heq)⟩
  | error other => exact ⟨fun heq => by cases heq; rfl, fun heq => by cases heq; rfl⟩

/-- A template is cut into tags in one way. It can be bound to data just if the tags nest, and what
is wrong otherwise is the first tag that does not fit, or the section that is open in the end. The
data have no part in it. -/
theorem bound_iff_nested (template : Text) :
    ∃ cut, (∀ other, Cuts template other ↔ other = cut) ∧ ∀ data,
      ((∃ result, bound template data = .ok result) ↔ Nested cut.marks) ∧
        ∀ error, bound template data = .error error ↔ Blames cut.marks error := by
  refine ⟨cut template, fun other => ?_, fun data => ⟨?_, fun error => ?_⟩⟩
  · rw [cuts_iff, eq_comm]
  · rw [exists_bound_iff, exists_parse_iff]
  · rw [bound_eq_error_iff, parse_eq_error_iff]

end Parse

end Transclusion.Template
