import Transclusion.Proofs.Template.Evaluation
import Transclusion.Proofs.Template.Tidying

namespace Transclusion.Template

/-! A template that ends with a line, and in which every tag is closed, can be rendered apart from
what follows it. -/

open Text

variable {first second text lead behind : Text} {tags : List (Tag × Text)} {tag : Tag}
  {beginsLine : Bool}

/-- Every tag that is opened is closed by its braces. -/
inductive Closed : Text → Prop where
  | plain {text : Text} (untagged : ¬ tagMark <:+: text) : Closed text
  | tag {lead behind : Text} {tag : Tag} (first : Until tagMark lead) (written : tag.Written)
      (rest : Closed behind) : Closed (lead ++ (tag.text ++ behind))

theorem closed_iff : Closed text ↔
    ∀ part ∈ (cut text).lead :: (cut text).tags.map Prod.snd, holds tagMark part = false := by
  simp only [← Bool.not_eq_true, holds_eq_true_iff]
  constructor
  · intro hclosed
    induction hclosed with
    | plain untagged =>
        rw [cut_of_untagged untagged]
        exact List.forall_mem_cons.mpr ⟨untagged, fun _ hmem => absurd hmem List.not_mem_nil⟩
    | @tag lead behind tag first written rest ih =>
        rw [cuts_iff.mp (.tag first written (cuts_cut behind))]
        exact List.forall_mem_cons.mpr ⟨not_isInfix_of_until (by decide) first, ih⟩
  · intro hparts
    have hcuts := cuts_cut text
    generalize cut text = cut at hcuts hparts
    induction hcuts with
    | plain untagged => exact .plain untagged
    | @unclosed lead rest _ _ =>
        exact absurd ⟨lead, rest, List.append_assoc _ _ _⟩ (hparts _ List.mem_cons_self)
    | tag first written _ ih => exact .tag first written (ih (List.forall_mem_cons.mp hparts).2)

/-- One template behind another, where the text behind the last tag of the first goes on with the
text that the second begins with. -/
def joined (lead : Text) (tags : List (Tag × Text)) (second : Cut) : Cut :=
  match tags with
  | [] => ⟨lead ++ second.lead, second.tags⟩
  | (tag, behind) :: tags =>
      let rest := joined behind tags second
      ⟨lead, (tag, rest.lead) :: rest.tags⟩

section Cut

theorem cut_append_of_untagged (huntagged : ¬ tagMark <:+: first)
    (hlast : first.getLast? ≠ some '{') (second : Text) :
    cut (first ++ second) = ⟨first ++ (cut second).lead, (cut second).tags⟩ := by
  induction first with
  | nil => rfl
  | cons c rest ih =>
      have hmark : ¬ tagMark <+: c :: (rest ++ second) := by
        intro hpart
        cases rest with
        | nil =>
            -- An opening brace at the end could go with one that the second template begins with.
            obtain ⟨rfl, -⟩ := List.cons_prefix_cons.mp hpart
            exact hlast rfl
        | cons d rest =>
            apply huntagged
            obtain ⟨rfl, hrest⟩ := List.cons_prefix_cons.mp hpart
            obtain ⟨rfl, -⟩ := List.cons_prefix_cons.mp hrest
            exact ⟨[], rest, rfl⟩
      have hrest : rest.getLast? ≠ some '{' := by
        cases rest with
        | nil => decide
        | cons d rest => exact hlast
      rw [List.cons_append, cut_cons hmark,
        ih (fun hpart => huntagged (List.infix_cons hpart)) hrest]
      rfl

theorem cut_append_of_closed (hclosed : Closed first) (hlast : first.getLast? ≠ some '{')
    (second : Text) :
    cut (first ++ second) = joined (cut first).lead (cut first).tags (cut second) := by
  induction hclosed with
  | plain untagged => rw [cut_append_of_untagged untagged hlast, cut_of_untagged untagged, joined]
  | @tag lead behind tag first written rest ih =>
      have hbehind : behind.getLast? ≠ some '{' := by
        intro hbehind
        apply hlast
        rw [← List.append_assoc, List.getLast?_append, hbehind, Option.some_or]
      have hcut : ∀ behind, cut (lead ++ (tag.text ++ behind)) =
          ⟨lead, (tag, (cut behind).lead) :: (cut behind).tags⟩ :=
        fun behind => cuts_iff.mp (.tag first written (cuts_cut behind))
      rw [List.append_assoc, List.append_assoc, hcut, hcut, ih hbehind, joined]

end Cut

section Tidy

/-- The last text ends with a line feed, or there is no text at all and a line has just ended. -/
def EndsWithLine (beginsLine : Bool) (lead : Text) : List (Tag × Text) → Prop
  | [] => lead.getLast? = some '\n' ∨ lead = [] ∧ beginsLine = true
  | (_, behind) :: tags => EndsWithLine false behind tags

theorem endsWithLine_cut (hclosed : Closed first) (hlast : first.getLast? = some '\n')
    (beginsLine : Bool) : EndsWithLine beginsLine (cut first).lead (cut first).tags := by
  induction hclosed generalizing beginsLine with
  | plain untagged =>
      rw [cut_of_untagged untagged]
      exact .inl hlast
  | @tag lead behind tag first written rest ih =>
      rw [cuts_iff.mp (.tag first written (cuts_cut behind))]
      apply ih
      cases behind with
      | nil =>
          obtain ⟨middle, htext⟩ := written.exists_text_eq
          simp [htext] at hlast
      | cons c behind =>
          have hbehind : c :: behind ≠ [] := List.cons_ne_nil _ _
          rwa [← List.append_assoc, List.getLast?_append_of_ne_nil _ hbehind] at hlast

theorem tidyFrom_append (hlead : EndsWithLine beginsLine lead []) (second : Cut) :
    tidyFrom beginsLine (lead ++ second.lead) second.tags =
      ⟨lead ++ (tidyFrom true second.lead second.tags).lead,
        (tidyFrom true second.lead second.tags).tags⟩ := by
  obtain ⟨text, tags⟩ := second
  have hborders : Borders true lead := hlead.symm.imp_left And.left
  have hlast := lastLine_append_of_borders hborders text
  have hdrop : dropLastLine (lead ++ text) = lead ++ dropLastLine text := by
    have hwhole := dropLastLine_append_lastLine (lead ++ text)
    rw [hlast] at hwhole
    apply List.append_cancel_right
    rw [hwhole, List.append_assoc, dropLastLine_append_lastLine]
  have hblank : blankBefore beginsLine (lead ++ text) = blankBefore true text := by
    unfold blankBefore
    rw [hlast]
    rcases hlead with hfeed | ⟨rfl, rfl⟩
    · simp [List.mem_of_getLast? hfeed]
    · rfl
  cases tags with
  | nil => rfl
  | cons entry tags =>
      simp only [tidyFrom, hblank, hdrop]
      split <;> rfl

private theorem rest_joined (htags : EndsWithLine false behind tags) (second : Cut) :
    blankBehind (joined behind tags second).tags.isEmpty (joined behind tags second).lead =
        blankBehind tags.isEmpty behind ∧
      joined (dropFirstLine behind) tags second =
        ⟨dropFirstLine (joined behind tags second).lead, (joined behind tags second).tags⟩ ∧
      EndsWithLine true (dropFirstLine behind) tags := by
  cases tags with
  | cons entry tags => exact ⟨rfl, rfl, htags⟩
  | nil =>
      -- The text ends with a line feed, so that its first line ends within it whatever follows.
      have hlast : behind.getLast? = some '\n' := htags.resolve_right fun hnil => nomatch hnil.2
      have hbroken : '\n' ∈ behind := List.mem_of_getLast? hlast
      obtain ⟨hline, hfeed⟩ := firstLine_append_of_mem hbroken second.lead
      have hwhole := firstLine_append_dropFirstLine behind
      refine ⟨?_, ?_, ?_⟩
      · simp [joined, blankBehind, hline, hbroken]
      · have hjoined := firstLine_append_dropFirstLine (behind ++ second.lead)
        rw [hline, hfeed, ← List.append_assoc] at hjoined
        rw [← List.append_assoc] at hwhole
        simp only [joined]
        congr 1
        apply List.append_cancel_left
        rw [hjoined, ← List.append_assoc, hwhole]
      · by_cases hdropped : dropFirstLine behind = []
        · exact .inr ⟨hdropped, rfl⟩
        · rw [← hwhole, ← List.append_assoc, List.getLast?_append_of_ne_nil _ hdropped] at hlast
          exact .inl hlast

theorem tidyFrom_joined (htags : EndsWithLine beginsLine lead tags) (second : Cut) :
    tidyFrom beginsLine (joined lead tags second).lead (joined lead tags second).tags =
      joined (tidyFrom beginsLine lead tags).lead (tidyFrom beginsLine lead tags).tags
        (tidyFrom true second.lead second.tags) := by
  induction tags generalizing beginsLine lead with
  | nil => exact tidyFrom_append htags second
  | cons entry tags ih =>
      obtain ⟨tag, behind⟩ := entry
      obtain ⟨hblank, hjoined, hrest⟩ := rest_joined htags second
      have halone := ih hrest
      have hbeside := ih htags
      rw [hjoined] at halone
      simp only [joined, tidyFrom, hblank]
      split
      · simp only [joined, halone]
      · simp only [joined, hbeside]

end Tidy

section Nest

variable {frames : List Frame} {nodes result : List Node}

theorem nest_cons (frames : List Frame) (nodes : List Node) (tag : Tag) :
    (∃ error, ∀ behind rest, nest frames nodes ((tag, behind) :: rest) = .error error) ∨
      ∃ frames' nodes', ∀ behind rest,
        nest frames nodes ((tag, behind) :: rest) =
          nest frames' (nodes' ++ textNodes behind) rest := by
  cases hkind : tag.kind with
  | value name escaped =>
      refine .inr ⟨frames, nodes ++ [.value name escaped], fun behind rest => ?_⟩
      rw [nest, hkind, List.append_assoc, List.singleton_append]
  | note => exact .inr ⟨frames, nodes, fun behind rest => by rw [nest, hkind]⟩
  | inclusion => exact .inr ⟨frames, nodes, fun behind rest => by rw [nest, hkind]⟩
  | enter name inverted =>
      refine .inr ⟨⟨name, inverted, nodes⟩ :: frames, [], fun behind rest => ?_⟩
      rw [nest, hkind, List.nil_append]
  | leave name =>
      cases frames with
      | nil => exact .inl ⟨_, fun behind rest => by rw [nest, hkind]⟩
      | cons frame frames =>
          by_cases hname : frame.name = name
          · refine .inr ⟨frames, frame.before ++ [.block frame.name frame.inverted nodes],
              fun behind rest => ?_⟩
            rw [nest, hkind, List.append_assoc, List.singleton_append]
            simp only [if_pos hname]
          · refine .inl ⟨.unclosedSection frame.name, fun behind rest => ?_⟩
            rw [nest, hkind]
            simp only [if_neg hname]
  | delimiters => exact .inl ⟨_, fun behind rest => by rw [nest, hkind]⟩

theorem nest_joined (hnest : nest frames (nodes ++ textNodes lead) tags = .ok result) :
    ∃ ahead last, result = ahead ++ textNodes last ∧ ∀ second,
      nest frames (nodes ++ textNodes (joined lead tags second).lead)
          (joined lead tags second).tags =
        nest [] (ahead ++ textNodes (last ++ second.lead)) second.tags := by
  induction tags generalizing frames nodes lead with
  | nil =>
      cases frames with
      | nil =>
          cases hnest
          exact ⟨nodes, lead, rfl, fun second => rfl⟩
      | cons frame frames => cases hnest
  | cons entry tags ih =>
      obtain ⟨tag, behind⟩ := entry
      rcases nest_cons frames (nodes ++ textNodes lead) tag with ⟨error, herror⟩ |
        ⟨frames', nodes', hstep⟩
      · rw [herror] at hnest
        cases hnest
      · rw [hstep] at hnest
        obtain ⟨ahead, last, rfl, hall⟩ := ih hnest
        refine ⟨ahead, last, rfl, fun second => ?_⟩
        simp only [joined, hstep, hall]

theorem nest_eq_map (nodes : List Node) (tags : List (Tag × Text)) :
    nest [] nodes tags = (nest [] [] tags).map (nodes ++ ·) := by
  rcases (Opens.all_closed .nil).nested_or_blames (tags.map Prod.fst) with
    hnested | ⟨error, hblames⟩
  · obtain ⟨added, hadded⟩ := Nested.exists_nest_eq_ok hnested
    rw [hadded, hadded]
    rfl
  · rw [hblames.nest_eq, hblames.nest_eq]
    rfl

end Nest

section Render

variable {autoescape : Bool} {data : Data} {stack : List Json} {out : Text}

theorem evaluated_append (before after : List Node) :
    evaluated autoescape stack (before ++ after) =
      evaluated autoescape stack before ++ evaluated autoescape stack after := by
  induction before with
  | nil => rfl
  | cons node before ih =>
      unfold evaluated at ih ⊢
      rw [List.cons_append, pieces, pieces, List.flatMap_append, ih, List.flatMap_append,
        List.append_assoc]

theorem render_eq (autoescape : Bool) (template : Text) (data : Data) :
    render autoescape template data =
      (parse template).map (evaluated autoescape [.object data]) := by
  cases hparse : parse template with
  | ok nodes => exact render_of_parse hparse
  | error error =>
      unfold render
      split
      · next hmark =>
          rw [parse_of_not_holds (by simpa using hmark)] at hparse
          cases hparse
      · rw [(bound_eq_error_iff data).mpr hparse]
        rfl

/-- The text behind the last tag of the first template is one node with the text that the second
begins with, and all other nodes are those of one of the two. -/
theorem parse_append {nodes : List Node} (hlast : first.getLast? = some '\n')
    (hclosed : Closed first) (hparse : parse first = .ok nodes) (second : Text) :
    ∃ ahead last, nodes = ahead ++ textNodes last ∧
      parse (first ++ second) =
        nest [] (ahead ++ textNodes (last ++ (cut second).tidy.lead)) (cut second).tidy.tags := by
  have hbrace : first.getLast? ≠ some '{' := by
    rw [hlast]
    decide
  have htidy : (cut (first ++ second)).tidy =
      joined (cut first).tidy.lead (cut first).tidy.tags (cut second).tidy := by
    rw [cut_append_of_closed hclosed hbrace]
    exact tidyFrom_joined (endsWithLine_cut hclosed hlast true) (cut second)
  have hnest : nest [] ([] ++ textNodes (cut first).tidy.lead) (cut first).tidy.tags = .ok nodes :=
    hparse
  obtain ⟨ahead, last, hnodes, hjoined⟩ := nest_joined hnest
  refine ⟨ahead, last, hnodes, ?_⟩
  rw [parse, Cut.nodes, htidy]
  exact hjoined (cut second).tidy

/-- A template that ends with a line and leaves no tag open is rendered as if nothing followed it,
and what follows as if nothing came before. -/
theorem render_append (autoescape : Bool) (data : Data)
    (hline : first = [] ∨ first.getLast? = some '\n') (hclosed : Closed first)
    (hrender : render autoescape first data = .ok out) (second : Text) :
    render autoescape (first ++ second) data =
      (render autoescape second data).map (out ++ ·) := by
  rcases hline with rfl | hlast
  · cases hrender
    cases hsecond : render autoescape second data <;> rw [List.nil_append, hsecond] <;> rfl
  · rw [render_eq] at hrender ⊢
    rw [render_eq]
    cases hparse : parse first with
    | error error =>
        rw [hparse] at hrender
        cases hrender
    | ok nodes =>
        rw [hparse] at hrender
        cases hrender
        obtain ⟨ahead, last, rfl, hwhole⟩ := parse_append hlast hclosed hparse second
        rw [hwhole, parse, Cut.nodes, nest_eq_map, nest_eq_map (textNodes _)]
        cases nest [] [] (cut second).tidy.tags with
        | error error => rfl
        | ok added =>
            simp only [Except.map, evaluated_append, evaluated_textNodes, List.append_assoc]

theorem render_append_of_list :
    render true ("{{#l}}\n{{.}};\n{{/l}}\n".toList ++ " {{! n}}\n{{{l}}}".toList)
        [(['l'], .array [.string ['<'], .string ['a']])] = .ok "&lt;;\na;\n<,a".toList := by
  have hfirst : parse "{{#l}}\n{{.}};\n{{/l}}\n".toList =
      .ok [.block ['l'] false [.value ['.'] true, .text [';', '\n']]] := rfl
  have hsecond : parse " {{! n}}\n{{{l}}}".toList = .ok [.value ['l'] false] := rfl
  rw [render_append true _ (.inr rfl) (closed_iff.mpr (by decide)) (render_of_parse hfirst),
    render_of_parse hsecond]
  rfl

end Render

end Transclusion.Template
