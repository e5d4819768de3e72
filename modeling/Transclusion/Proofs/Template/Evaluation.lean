import Transclusion.Proofs.Template.Cutting
import Transclusion.Proofs.Template.Filling
import Transclusion.Proofs.Template.Naming

namespace Transclusion.Template

/-! Templates carried out directly, without slots, and what rendering has to do with it. -/

variable {autoescape : Bool} {stack : List Json} {nodes rest children : List Node}
  {name text out : Text} {value : Json} {escaped inverted : Bool}

def printed (autoescape escaped : Bool) (value : Json) : Text :=
  if autoescape && escaped then escape (shown value) else shown value

mutual

/-- What nodes come to in a stack of contexts. -/
inductive Evaluates (autoescape : Bool) : List Json → List Node → Text → Prop where
  | nil {stack : List Json} : Evaluates autoescape stack [] []
  | text {stack : List Json} {rest : List Node} {out : Text} (text : Text)
      (behind : Evaluates autoescape stack rest out) :
      Evaluates autoescape stack (.text text :: rest) (text ++ out)
  | value {stack : List Json} {rest : List Node} {out name : Text} {value : Json} {escaped : Bool}
      (names : Names stack name value) (behind : Evaluates autoescape stack rest out) :
      Evaluates autoescape stack (.value name escaped :: rest)
        (printed autoescape escaped value ++ out)
  | missing {stack : List Json} {rest : List Node} {out name : Text} {escaped : Bool}
      (unnamed : ∀ value, ¬ Names stack name value) (behind : Evaluates autoescape stack rest out) :
      Evaluates autoescape stack (.value name escaped :: rest) out
  | items {stack items : List Json} {children rest : List Node} {inside out name : Text}
      (names : Names stack name (.array items))
      (each : EvaluatesEach autoescape stack children items inside)
      (behind : Evaluates autoescape stack rest out) :
      Evaluates autoescape stack (.block name false children :: rest) (inside ++ out)
  | single {stack : List Json} {children rest : List Node} {inside out name : Text} {value : Json}
      (names : Names stack name value) (unlisted : ∀ items, value ≠ .array items)
      (truthy : ¬ Falsy value) (inner : Evaluates autoescape (value :: stack) children inside)
      (behind : Evaluates autoescape stack rest out) :
      Evaluates autoescape stack (.block name false children :: rest) (inside ++ out)
  | hidden {stack : List Json} {children rest : List Node} {out name : Text}
      (falsy : ∀ value, Names stack name value → Falsy value)
      (behind : Evaluates autoescape stack rest out) :
      Evaluates autoescape stack (.block name false children :: rest) out
  | inverted {stack : List Json} {children rest : List Node} {inside out name : Text}
      (falsy : ∀ value, Names stack name value → Falsy value)
      (inner : Evaluates autoescape stack children inside)
      (behind : Evaluates autoescape stack rest out) :
      Evaluates autoescape stack (.block name true children :: rest) (inside ++ out)
  | passed {stack : List Json} {children rest : List Node} {out name : Text} {value : Json}
      (names : Names stack name value) (truthy : ¬ Falsy value)
      (behind : Evaluates autoescape stack rest out) :
      Evaluates autoescape stack (.block name true children :: rest) out

inductive EvaluatesEach (autoescape : Bool) :
    List Json → List Node → List Json → Text → Prop where
  | nil {stack : List Json} {children : List Node} : EvaluatesEach autoescape stack children [] []
  | cons {stack items : List Json} {children : List Node} {item : Json} {inside more : Text}
      (inner : Evaluates autoescape (item :: stack) children inside)
      (others : EvaluatesEach autoescape stack children items more) :
      EvaluatesEach autoescape stack children (item :: items) (inside ++ more)

end

theorem nodes_induction {motive : List Node → Prop} (nil : motive [])
    (text : ∀ text rest, motive rest → motive (.text text :: rest))
    (value : ∀ name escaped rest, motive rest → motive (.value name escaped :: rest))
    (block : ∀ name inverted children rest, motive children → motive rest →
      motive (.block name inverted children :: rest)) (nodes : List Node) : motive nodes :=
  @Node.rec_1 (fun node => ∀ rest, motive rest → motive (node :: rest)) motive
    text value (fun name inverted children hchildren rest => block name inverted children rest hchildren)
    nil (fun _ rest hnode hrest => hnode rest hrest) nodes

def evaluated (autoescape : Bool) (stack : List Json) (nodes : List Node) : Text :=
  (pieces stack nodes).flatMap (Piece.filled autoescape)

@[simp] theorem evaluated_nil : evaluated autoescape stack [] = [] := rfl

@[simp] theorem evaluated_text :
    evaluated autoescape stack (.text text :: rest) = text ++ evaluated autoescape stack rest := by
  have htext : (textPieces text).flatMap (Piece.filled autoescape) = text := by
    unfold textPieces
    split <;> simp [Piece.filled]
  rw [evaluated, pieces, List.flatMap_append, Node.pieces, htext]
  rfl

private theorem filled_valuePieces (text : Text) :
    (valuePieces text escaped).flatMap (Piece.filled autoescape) =
      if autoescape && escaped then escape text else text := by
  unfold valuePieces
  split
  · next hempty =>
      rw [List.isEmpty_iff.mp hempty]
      cases autoescape <;> cases escaped <;> rfl
  · rw [List.flatMap_cons, List.flatMap_nil, List.append_nil]
    rfl

theorem evaluated_value (hlookup : lookup? stack name = some value) :
    evaluated autoescape stack (.value name escaped :: rest) =
      printed autoescape escaped value ++ evaluated autoescape stack rest := by
  rw [evaluated, pieces, List.flatMap_append, Node.pieces, filled_valuePieces, shownAt, hlookup]
  rfl

theorem evaluated_missing (hlookup : lookup? stack name = none) :
    evaluated autoescape stack (.value name escaped :: rest) =
      evaluated autoescape stack rest := by
  rw [evaluated, pieces, List.flatMap_append, Node.pieces, shownAt, hlookup]
  rfl

theorem evaluated_items {items : List Json} (hlookup : lookup? stack name = some (.array items)) :
    evaluated autoescape stack (.block name false children :: rest) =
      items.flatMap (fun item => evaluated autoescape (item :: stack) children) ++
        evaluated autoescape stack rest := by
  rw [evaluated, pieces, List.flatMap_append, Node.pieces, hlookup]
  simp only [Bool.false_eq_true, ↓reduceIte, List.flatMap_assoc]
  rfl

theorem evaluated_single (hlookup : lookup? stack name = some value)
    (hunlisted : ∀ items, value ≠ .array items) (htruthy : isTruthy (some value) = true) :
    evaluated autoescape stack (.block name false children :: rest) =
      evaluated autoescape (value :: stack) children ++ evaluated autoescape stack rest := by
  rw [evaluated, pieces, List.flatMap_append, Node.pieces, hlookup]
  cases value with
  | array items => exact absurd rfl (hunlisted items)
  | null => cases htruthy
  | bool value => simp only [htruthy]; rfl
  | number value => simp only [htruthy]; rfl
  | string text => simp only [htruthy]; rfl
  | object members => simp only [htruthy]; rfl

theorem evaluated_hidden (hfalsy : isTruthy (lookup? stack name) = false) :
    evaluated autoescape stack (.block name false children :: rest) =
      evaluated autoescape stack rest := by
  rw [evaluated, pieces, List.flatMap_append, Node.pieces]
  cases hlookup : lookup? stack name with
  | none => rfl
  | some value =>
      rw [hlookup] at hfalsy
      cases value with
      | array items =>
          cases items with
          | nil => rfl
          | cons item items => cases hfalsy
      | null => rfl
      | bool value => simp only [hfalsy]; rfl
      | number value => simp only [hfalsy]; rfl
      | string text => simp only [hfalsy]; rfl
      | object members => cases hfalsy

theorem evaluated_inverted (hfalsy : isTruthy (lookup? stack name) = false) :
    evaluated autoescape stack (.block name true children :: rest) =
      evaluated autoescape stack children ++ evaluated autoescape stack rest := by
  rw [evaluated, pieces, List.flatMap_append, Node.pieces]
  simp only [↓reduceIte, hfalsy, Bool.false_eq_true]
  rfl

theorem evaluated_passed (htruthy : isTruthy (lookup? stack name) = true) :
    evaluated autoescape stack (.block name true children :: rest) =
      evaluated autoescape stack rest := by
  rw [evaluated, pieces, List.flatMap_append, Node.pieces]
  simp only [↓reduceIte, htruthy]
  rfl

theorem evaluatesEach_iff {items : List Json}
    (hchildren : ∀ stack out, Evaluates autoescape stack children out ↔
      out = evaluated autoescape stack children) :
    EvaluatesEach autoescape stack children items out ↔
      out = items.flatMap fun item => evaluated autoescape (item :: stack) children := by
  induction items generalizing out with
  | nil =>
      constructor
      · intro heach
        cases heach
        rfl
      · rintro rfl
        exact .nil
  | cons item items ih =>
      rw [List.flatMap_cons]
      constructor
      · intro heach
        cases heach with
        | cons inner others => rw [(hchildren _ _).mp inner, ih.mp others]
      · rintro rfl
        exact .cons ((hchildren _ _).mpr rfl) (ih.mpr rfl)

theorem evaluates_iff :
    Evaluates autoescape stack nodes out ↔ out = evaluated autoescape stack nodes := by
  induction nodes using nodes_induction generalizing stack out with
  | nil =>
      constructor
      · intro hevaluates
        cases hevaluates
        rfl
      · rintro rfl
        exact .nil
  | text text rest ih =>
      rw [evaluated_text]
      constructor
      · intro hevaluates
        cases hevaluates with
        | text _ behind => rw [ih.mp behind]
      · rintro rfl
        exact .text text (ih.mpr rfl)
  | value name escaped rest ih =>
      constructor
      · intro hevaluates
        cases hevaluates with
        | value names behind =>
            rw [evaluated_value (lookup?_eq_some_iff.mpr names), ih.mp behind]
        | missing unnamed behind =>
            rw [evaluated_missing (lookup?_eq_none_iff.mpr unnamed), ih.mp behind]
      · rintro rfl
        cases hlookup : lookup? stack name with
        | none =>
            rw [evaluated_missing hlookup]
            exact .missing (lookup?_eq_none_iff.mp hlookup) (ih.mpr rfl)
        | some value =>
            rw [evaluated_value hlookup]
            exact .value (lookup?_eq_some_iff.mp hlookup) (ih.mpr rfl)
  | block name inverted children rest ihChildren ih =>
      constructor
      · intro hevaluates
        cases hevaluates with
        | items names each behind =>
            have heach := (evaluatesEach_iff fun _ _ => ihChildren).mp each
            rw [evaluated_items (lookup?_eq_some_iff.mpr names), heach, ih.mp behind]
        | single names unlisted truthy inner behind =>
            have hlookup := lookup?_eq_some_iff.mpr names
            rw [← isTruthy_eq_false_iff, Bool.not_eq_false] at truthy
            rw [evaluated_single hlookup unlisted truthy, ihChildren.mp inner, ih.mp behind]
        | hidden falsy behind =>
            rw [evaluated_hidden (isTruthy_lookup?_eq_false_iff.mpr falsy), ih.mp behind]
        | inverted falsy inner behind =>
            rw [evaluated_inverted (isTruthy_lookup?_eq_false_iff.mpr falsy), ihChildren.mp inner,
              ih.mp behind]
        | passed names truthy behind =>
            rw [← isTruthy_eq_false_iff, Bool.not_eq_false, ← lookup?_eq_some_iff.mpr names]
              at truthy
            rw [evaluated_passed truthy, ih.mp behind]
      · rintro rfl
        cases hshown : isTruthy (lookup? stack name) with
        | false =>
            have hfalsy := isTruthy_lookup?_eq_false_iff.mp hshown
            cases inverted with
            | false =>
                rw [evaluated_hidden hshown]
                exact .hidden hfalsy (ih.mpr rfl)
            | true =>
                rw [evaluated_inverted hshown]
                exact .inverted hfalsy (ihChildren.mpr rfl) (ih.mpr rfl)
        | true =>
            obtain ⟨value, hlookup⟩ : ∃ value, lookup? stack name = some value := by
              cases hlookup : lookup? stack name with
              | none => rw [hlookup] at hshown; cases hshown
              | some value => exact ⟨value, rfl⟩
            have hnames := lookup?_eq_some_iff.mp hlookup
            have htruthy : ¬ Falsy value := by
              rw [← isTruthy_eq_false_iff, ← hlookup, hshown]
              decide
            cases inverted with
            | true =>
                rw [evaluated_passed hshown]
                exact .passed hnames htruthy (ih.mpr rfl)
            | false =>
                by_cases hlisted : ∃ items, value = .array items
                · obtain ⟨items, rfl⟩ := hlisted
                  rw [evaluated_items hlookup]
                  exact .items hnames ((evaluatesEach_iff fun _ _ => ihChildren).mpr rfl)
                    (ih.mpr rfl)
                · have hunlisted := not_exists.mp hlisted
                  rw [evaluated_single hlookup hunlisted (hlookup ▸ hshown)]
                  exact .single hnames hunlisted htruthy (ihChildren.mpr rfl) (ih.mpr rfl)

/-- Text with an opening brace goes through a slot. -/
theorem notMem_of_plain_mem_pieces (nodes : List Node) (stack : List Json) {text : Text}
    (hmem : .plain text ∈ pieces stack nodes) : '{' ∉ text := by
  induction nodes using nodes_induction generalizing stack with
  | nil => cases hmem
  | text other rest ih =>
      rw [pieces, List.mem_append, Node.pieces] at hmem
      rcases hmem with hmem | hmem
      · unfold textPieces at hmem
        split at hmem
        · cases List.mem_singleton.mp hmem
        · next hbrace =>
            cases List.mem_singleton.mp hmem
            simpa using hbrace
      · exact ih stack hmem
  | value name escaped rest ih =>
      rw [pieces, List.mem_append, Node.pieces] at hmem
      rcases hmem with hmem | hmem
      · unfold valuePieces at hmem
        split at hmem
        · cases hmem
        · cases List.mem_singleton.mp hmem
      · exact ih stack hmem
  | block name inverted children rest ihChildren ih =>
      rw [pieces, List.mem_append, Node.pieces] at hmem
      rcases hmem with hmem | hmem
      · split at hmem
        · split at hmem
          · cases hmem
          · exact ihChildren stack hmem
        · split at hmem
          · obtain ⟨item, -, hitem⟩ := List.mem_flatMap.mp hmem
            exact ihChildren (item :: stack) hitem
          · split at hmem
            · exact ihChildren _ hmem
            · cases hmem
          · cases hmem
      · exact ih stack hmem

section Render

variable {template : Text} {data : Data} {segments : List Segment} {bound : Bound}

theorem cut_eq_of_untagged (huntagged : (cut template).tags = []) :
    cut template = ⟨template, []⟩ := by
  have htext := (cuts_cut template).text_eq
  generalize cut template = cut at huntagged htext
  obtain ⟨lead, tags⟩ := cut
  cases huntagged
  rw [← htext, Cut.text, List.flatMap_nil, List.append_nil]

theorem parse_of_untagged (huntagged : (cut template).tags = []) :
    parse template = .ok (textNodes template) := by
  rw [parse, cut_eq_of_untagged huntagged]
  rfl

theorem parse_of_not_holds (hmark : Text.holds tagMark template = false) :
    parse template = .ok (textNodes template) := by
  rw [← Bool.not_eq_true, Text.holds_eq_true_iff] at hmark
  apply parse_of_untagged
  rw [cut_of_untagged hmark]

theorem evaluated_textNodes (stack : List Json) (text : Text) :
    evaluated autoescape stack (textNodes text) = text := by
  unfold textNodes
  split
  · next hempty => rw [List.isEmpty_iff.mp hempty, evaluated_nil]
  · rw [evaluated_text, evaluated_nil, List.append_nil]

theorem Bound.LaidOut.source_eq (hlaid : bound.LaidOut segments) (hslots : bound.slots = []) :
    bound.source = segments.flatMap (Segment.filled autoescape bound.slots) := by
  have hnumbered := hlaid.numbered
  rw [hslots, List.length_nil, List.range_zero, List.filterMap_eq_nil_iff] at hnumbered
  rw [hlaid.source]
  refine List.flatMap_congr fun segment hmem => ?_
  cases segment with
  | plain text => rfl
  | reference ref => cases hnumbered _ hmem

theorem bound_of_parse (hparse : parse template = .ok nodes) :
    Template.bound template data = .ok (.ofPieces 0 (pieces [.object data] nodes)) := by
  rw [Template.bound, hparse]
  rfl

theorem render_of_parse (hparse : parse template = .ok nodes) :
    render autoescape template data = .ok (evaluated autoescape [.object data] nodes) := by
  unfold render
  split
  · next hmark =>
      rw [parse_of_not_holds (by simpa using hmark)] at hparse
      cases hparse
      rw [evaluated_textNodes]
  · have hlaid := laidOut_ofPieces fun _ => notMem_of_plain_mem_pieces nodes [.object data]
    have hfilled := filled_segments 0 (pieces [.object data] nodes) autoescape (rfl : [].length = 0)
    simp only [bound_of_parse hparse, bind, Except.bind]
    split
    · next hslots =>
        rw [hlaid.source_eq (List.isEmpty_iff.mp hslots)]
        exact congrArg Except.ok hfilled
    · rw [hlaid.fill_eq]
      exact congrArg Except.ok hfilled

theorem render_of_untagged (autoescape : Bool) (data : Data)
    (huntagged : (cut template).tags = []) : render autoescape template data = .ok template := by
  rw [render_of_parse (parse_of_untagged huntagged), evaluated_textNodes]

/-- The source of a bound template holds no opening brace but those of one reference to each slot.
With the slots in place of their references it is what the template comes to when it is carried out
directly, and so is the rendered template. -/
theorem render_evaluates (autoescape : Bool) (data : Data) (hparse : parse template = .ok nodes) :
    ∃ bound segments, Template.bound template data = .ok bound ∧ bound.LaidOut segments ∧
      (∀ out, Evaluates autoescape [.object data] nodes out ↔
        out = segments.flatMap (Segment.filled autoescape bound.slots)) ∧
      bound.fill autoescape = segments.flatMap (Segment.filled autoescape bound.slots) ∧
      render autoescape template data =
        .ok (segments.flatMap (Segment.filled autoescape bound.slots)) := by
  have hlaid := laidOut_ofPieces fun _ => notMem_of_plain_mem_pieces nodes [.object data]
  have hfilled := filled_segments 0 (pieces [.object data] nodes) autoescape (rfl : [].length = 0)
  rw [List.nil_append] at hfilled
  refine ⟨_, _, bound_of_parse hparse, hlaid, fun out => ?_, hlaid.fill_eq autoescape, ?_⟩
  · rw [hfilled]
    exact evaluates_iff
  · rw [hfilled]
    exact render_of_parse hparse

theorem render_of_items :
    render true "{{#l}}{{.}}\x7b {{/l}}".toList [(['l'], .array [.string ['<'], .string ['a']])] =
      .ok "&lt;\x7b a\x7b ".toList := by
  have hparse : parse "{{#l}}{{.}}\x7b {{/l}}".toList =
      .ok [.block ['l'] false [.value ['.'] true, .text ['{', ' ']]] := by rfl
  obtain ⟨bound, segments, -, -, hevaluates, -, hrender⟩ :=
    render_evaluates true [(['l'], .array [.string ['<'], .string ['a']])] hparse
  have hnames : Names [.object [(['l'], .array [.string ['<'], .string ['a']])]] ['l']
      (.array [.string ['<'], .string ['a']]) := lookup?_eq_some_iff.mp rfl
  have hitem : ∀ item outer, Evaluates true (item :: outer)
      [.value ['.'] true, .text ['{', ' ']] (printed true true item ++ (['{', ' '] ++ [])) :=
    fun item outer => .value (.innermost item outer) (.text _ .nil)
  have hdirect := Evaluates.items hnames (.cons (hitem _ _) (.cons (hitem _ _) .nil)) .nil
  rw [hrender, ← (hevaluates _).mp hdirect]
  rfl

end Render

end Transclusion.Template
