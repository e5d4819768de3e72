import Mathlib.Data.List.Forall2
import Transclusion.Proofs.Markup.Word

namespace Transclusion.Markup

/-! Putting texts in place of directives, as a relation between what is there before and after. -/

variable {image other : Text → Text → Prop} {tokens rest : List Token}
  {word new text first second : Text} {spans : List Span} {portions : List Text} {start : Nat}

/-- Every directive gives way to a text that `image` allows for it, and all else stays. -/
inductive Replaced (image : Text → Text → Prop) : List Token → Text → Prop where
  | nil : Replaced image [] []
  | char (c : Char) {rest : List Token} {text : Text} (behind : Replaced image rest text) :
      Replaced image (.char c :: rest) (c :: text)
  | directive {word new : Text} {rest : List Token} {text : Text} (allowed : image word new)
      (behind : Replaced image rest text) :
      Replaced image (.directive word :: rest) (new ++ text)

namespace Replaced

theorem single (allowed : image word new) : Replaced image [.directive word] new := by
  rw [← List.append_nil new]
  exact .directive allowed .nil

theorem mono
    (himp : ∀ word, Token.directive word ∈ tokens → ∀ new, image word new → other word new)
    (h : Replaced image tokens text) : Replaced other tokens text := by
  induction h with
  | nil => exact .nil
  | char c _ ih =>
      exact .char c (ih fun word hmem => himp word (List.mem_cons_of_mem _ hmem))
  | directive allowed _ ih =>
      refine .directive (himp _ List.mem_cons_self _ allowed) ?_
      exact ih fun word hmem => himp word (List.mem_cons_of_mem _ hmem)

theorem exists_iff :
    (∃ text, Replaced image tokens text) ↔
      ∀ word, Token.directive word ∈ tokens → ∃ new, image word new := by
  induction tokens with
  | nil => exact ⟨fun _ _ hmem => absurd hmem List.not_mem_nil, fun _ => ⟨[], .nil⟩⟩
  | cons token rest ih =>
      constructor
      · rintro ⟨text, h⟩ word hmem
        cases h with
        | char c behind =>
            exact ih.mp ⟨_, behind⟩ word (by simpa using hmem)
        | directive allowed behind =>
            rcases List.mem_cons.mp hmem with heq | hmem
            · cases heq
              exact ⟨_, allowed⟩
            · exact ih.mp ⟨_, behind⟩ word hmem
      · intro hall
        obtain ⟨text, behind⟩ := ih.mpr fun word hmem => hall word (List.mem_cons_of_mem _ hmem)
        cases token with
        | char c => exact ⟨_, .char c behind⟩
        | directive word =>
            obtain ⟨new, allowed⟩ := hall word List.mem_cons_self
            exact ⟨_, .directive allowed behind⟩

end Replaced

theorem replaceTokens_eq_ok_iff {ε : Type} {place : Text → Except ε Text} :
    replaceTokens place tokens = .ok text ↔
      Replaced (fun word new => place word = .ok new) tokens text := by
  constructor
  · intro h
    induction tokens generalizing text with
    | nil =>
        cases h
        exact .nil
    | cons token rest ih =>
        cases token with
        | char c =>
            simp only [replaceTokens] at h
            cases hrest : replaceTokens place rest with
            | error failure => simp [hrest, bind, Except.bind] at h
            | ok behind =>
                rw [hrest] at h
                cases h
                exact .char c (ih hrest)
        | directive word =>
            simp only [replaceTokens] at h
            cases hword : place word with
            | error failure => simp [hword, bind, Except.bind] at h
            | ok new =>
                cases hrest : replaceTokens place rest with
                | error failure => simp [hword, hrest, bind, Except.bind] at h
                | ok behind =>
                    rw [hword, hrest] at h
                    cases h
                    exact .directive hword (ih hrest)
  · intro h
    induction h with
    | nil => rfl
    | char c _ ih =>
        simp only [replaceTokens, ih]
        rfl
    | directive allowed _ ih =>
        simp only [replaceTokens, ih, allowed]
        rfl

theorem replace_eq_ok_iff {ε : Type} {place : Text → Except ε Text} {page : Text} :
    replace place page = .ok text ↔
      Replaced (fun word new => place word = .ok new) (Markup.tokens page) text :=
  replaceTokens_eq_ok_iff

theorem replaceTokens_eq_error {ε : Type} {place : Text → Except ε Text} {failure : ε}
    (hreplace : replaceTokens place tokens = .error failure) :
    ∃ word, Token.directive word ∈ tokens ∧ place word = .error failure := by
  induction tokens with
  | nil => cases hreplace
  | cons token rest ih =>
      have hbehind : replaceTokens place rest = .error failure →
          ∃ word, Token.directive word ∈ token :: rest ∧ place word = .error failure := by
        intro hrest
        obtain ⟨word, hmem, hplace⟩ := ih hrest
        exact ⟨word, List.mem_cons_of_mem token hmem, hplace⟩
      cases token with
      | char c =>
          rw [replaceTokens_char] at hreplace
          cases hrest : replaceTokens place rest with
          | ok behind =>
              rw [hrest] at hreplace
              cases hreplace
          | error other =>
              rw [hrest] at hreplace
              cases hreplace
              exact hbehind hrest
      | directive word =>
          simp only [replaceTokens] at hreplace
          cases hplace : place word with
          | error other =>
              rw [hplace] at hreplace
              cases hreplace
              exact ⟨word, List.mem_cons_self, hplace⟩
          | ok new =>
              cases hrest : replaceTokens place rest with
              | ok behind =>
                  rw [hplace, hrest] at hreplace
                  cases hreplace
              | error other =>
                  rw [hplace, hrest] at hreplace
                  cases hreplace
                  exact hbehind hrest

theorem replaceTokens_congr {ε : Type} {place place' : Text → Except ε Text}
    (hsame : ∀ word, Token.directive word ∈ tokens → place word = place' word) :
    replaceTokens place tokens = replaceTokens place' tokens := by
  induction tokens with
  | nil => rfl
  | cons token rest ih =>
      have hrest := ih fun word hmem => hsame word (List.mem_cons_of_mem token hmem)
      cases token with
      | char c => simp only [replaceTokens, hrest]
      | directive word => simp only [replaceTokens, hrest, hsame word List.mem_cons_self]

theorem replaced_self (hwordless : Wordless text) : Replaced image (Markup.tokens text) text := by
  induction text with
  | nil => exact .nil
  | cons c rest ih =>
      rw [tokens_of_read?_none (read?_eq_none_of_wordless hwordless)]
      exact .char c (ih (hwordless.of_part (List.suffix_cons c rest).isInfix))

/-- The bytes of the spans give way to the portions, one for each, and every byte outside of them
stays. The text begins at the byte `start`. -/
inductive Filled : Nat → List Span → List Text → Text → Text → Prop where
  | done (start : Nat) (gap : Text) : Filled start [] [] gap gap
  | span (start : Nat) (gap word portion : Text) {spans : List Span} {portions : List Text}
      {before after : Text}
      (behind : Filled (start + Text.byteSize gap + Text.byteSize word) spans portions before
        after) :
      Filled start
        (⟨word, start + Text.byteSize gap, start + Text.byteSize gap + Text.byteSize word⟩ :: spans)
        (portion :: portions) (gap ++ (word ++ before)) (gap ++ (portion ++ after))

namespace Filled

variable {before after : Text}

theorem cons_char (c : Char) (h : Filled (start + c.utf8Size) spans portions before after) :
    Filled start spans portions (c :: before) (c :: after) := by
  cases h with
  | done => exact .done start (c :: before)
  | span _ gap word portion behind =>
      have hsize : start + c.utf8Size + Text.byteSize gap = start + Text.byteSize (c :: gap) := by
        rw [Text.byteSize_cons, Nat.add_assoc]
      rw [hsize] at behind ⊢
      exact .span start (c :: gap) word portion behind

end Filled

theorem eq_of_append_eq_of_byteSize_eq {first second behind behind' : Text}
    (happend : first ++ behind = second ++ behind')
    (hsize : Text.byteSize first = Text.byteSize second) : first = second := by
  induction first generalizing second with
  | nil =>
      cases second with
      | nil => rfl
      | cons c second =>
          have := Char.utf8Size_pos c
          simp only [Text.byteSize_nil, Text.byteSize_cons] at hsize
          omega
  | cons c first ih =>
      cases second with
      | nil =>
          have := Char.utf8Size_pos c
          simp only [Text.byteSize_nil, Text.byteSize_cons] at hsize
          omega
      | cons d second =>
          obtain ⟨rfl, hbehind⟩ := List.cons.inj happend
          simp only [Text.byteSize_cons, Nat.add_left_cancel_iff] at hsize
          rw [ih hbehind hsize]

namespace Filled

variable {before : Text}

theorem unique (hfirst : Filled start spans portions before first)
    (hsecond : Filled start spans portions before second) : first = second := by
  induction hfirst generalizing second with
  | done start gap => cases hsecond; rfl
  | span start gap word portion _ ih =>
      generalize hbefore : gap ++ (word ++ _) = whole at hsecond
      generalize hsize : start + Text.byteSize gap = middle at hsecond
      generalize hstop : middle + Text.byteSize word = stop at hsecond
      cases hsecond with
      | span _ gap' _ _ behind =>
          have hgap : gap = gap' := eq_of_append_eq_of_byteSize_eq hbefore (by omega)
          subst hgap
          have hbehind := List.append_cancel_left (List.append_cancel_left hbefore)
          subst hbehind
          rw [ih behind]

end Filled

private def directivesOf (tokens : List Token) : List Text :=
  tokens.filterMap fun
    | .char _ => none
    | .directive text => some text

private theorem Replaced.exists_filled (h : Replaced image tokens text) (start : Nat) :
    ∃ portions, List.Forall₂ image (directivesOf tokens) portions ∧
      Filled start (spansFrom start tokens) portions (tokens.flatMap Token.text) text := by
  induction h generalizing start with
  | nil => exact ⟨[], .nil, .done start []⟩
  | char c _ ih =>
      obtain ⟨portions, hportions, hfilled⟩ := ih (start + c.utf8Size)
      exact ⟨portions, hportions, hfilled.cons_char c⟩
  | directive allowed _ ih =>
      obtain ⟨portions, hportions, hfilled⟩ := ih _
      exact ⟨_ :: portions, .cons allowed hportions, .span start [] _ _ hfilled⟩

private theorem exists_replaced_filled (tokens : List Token) {portions : List Text}
    (hportions : List.Forall₂ image (directivesOf tokens) portions) (start : Nat) :
    ∃ text, Replaced image tokens text ∧
      Filled start (spansFrom start tokens) portions (tokens.flatMap Token.text) text := by
  induction tokens generalizing start portions with
  | nil =>
      cases hportions
      exact ⟨[], .nil, .done start []⟩
  | cons token rest ih =>
      cases token with
      | char c =>
          obtain ⟨text, hreplaced, hfilled⟩ := ih hportions (start + c.utf8Size)
          exact ⟨c :: text, .char c hreplaced, hfilled.cons_char c⟩
      | directive word =>
          obtain ⟨new, portions, allowed, hbehind, rfl⟩ :=
            List.forall₂_cons_left_iff.mp hportions
          obtain ⟨text, hreplaced, hfilled⟩ := ih hbehind (start + Text.byteSize word)
          exact ⟨new ++ text, .directive allowed hreplaced, .span start [] word new hfilled⟩

theorem replaced_iff_filled {page : Text} :
    Replaced image (Markup.tokens page) text ↔
      ∃ portions, List.Forall₂ image (directives page) portions ∧
        Filled 0 (Markup.spans page) portions page text := by
  have hpage := flatMap_text_tokens page
  constructor
  · intro h
    obtain ⟨portions, hportions, hfilled⟩ := h.exists_filled 0
    rw [hpage] at hfilled
    exact ⟨portions, hportions, hfilled⟩
  · rintro ⟨portions, hportions, hfilled⟩
    obtain ⟨text', hreplaced, hfilled'⟩ :=
      exists_replaced_filled (Markup.tokens page) hportions 0
    rw [hpage] at hfilled'
    rw [hfilled.unique hfilled']
    exact hreplaced

end Transclusion.Markup
