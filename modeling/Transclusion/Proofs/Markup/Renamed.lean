import Transclusion.Proofs.Markup.Word
import Transclusion.Proofs.Renaming

namespace Transclusion

/-! The directives of a renamed text are those of the text, each renamed on its own. -/

open Rename

variable {rename : Rename} {text stretch after : Text} {c : Char}

namespace Directive

theorem stops_of_isAsciiBlank (hblank : Text.isAsciiBlank c = true) : Stops c := by
  simp only [Text.isAsciiBlank, Bool.or_eq_true, beq_iff_eq] at hblank
  rcases hblank with (((rfl | rfl) | rfl) | rfl) | rfl
  all_goals exact ⟨by decide, by decide⟩

theorem isBodyChar_of_isNameChar (hname : isNameChar c = true) : isBodyChar c = true := by
  simp only [isNameChar, Bool.or_eq_true, beq_iff_eq] at hname
  rcases hname with (hname | rfl) | rfl
  · simp [isBodyChar, hname]
  · rfl
  · rfl

namespace Word

variable {word : Word}

def front (word : Word) : Text :=
  (if word.wideOpen then ['{', '{', '{'] else ['{', '{']) ++ word.blanks ++ ['>']

def back (word : Word) : Text :=
  if word.wideClose then ['}', '}'] else ['}']

theorem text_append_eq (word : Word) (after : Text) :
    word.text ++ after = word.front ++ (word.body ++ '}' :: (word.back ++ after)) := by
  cases hclose : word.wideClose <;> simp [text, front, back, hclose]

theorem stops_front (hvalid : word.Valid) (hmem : c ∈ word.front) : Stops c := by
  rcases List.mem_append.mp hmem with hmem | hmem
  · rcases List.mem_append.mp hmem with hmem | hmem
    · have hbrace : c = '{' := by
        cases hopen : word.wideOpen <;> simpa [hopen] using hmem
      exact hbrace ▸ ⟨by decide, by decide⟩
    · exact stops_of_isAsciiBlank (hvalid.blanks c hmem)
  · exact List.mem_singleton.mp hmem ▸ ⟨by decide, by decide⟩

theorem stops_brace : Stops '}' := ⟨by decide, by decide⟩

theorem stops_back (hmem : c ∈ word.back) : Stops c := by
  have hbrace : c = '}' := by
    cases hclose : word.wideClose <;> simpa [back, hclose] using hmem
  exact hbrace ▸ stops_brace

theorem notMem_body (hvalid : word.Valid) : '}' ∉ word.body := fun hmem =>
  absurd (hvalid.body '}' hmem) (by decide)

def renamed (rename : Rename) (word : Word) : Word :=
  { word with body := rename.apply word.body }

theorem apply_text_append (hnamed : rename.Named) (hvalid : word.Valid) (after : Text) :
    rename.apply (word.text ++ after) = (word.renamed rename).text ++ rename.apply after := by
  rw [text_append_eq, text_append_eq, apply_stops_append hnamed fun _ => stops_front hvalid,
    apply_append_stop hnamed stops_brace, apply_stops_append hnamed fun _ => stops_back]
  rfl

theorem apply_text (hnamed : rename.Named) (hvalid : word.Valid) :
    rename.apply word.text = (word.renamed rename).text := by
  have happly := apply_text_append hnamed hvalid []
  rwa [List.append_nil, apply_nil, List.append_nil] at happly

theorem valid_renamed (hnamed : rename.Named) (hplain : Plain word.body) (hvalid : word.Valid) :
    (word.renamed rename).Valid where
  blanks := hvalid.blanks
  body := fun c hmem => by
    rcases mem_of_mem_apply hnamed hplain hmem with hname | hmem
    · exact isBodyChar_of_isNameChar hname
    · exact hvalid.body c hmem

theorem read?_apply (hnamed : rename.Named) (hplain : Plain text)
    (hread : read? text = some (word, after)) :
    read? (rename.apply text) = some (word.renamed rename, rename.apply after) := by
  obtain ⟨hvalid, rfl, hfull⟩ := read?_eq_some_iff.mp hread
  have hbody : word.body ⊆ word.text ++ after := fun c hmem => by
    rw [text_append_eq]
    exact List.mem_append_right _ (List.mem_append_left _ hmem)
  rw [read?_eq_some_iff]
  refine ⟨valid_renamed hnamed (hplain.of_subset hbody) hvalid,
    apply_text_append hnamed hvalid after, fun hwide hhead => ?_⟩
  obtain ⟨rest, hrest⟩ := List.head?_eq_some_iff.mp hhead
  have hbehind : rename.apply after = [] ++ '}' :: rest := hrest
  obtain ⟨ahead, behind, rfl, hahead, -⟩ := exists_of_apply_eq hnamed
    (hplain.of_subset (List.subset_append_right _ _)) stops_brace List.not_mem_nil hbehind
  obtain rfl := (apply_eq_nil_iff hnamed).mp hahead
  exact hfull hwide rfl

theorem exists_read?_of_apply (hnamed : rename.Named) (hplain : Plain text)
    (hread : read? (rename.apply text) = some (word, after)) :
    ∃ found, read? text = some found := by
  obtain ⟨hvalid, happly, -⟩ := read?_eq_some_iff.mp hread
  rw [text_append_eq] at happly
  obtain ⟨inner, rfl, hinner⟩ :=
    exists_of_apply_eq_stops hnamed hplain (fun _ => stops_front hvalid) happly
  have hplain := hplain.of_subset (List.subset_append_right word.front inner)
  obtain ⟨body, closing, rfl, hbody, hclosing⟩ :=
    exists_of_apply_eq hnamed hplain stops_brace (notMem_body hvalid) hinner
  have hplainBody := hplain.of_subset (List.subset_append_left body _)
  have hplainClosing : Plain closing := hplain.of_subset fun c hmem =>
    List.mem_append_right _ (List.mem_cons_of_mem _ hmem)
  obtain ⟨behind, rfl, -⟩ :=
    exists_of_apply_eq_stops hnamed hplainClosing (fun _ => stops_back) hclosing
  let original : Word := { word with body }
  have horiginal : original.Valid := by
    refine ⟨hvalid.blanks, fun c hmem => ?_⟩
    rcases mem_apply_of_mem hnamed hplainBody hmem with hname | hmem
    · exact isBodyChar_of_isNameChar hname
    · exact hvalid.body c (hbody ▸ hmem)
  have htext : word.front ++ (body ++ '}' :: (word.back ++ behind)) = original.text ++ behind :=
    (text_append_eq original behind).symm
  rw [htext]
  exact exists_read?_text_append horiginal behind

end Word

end Directive

namespace Markup

open Directive

theorem read?_eq_none_of_ne (hne : c ≠ '{') (rest : Text) : Word.read? (c :: rest) = none := by
  have hopen : Word.openBraces? (c :: rest) = none := by
    unfold Word.openBraces?
    split <;> simp_all
  unfold Word.read?
  rw [hopen]

theorem directives_append_of_notMem (hstretch : '{' ∉ stretch) (text : Text) :
    directives (stretch ++ text) = directives text := by
  induction stretch with
  | nil => rfl
  | cons c stretch ih =>
      have hne : c ≠ '{' := fun heq => hstretch (heq ▸ List.mem_cons_self)
      rw [List.cons_append, directives_of_read?_none (read?_eq_none_of_ne hne _),
        ih fun hmem => hstretch (List.mem_cons_of_mem _ hmem)]

theorem directives_of_notMem (hstretch : '{' ∉ stretch) : directives stretch = [] := by
  have happend := directives_append_of_notMem hstretch []
  rwa [List.append_nil] at happend

theorem brace_induction {motive : Text → Prop} (none : ∀ text, '{' ∉ text → motive text)
    (brace : ∀ stretch behind, '{' ∉ stretch →
      (∀ text, text.length ≤ behind.length → motive text) → motive (stretch ++ '{' :: behind))
    (text : Text) : motive text := by
  induction hlength : text.length using Nat.strongRecOn generalizing text with
  | _ length ih =>
      by_cases hmem : '{' ∈ text
      · obtain ⟨stretch, behind, rfl, hstretch⟩ := List.eq_append_cons_of_mem hmem
        refine brace stretch behind hstretch fun shorter hle => ih shorter.length ?_ shorter rfl
        rw [List.length_append, List.length_cons] at hlength
        omega
      · exact none text hmem

theorem stops_brace : Stops '{' := ⟨by decide, by decide⟩

theorem directives_apply_brace (hnamed : rename.Named) (hplain : Plain ('{' :: text))
    (hshorter : ∀ part : Text, part.length ≤ text.length → Plain part →
      directives (rename.apply part) = (directives part).map rename.apply) :
    directives (rename.apply ('{' :: text)) = (directives ('{' :: text)).map rename.apply := by
  cases hread : Word.read? ('{' :: text) with
  | some found =>
      obtain ⟨word, after⟩ := found
      obtain ⟨hvalid, htext, -⟩ := Word.read?_eq_some_iff.mp hread
      have hlength : after.length ≤ text.length := by
        have hsum := congrArg List.length htext
        rw [List.length_cons, List.length_append] at hsum
        have := word.length_text_pos
        omega
      have hafter : Plain after := hplain.of_subset (htext ▸ List.subset_append_right _ _)
      rw [directives_of_read? (Word.read?_apply hnamed hplain hread), directives_of_read? hread,
        hshorter after hlength hafter, List.map_cons, Word.apply_text hnamed hvalid]
  | none =>
      have hnone : Word.read? (rename.apply ('{' :: text)) = none := by
        rw [Option.eq_none_iff_forall_not_mem]
        intro found hfound
        obtain ⟨original, horiginal⟩ := Word.exists_read?_of_apply hnamed hplain hfound
        cases hread.symm.trans horiginal
      have hbehind := hshorter text (Nat.le_refl _) (hplain.of_subset (List.subset_cons_self _ _))
      rw [apply_cons_stop hnamed stops_brace] at hnone ⊢
      rw [directives_of_read?_none hnone, directives_of_read?_none hread, hbehind]

/-- Renaming makes no directive and unmakes none, and renames each as it would on its own. -/
theorem directives_apply (hnamed : rename.Named) (hplain : Plain text) :
    directives (rename.apply text) = (directives text).map rename.apply := by
  induction text using brace_induction with
  | none text htext =>
      have happlied : '{' ∉ rename.apply text := fun hmem =>
        htext ((stops_brace.mem_apply_iff hnamed hplain).mp hmem)
      rw [directives_of_notMem htext, directives_of_notMem happlied]
      rfl
  | brace stretch behind hstretch ih =>
      have hfront : Plain stretch := hplain.of_subset (List.subset_append_left _ _)
      have hbrace : Plain ('{' :: behind) := hplain.of_subset (List.subset_append_right _ _)
      have happlied : '{' ∉ rename.apply stretch := fun hmem =>
        hstretch ((stops_brace.mem_apply_iff hnamed hfront).mp hmem)
      rw [apply_append_stop hnamed stops_brace, directives_append_of_notMem hstretch,
        directives_append_of_notMem happlied, ← apply_cons_stop hnamed stops_brace]
      exact directives_apply_brace hnamed hbrace ih

/-- A long s is no body character, but the name that stands for it is one. -/
example : directives "\x7b\x7b> \u017f\x7d\x7d".toList = [] ∧
    directives (Rename.apply ⟨['s'], ['t']⟩ "\x7b\x7b> \u017f\x7d\x7d".toList) =
      ["{{> t}}".toList] := by
  decide +kernel

theorem directives_apply_of_marked :
    directives (Rename.apply ⟨"basket".toList, "bag".toList⟩
        "\x7bbasket{{> a/Basket|baskets}} {{basket> x}} {{{>-basket|BASKET_mapper}}}".toList) =
      ["{{> a/bag|baskets}}".toList, "{{{>-bag|bag_mapper}}}".toList] := by
  have hnamed : Named ⟨"basket".toList, "bag".toList⟩ :=
    ⟨by decide, by decide, List.all_eq_true.mp (by decide), List.all_eq_true.mp (by decide)⟩
  have hplain : Plain
      "\x7bbasket{{> a/Basket|baskets}} {{basket> x}} {{{>-basket|BASKET_mapper}}}".toList :=
    ⟨by decide, by decide⟩
  rw [directives_apply hnamed hplain]
  decide +kernel

end Markup

end Transclusion
