import Transclusion.Proofs.Text.Search
import Transclusion.Proofs.Text.Split
import Transclusion.Template.Tag

namespace Transclusion.Template

/-! The tags that a template is cut at, told by how they are written. -/

open Text

variable {text lead inner behind : Text} {tag : Tag} {kind : TagKind}

def signs : List Char := ['!', '>', '#', '^', '/', '&', '=']

/-- What the text between two braces stands for. White space around it and around a name does not
count. -/
inductive TagKind.Means (inner : Text) : TagKind → Prop where
  | note {rest : Text} (core : Core isBlank inner ('!' :: rest)) : Means inner .note
  | inclusion {rest : Text} (core : Core isBlank inner ('>' :: rest)) : Means inner .inclusion
  | enter {rest name : Text} (core : Core isBlank inner ('#' :: rest))
      (named : Core isBlank rest name) : Means inner (.enter name false)
  | invert {rest name : Text} (core : Core isBlank inner ('^' :: rest))
      (named : Core isBlank rest name) : Means inner (.enter name true)
  | leave {rest name : Text} (core : Core isBlank inner ('/' :: rest))
      (named : Core isBlank rest name) : Means inner (.leave name)
  | raw {rest name : Text} (core : Core isBlank inner ('&' :: rest))
      (named : Core isBlank rest name) : Means inner (.value name false)
  | delimiters {rest : Text} (core : Core isBlank inner ('=' :: rest)) : Means inner .delimiters
  | value {name : Text} (core : Core isBlank inner name)
      (unsigned : ∀ c ∈ signs, name.head? ≠ some c) : Means inner (.value name true)

theorem trimBlank_eq_iff {core : Text} : trimBlank text = core ↔ Core isBlank text core :=
  trim_eq_iff

theorem classify_eq_iff : classify inner = kind ↔ kind.Means inner := by
  constructor
  · rintro rfl
    unfold classify
    split
    · next htrim => exact .note (trimBlank_eq_iff.mp htrim)
    · next htrim => exact .inclusion (trimBlank_eq_iff.mp htrim)
    · next htrim => exact .enter (trimBlank_eq_iff.mp htrim) (trimBlank_eq_iff.mp rfl)
    · next htrim => exact .invert (trimBlank_eq_iff.mp htrim) (trimBlank_eq_iff.mp rfl)
    · next htrim => exact .leave (trimBlank_eq_iff.mp htrim) (trimBlank_eq_iff.mp rfl)
    · next htrim => exact .raw (trimBlank_eq_iff.mp htrim) (trimBlank_eq_iff.mp rfl)
    · next htrim => exact .delimiters (trimBlank_eq_iff.mp htrim)
    · next hnote hinclusion henter hinvert hleave hraw hdelimiters =>
        refine .value (trimBlank_eq_iff.mp rfl) fun c hmem hhead => ?_
        obtain ⟨rest, hrest⟩ := List.head?_eq_some_iff.mp hhead
        simp only [signs, List.mem_cons, List.not_mem_nil, or_false] at hmem
        rcases hmem with rfl | rfl | rfl | rfl | rfl | rfl | rfl
        · exact hnote rest hrest
        · exact hinclusion rest hrest
        · exact henter rest hrest
        · exact hinvert rest hrest
        · exact hleave rest hrest
        · exact hraw rest hrest
        · exact hdelimiters rest hrest
  · intro hmeans
    unfold classify
    cases hmeans with
    | note core =>
        rw [trimBlank_eq_iff.mpr core]
        rfl
    | inclusion core =>
        rw [trimBlank_eq_iff.mpr core]
        rfl
    | enter core named =>
        rw [trimBlank_eq_iff.mpr core, ← trimBlank_eq_iff.mpr named]
        rfl
    | invert core named =>
        rw [trimBlank_eq_iff.mpr core, ← trimBlank_eq_iff.mpr named]
        rfl
    | leave core named =>
        rw [trimBlank_eq_iff.mpr core, ← trimBlank_eq_iff.mpr named]
        rfl
    | raw core named =>
        rw [trimBlank_eq_iff.mpr core, ← trimBlank_eq_iff.mpr named]
        rfl
    | delimiters core =>
        rw [trimBlank_eq_iff.mpr core]
        rfl
    | value core unsigned =>
        rw [trimBlank_eq_iff.mpr core]
        split <;> first | rfl | exact absurd rfl (unsigned _ (by decide))

/-- How tags are written: in two braces up to the first two that close, or in three up to the first
three that close. A third opening brace is always taken. -/
inductive Tag.Written : Tag → Prop where
  | narrow {inner : Text} {kind : TagKind} (head_ne : inner.head? ≠ some '{')
      (closed : Until ['}', '}'] inner) (means : kind.Means inner) :
      Written ⟨['{', '{'] ++ inner ++ ['}', '}'], kind⟩
  | wide {inner name : Text} (closed : Until ['}', '}', '}'] inner)
      (named : Core isBlank inner name) :
      Written ⟨['{', '{', '{'] ++ inner ++ ['}', '}', '}'], .value name false⟩

namespace Tag

private theorem read?_wide (behind : Text) :
    read? ('{' :: '{' :: '{' :: behind) =
      (breakAt? ['}', '}', '}'] behind).map fun (inner, rest) =>
        (⟨['{', '{', '{'] ++ inner ++ ['}', '}', '}'], .value (trimBlank inner) false⟩, rest) :=
  rfl

private theorem read?_narrow {behind : Text} (hhead : behind.head? ≠ some '{') :
    read? ('{' :: '{' :: behind) =
      (breakAt? ['}', '}'] behind).map fun (inner, rest) =>
        (⟨['{', '{'] ++ inner ++ ['}', '}'], classify inner⟩, rest) := by
  unfold read?
  split
  · next heq =>
      simp only [List.cons.injEq, true_and] at heq
      rw [heq] at hhead
      exact absurd rfl hhead
  · next heq =>
      simp only [List.cons.injEq, true_and] at heq
      rw [heq]
  · next hne => exact absurd rfl (hne behind)

theorem read?_eq_some_iff :
    read? text = some (tag, behind) ↔ tag.Written ∧ text = tag.text ++ behind := by
  constructor
  · intro hread
    unfold read? at hread
    split at hread
    · obtain ⟨⟨inner, rest⟩, hbreak, heq⟩ := Option.map_eq_some_iff.mp hread
      obtain ⟨hclosed, rfl⟩ := breakAt?_eq_some_iff.mp hbreak
      cases heq
      exact ⟨.wide hclosed (trimBlank_eq_iff.mp rfl), by simp⟩
    · next rest hwide =>
        obtain ⟨⟨inner, rest⟩, hbreak, heq⟩ := Option.map_eq_some_iff.mp hread
        obtain ⟨hclosed, rfl⟩ := breakAt?_eq_some_iff.mp hbreak
        cases heq
        refine ⟨.narrow (fun hhead => ?_) hclosed (classify_eq_iff.mp rfl), by simp⟩
        obtain ⟨more, rfl⟩ := List.head?_eq_some_iff.mp hhead
        exact hwide _ rfl
    · cases hread
  · rintro ⟨hwritten, rfl⟩
    cases hwritten with
    | @narrow inner _ head_ne closed means =>
        have hbreak : breakAt? ['}', '}'] (inner ++ '}' :: '}' :: behind) = some (inner, behind) :=
          breakAt?_eq_some_iff.mpr ⟨closed, rfl⟩
        have hhead : (inner ++ '}' :: '}' :: behind).head? ≠ some '{' := by
          cases inner with
          | nil => simp
          | cons c rest => exact head_ne
        simp only [List.append_assoc, List.cons_append, List.nil_append]
        rw [read?_narrow hhead, hbreak, ← classify_eq_iff.mpr means]
        rfl
    | @wide inner _ closed named =>
        have hbreak : breakAt? ['}', '}', '}'] (inner ++ '}' :: '}' :: '}' :: behind) =
            some (inner, behind) := breakAt?_eq_some_iff.mpr ⟨closed, rfl⟩
        simp only [List.append_assoc, List.cons_append, List.nil_append]
        rw [read?_wide, hbreak, ← trimBlank_eq_iff.mpr named]
        rfl

theorem Written.exists_text_eq (hwritten : tag.Written) :
    ∃ middle, tag.text = tagMark ++ (middle ++ ['}']) := by
  cases hwritten with
  | @narrow inner _ _ _ _ => exact ⟨inner ++ ['}'], by simp [tagMark]⟩
  | @wide inner _ _ _ => exact ⟨'{' :: inner ++ ['}', '}'], by simp [tagMark]⟩

end Tag

/-- How a template is cut into tags, from the left to the right, and the texts around them. What
is opened and never closed makes the rest of the template text. -/
inductive Cuts : Text → Cut → Prop where
  | plain {text : Text} (untagged : ¬ tagMark <:+: text) : Cuts text ⟨text, []⟩
  | unclosed {lead rest : Text} (first : Until tagMark lead)
      (unclosed : ∀ tag : Tag, tag.Written → ¬ tag.text <+: tagMark ++ rest) :
      Cuts (lead ++ (tagMark ++ rest)) ⟨lead ++ (tagMark ++ rest), []⟩
  | tag {lead behind : Text} {tag : Tag} {cut : Cut} (first : Until tagMark lead)
      (written : tag.Written) (rest : Cuts behind cut) :
      Cuts (lead ++ (tag.text ++ behind)) ⟨lead, (tag, cut.lead) :: cut.tags⟩

namespace Cuts

variable {cut : Cut}

theorem written (hcuts : Cuts text cut) : ∀ entry ∈ cut.tags, entry.1.Written := by
  induction hcuts with
  | plain _ => exact fun _ hmem => absurd hmem List.not_mem_nil
  | unclosed _ _ => exact fun _ hmem => absurd hmem List.not_mem_nil
  | tag _ written _ ih => exact List.forall_mem_cons.mpr ⟨written, ih⟩

theorem text_eq (hcuts : Cuts text cut) : cut.text = text := by
  induction hcuts with
  | plain _ => exact List.append_nil _
  | unclosed _ _ => exact List.append_nil _
  | tag _ _ _ ih =>
      rw [Cut.text] at ih ⊢
      rw [List.flatMap_cons, List.append_assoc, ih]

end Cuts

theorem cutFrom_drop (skip : Nat) (text : Text) : cutFrom skip text = cut (text.drop skip) := by
  induction text generalizing skip with
  | nil => simp [cutFrom, cut]
  | cons c rest ih =>
      cases skip with
      | zero => rfl
      | succ skip => exact ih skip

theorem cut_of_tag (hwritten : tag.Written) (behind : Text) :
    cut (tag.text ++ behind) = ⟨[], (tag, (cut behind).lead) :: (cut behind).tags⟩ := by
  have hread : Tag.read? (tag.text ++ behind) = some (tag, behind) :=
    Tag.read?_eq_some_iff.mpr ⟨hwritten, rfl⟩
  obtain ⟨middle, htext⟩ := hwritten.exists_text_eq
  rw [htext] at hread ⊢
  simp only [tagMark, List.cons_append, List.nil_append] at htext hread ⊢
  rw [cut, cutFrom, hread]
  simp only [cutFrom_drop, htext, List.length_cons, Nat.add_one_sub_one, List.drop_succ_cons,
    List.drop_left]
  rfl

theorem cut_of_unclosed {rest : Text}
    (hunclosed : ∀ tag : Tag, tag.Written → ¬ tag.text <+: tagMark ++ rest) :
    cut (tagMark ++ rest) = ⟨tagMark ++ rest, []⟩ := by
  have hread : Tag.read? (tagMark ++ rest) = none := by
    cases hread : Tag.read? (tagMark ++ rest) with
    | none => rfl
    | some found =>
        obtain ⟨hwritten, heq⟩ := Tag.read?_eq_some_iff.mp hread
        exact absurd ⟨found.2, heq.symm⟩ (hunclosed found.1 hwritten)
  simp only [tagMark, List.cons_append, List.nil_append] at hread ⊢
  rw [cut, cutFrom, hread]
  rfl

theorem cut_cons {c : Char} {rest : Text} (hmark : ¬ tagMark <+: c :: rest) :
    cut (c :: rest) = ⟨c :: (cut rest).lead, (cut rest).tags⟩ := by
  rw [cut, cutFrom, if_neg (by simpa [List.isPrefixOf_iff_prefix] using hmark)]
  rfl

theorem cut_append (hfirst : Until tagMark lead) (rest : Text) :
    cut (lead ++ (tagMark ++ rest)) =
      ⟨lead ++ (cut (tagMark ++ rest)).lead, (cut (tagMark ++ rest)).tags⟩ := by
  induction lead with
  | nil => rfl
  | cons c lead ih =>
      have hmark := not_isPrefix_of_until hfirst rest
      rw [List.cons_append, cut_cons hmark, ih (until_cons_iff.mp hfirst).2]
      rfl

theorem cut_of_untagged (huntagged : ¬ tagMark <:+: text) : cut text = ⟨text, []⟩ := by
  induction text with
  | nil => rfl
  | cons c rest ih =>
      rw [cut_cons fun hmark => huntagged hmark.isInfix,
        ih fun hmark => huntagged (List.infix_cons hmark)]

private theorem isPrefix_append {c : Char} (rest : Text)
    (hpart : tagMark <+: c :: (lead ++ tagMark)) :
    tagMark <+: c :: (lead ++ (tagMark ++ rest)) := by
  rw [← List.append_assoc]
  exact hpart.trans (List.prefix_append (c :: (lead ++ tagMark)) rest)

theorem cuts_cons {c : Char} {cut : Cut} (hmark : ¬ tagMark <+: c :: text)
    (hcuts : Cuts text cut) : Cuts (c :: text) ⟨c :: cut.lead, cut.tags⟩ := by
  cases hcuts with
  | plain untagged =>
      apply Cuts.plain
      intro hinfix
      rcases List.infix_cons_iff.mp hinfix with hpart | hinfix
      · exact hmark hpart
      · exact untagged hinfix
  | @unclosed lead rest first unclosed =>
      have hfirst : Until tagMark (c :: lead) :=
        until_cons_iff.mpr ⟨fun hpart => hmark (isPrefix_append rest hpart), first⟩
      exact .unclosed hfirst unclosed
  | @tag lead behind tag cut first written rest =>
      obtain ⟨middle, htext⟩ := written.exists_text_eq
      have hfirst : Until tagMark (c :: lead) := by
        refine until_cons_iff.mpr ⟨fun hpart => hmark ?_, first⟩
        rw [htext, List.append_assoc]
        exact isPrefix_append _ hpart
      exact .tag hfirst written rest

theorem cuts_cut (text : Text) : Cuts text (cut text) := by
  -- Behind a tag the text is shorter by more than one character.
  induction hlength : text.length using Nat.strong_induction_on generalizing text with
  | _ length ih =>
      cases text with
      | nil => exact .plain (by simp [tagMark])
      | cons c rest =>
          by_cases hmark : tagMark <+: c :: rest
          · by_cases htag : ∃ tag : Tag, tag.Written ∧ tag.text <+: c :: rest
            · obtain ⟨tag, hwritten, behind, heq⟩ := htag
              obtain ⟨middle, htext⟩ := hwritten.exists_text_eq
              have hshorter : behind.length < length := by
                rw [← hlength, ← heq, htext]
                simp [tagMark]
                omega
              rw [← heq, cut_of_tag hwritten]
              exact .tag (until_nil tagMark) hwritten (ih _ hshorter behind rfl)
            · obtain ⟨more, heq⟩ := hmark
              have hunclosed : ∀ tag : Tag, tag.Written → ¬ tag.text <+: tagMark ++ more := by
                intro tag hwritten hpart
                exact htag ⟨tag, hwritten, heq ▸ hpart⟩
              rw [← heq, cut_of_unclosed hunclosed]
              exact .unclosed (until_nil tagMark) hunclosed
          · rw [cut_cons hmark]
            exact cuts_cons hmark (ih _ (by rw [← hlength, List.length_cons]; omega) rest rfl)

/-- A template is cut in one way, which is the way that it is read. -/
theorem cuts_iff {cut : Cut} : Cuts text cut ↔ Template.cut text = cut := by
  constructor
  · intro hcuts
    induction hcuts with
    | plain untagged => exact cut_of_untagged untagged
    | unclosed first unclosed => rw [cut_append first, cut_of_unclosed unclosed]
    | @tag lead behind tag cut first written rest ih =>
        obtain ⟨middle, htext⟩ := written.exists_text_eq
        have htag := cut_of_tag written behind
        rw [htext, List.append_assoc] at htag ⊢
        rw [cut_append first, htag, ih, List.append_nil]
  · rintro rfl
    exact cuts_cut text

end Transclusion.Template
