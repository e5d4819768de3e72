import Transclusion.Proofs.Template.Nesting

namespace Transclusion.Template

/-! Parsing keeps every part of a template but for the lines that hold nothing but one tag, of which
the tag is kept. -/

section Lines

variable {text front line feed before behind ahead lead rest : Text} {c : Char}

/-- What stands on the last line of a text. -/
inductive BeginsLine : Text → Text → Prop where
  | top {line : Text} (unbroken : '\n' ∉ line) : BeginsLine line line
  | below {lines line : Text} (unbroken : '\n' ∉ line) : BeginsLine (lines ++ '\n' :: line) line

/-- What stands on the first line of a text, and the line feed that ends it, if one does. -/
inductive EndsLine : Text → Text → Text → Prop where
  | feed {line rest : Text} (unbroken : '\n' ∉ line) : EndsLine (line ++ '\n' :: rest) line ['\n']
  | bottom {line : Text} (unbroken : '\n' ∉ line) : EndsLine line line []

private theorem ne_feed_of_mem (hunbroken : '\n' ∉ line) (hmem : c ∈ line) :
    (c != '\n') = true := by
  rw [bne_iff_ne]
  rintro rfl
  exact hunbroken hmem

theorem dropLastLine_append_lastLine (text : Text) : dropLastLine text ++ lastLine text = text := by
  rw [dropLastLine, lastLine, ← List.reverse_append, List.takeWhile_append_dropWhile,
    List.reverse_reverse]

theorem BeginsLine.lastLine_eq (hbegins : BeginsLine text line) : lastLine text = line := by
  cases hbegins with
  | top unbroken =>
      rw [lastLine, List.takeWhile_eq_self_iff.mpr, List.reverse_reverse]
      exact fun c hmem => ne_feed_of_mem unbroken (List.mem_reverse.mp hmem)
  | below unbroken =>
      rw [lastLine, List.reverse_append, List.reverse_cons, List.append_assoc,
        List.takeWhile_append_of_pos]
      · simp
      · exact fun c hmem => ne_feed_of_mem unbroken (List.mem_reverse.mp hmem)

theorem beginsLine_lastLine (text : Text) : BeginsLine text (lastLine text) := by
  have hbegins : ∃ line, BeginsLine text line := by
    by_cases hbroken : '\n' ∈ text.reverse
    · obtain ⟨line, lines, heq, hunbroken⟩ := List.eq_append_cons_of_mem hbroken
      have htext := congrArg List.reverse heq
      simp only [List.reverse_reverse, List.reverse_append, List.reverse_cons, List.append_assoc,
        List.singleton_append] at htext
      rw [htext]
      exact ⟨_, .below (by simpa using hunbroken)⟩
    · exact ⟨text, .top (by simpa using hbroken)⟩
  obtain ⟨line, hline⟩ := hbegins
  rwa [hline.lastLine_eq]

theorem lastLine_append_of_mem (front : Text) (hbroken : '\n' ∈ lead) :
    lastLine (front ++ lead) = lastLine lead := by
  have hbegins := beginsLine_lastLine lead
  generalize lastLine lead = line at hbegins
  cases hbegins with
  | top unbroken => exact absurd hbroken unbroken
  | below unbroken =>
      rw [← List.append_assoc]
      exact (BeginsLine.below unbroken).lastLine_eq

theorem lastLine_append_of_notMem (front : Text) (hunbroken : '\n' ∉ lead) :
    lastLine (front ++ lead) = lastLine front ++ lead := by
  have hbegins := beginsLine_lastLine front
  generalize lastLine front = line at hbegins
  cases hbegins with
  | top unbroken => exact (BeginsLine.top (by simp [unbroken, hunbroken])).lastLine_eq
  | below unbroken =>
      rw [List.append_assoc, List.cons_append]
      exact (BeginsLine.below (by simp [unbroken, hunbroken])).lastLine_eq

def firstFeed (text : Text) : Text :=
  (text.dropWhile (· != '\n')).take 1

theorem firstLine_append_dropFirstLine (text : Text) :
    firstLine text ++ (firstFeed text ++ dropFirstLine text) = text := by
  rw [firstFeed, dropFirstLine, List.take_append_drop, firstLine, List.takeWhile_append_dropWhile]

theorem EndsLine.firstLine_eq (hends : EndsLine text line feed) :
    firstLine text = line ∧ firstFeed text = feed := by
  cases hends with
  | feed unbroken =>
      have hline : ∀ c ∈ line, (c != '\n') = true := fun c => ne_feed_of_mem unbroken
      rw [firstLine, firstFeed, List.takeWhile_append_of_pos hline,
        List.dropWhile_append_of_pos hline]
      simp
  | bottom unbroken =>
      have hline : ∀ c ∈ text, (c != '\n') = true := fun c => ne_feed_of_mem unbroken
      rw [firstLine, firstFeed, List.takeWhile_eq_self_iff.mpr hline,
        List.dropWhile_eq_nil_iff.mpr hline]
      exact ⟨rfl, rfl⟩

theorem endsLine_firstLine (text : Text) : EndsLine text (firstLine text) (firstFeed text) := by
  have hends : ∃ line feed, EndsLine text line feed := by
    by_cases hbroken : '\n' ∈ text
    · obtain ⟨line, rest, rfl, hunbroken⟩ := List.eq_append_cons_of_mem hbroken
      exact ⟨_, _, .feed hunbroken⟩
    · exact ⟨_, _, .bottom hbroken⟩
  obtain ⟨line, feed, hline⟩ := hends
  rwa [hline.firstLine_eq.1, hline.firstLine_eq.2]

theorem firstLine_append_of_mem (hbroken : '\n' ∈ behind) (rest : Text) :
    firstLine (behind ++ rest) = firstLine behind ∧
      firstFeed (behind ++ rest) = firstFeed behind := by
  have hends := endsLine_firstLine behind
  generalize firstLine behind = line, firstFeed behind = feed at hends
  cases hends with
  | feed unbroken =>
      rw [List.append_assoc, List.cons_append]
      exact (EndsLine.feed unbroken).firstLine_eq
  | bottom unbroken => exact absurd hbroken unbroken

theorem firstFeed_of_mem (hbroken : '\n' ∈ behind) : firstFeed behind = ['\n'] := by
  have hends := endsLine_firstLine behind
  generalize firstLine behind = line, firstFeed behind = feed at hends
  cases hends with
  | feed unbroken => rfl
  | bottom unbroken => exact absurd hbroken unbroken

theorem firstLine_append_of_notMem (hunbroken : '\n' ∉ behind) (rest : Text) :
    firstLine (behind ++ rest) = behind ++ firstLine rest :=
  List.takeWhile_append_of_pos fun _ => ne_feed_of_mem hunbroken

end Lines

section Blanks

variable {front lead line behind rest : Text} {kind : TagKind} {beginsLine endsTemplate : Bool}

def IsBlank (text : Text) : Prop :=
  ∀ c ∈ text, c = ' ' ∨ c = '\t'

def IsBlankEnd (line : Text) : Prop :=
  ∃ blanks, IsBlank blanks ∧ (line = blanks ∨ line = blanks ++ ['\x0d'])

inductive TagKind.Silent : TagKind → Prop where
  | enter (name : Text) (inverted : Bool) : Silent (.enter name inverted)
  | leave (name : Text) : Silent (.leave name)
  | note : Silent .note
  | inclusion : Silent .inclusion

/-- A tag is alone if it prints nothing in its own place and the line has nothing but blanks
beside it. -/
structure Alone (kind : TagKind) (ahead line : Text) : Prop where
  silent : kind.Silent
  ahead_blank : IsBlank ahead
  line_blank : IsBlankEnd line

theorem silent_iff (hkind : kind ≠ .delimiters) : kind.Silent ↔ kind.standsAlone = true := by
  cases kind with
  | value name escaped => exact ⟨fun hsilent => (nomatch hsilent), fun hstands => (nomatch hstands)⟩
  | enter name inverted => exact ⟨fun _ => rfl, fun _ => .enter name inverted⟩
  | leave name => exact ⟨fun _ => rfl, fun _ => .leave name⟩
  | note => exact ⟨fun _ => rfl, fun _ => .note⟩
  | inclusion => exact ⟨fun _ => rfl, fun _ => .inclusion⟩
  | delimiters => exact absurd rfl hkind

theorem isBlank_iff : IsBlank line ↔ line.all isLineBlank = true := by
  simp [IsBlank, isLineBlank]

theorem isBlankEnd_iff :
    IsBlankEnd line ↔ ((Text.dropLast? '\x0d' line).getD line).all isLineBlank = true := by
  rw [← isBlank_iff]
  by_cases hreturn : line.getLast? = some '\x0d'
  · obtain ⟨front, rfl⟩ := List.getLast?_eq_some_iff.mp hreturn
    rw [Text.dropLast?, if_pos hreturn, List.dropLast_concat, Option.getD_some]
    constructor
    · rintro ⟨blanks, hblanks, rfl | heq⟩
      · exact fun c hmem => hblanks c (List.mem_append_left _ hmem)
      · rwa [List.append_cancel_right heq]
    · exact fun hblanks => ⟨front, hblanks, .inr rfl⟩
  · rw [Text.dropLast?, if_neg hreturn, Option.getD_none]
    constructor
    · rintro ⟨blanks, hblanks, rfl | rfl⟩
      · exact hblanks
      · exact absurd List.getLast?_concat hreturn
    · exact fun hblanks => ⟨line, hblanks, .inl rfl⟩

theorem not_isBlank_of_mem {c : Char} (hmem : c ∈ line) (hblank : isLineBlank c = false) :
    ¬ IsBlank line := by
  rw [isBlank_iff, List.all_eq_true]
  intro hall
  rw [hall c hmem] at hblank
  cases hblank

theorem not_isBlankEnd_of_mem {c : Char} (hmem : c ∈ line) (hblank : isLineBlank c = false)
    (hreturn : c ≠ '\x0d') : ¬ IsBlankEnd line := by
  rintro ⟨blanks, hblanks, rfl | rfl⟩
  · exact not_isBlank_of_mem hmem hblank hblanks
  · rw [List.mem_append, List.mem_singleton] at hmem
    exact not_isBlank_of_mem (hmem.resolve_right hreturn) hblank hblanks

/-- How the text ends that a tag comes behind: with a line, or with a tag. -/
def Borders (beginsLine : Bool) (front : Text) : Prop :=
  if beginsLine then front = [] ∨ front.getLast? = some '\n' else front.getLast? = some '}'

theorem lastLine_eq_nil (hfront : Borders true front) : lastLine front = [] := by
  rcases hfront with rfl | hlast
  · rfl
  · obtain ⟨lines, rfl⟩ := List.getLast?_eq_some_iff.mp hlast
    exact (BeginsLine.below List.not_mem_nil).lastLine_eq

theorem lastLine_append_of_borders (hfront : Borders true front) (lead : Text) :
    lastLine (front ++ lead) = lastLine lead := by
  by_cases hbroken : '\n' ∈ lead
  · exact lastLine_append_of_mem front hbroken
  · rw [lastLine_append_of_notMem front hbroken, lastLine_eq_nil hfront,
      (BeginsLine.top hbroken).lastLine_eq, List.nil_append]

theorem mem_lastLine (hfront : Borders false front) : '}' ∈ lastLine front := by
  obtain ⟨before, rfl⟩ := List.getLast?_eq_some_iff.mp hfront
  rw [lastLine_append_of_notMem before (by decide)]
  exact List.mem_append_right _ List.mem_cons_self

theorem blankBefore_iff (hfront : Borders beginsLine front) :
    blankBefore beginsLine lead = true ↔ IsBlank (lastLine (front ++ lead)) := by
  rw [blankBefore, Bool.and_eq_true, ← isBlank_iff, Bool.or_eq_true, List.contains_iff_mem]
  -- Blanks are looked for back to the tag before only. Its last brace is on the line if no line
  -- feed comes between, whatever else is.
  by_cases hbroken : '\n' ∈ lead
  · rw [lastLine_append_of_mem front hbroken]
    exact ⟨And.left, fun hblank => ⟨hblank, .inr hbroken⟩⟩
  · rw [lastLine_append_of_notMem front hbroken, (BeginsLine.top hbroken).lastLine_eq]
    cases beginsLine with
    | true =>
        rw [lastLine_eq_nil hfront, List.nil_append]
        exact ⟨And.left, fun hblank => ⟨hblank, .inl rfl⟩⟩
    | false =>
        constructor
        · rintro ⟨-, hbegins | hmem⟩
          · cases hbegins
          · exact absurd hmem hbroken
        · intro hblank
          have hmem : '}' ∈ lastLine front ++ lead := List.mem_append_left _ (mem_lastLine hfront)
          exact absurd hblank (not_isBlank_of_mem hmem rfl)

theorem lastLine_eq_of_blankBefore (hfront : Borders beginsLine front)
    (hblank : blankBefore beginsLine lead = true) : lastLine (front ++ lead) = lastLine lead := by
  cases beginsLine with
  | true => exact lastLine_append_of_borders hfront lead
  | false =>
      apply lastLine_append_of_mem
      simp only [blankBefore, Bool.false_or, Bool.and_eq_true, List.contains_iff_mem] at hblank
      exact hblank.2

/-- What follows the text behind a tag: nothing, or the next tag. -/
def Follows (endsTemplate : Bool) (rest : Text) : Prop :=
  if endsTemplate then rest = [] else rest.head? = some '{'

theorem blankBehind_iff (hrest : Follows endsTemplate rest) :
    blankBehind endsTemplate behind = true ↔ IsBlankEnd (firstLine (behind ++ rest)) := by
  rw [blankBehind, Bool.and_eq_true, ← isBlankEnd_iff, Bool.or_eq_true, List.contains_iff_mem]
  by_cases hbroken : '\n' ∈ behind
  · rw [(firstLine_append_of_mem hbroken rest).1]
    exact ⟨And.left, fun hblank => ⟨hblank, .inr hbroken⟩⟩
  · rw [firstLine_append_of_notMem hbroken, (EndsLine.bottom hbroken).firstLine_eq.1]
    cases endsTemplate with
    | true =>
        have hrest : rest = [] := hrest
        rw [hrest, firstLine, List.takeWhile_nil, List.append_nil]
        exact ⟨And.left, fun hblank => ⟨hblank, .inl rfl⟩⟩
    | false =>
        obtain ⟨more, rfl⟩ := List.head?_eq_some_iff.mp hrest
        constructor
        · rintro ⟨-, hends | hmem⟩
          · cases hends
          · exact absurd hmem hbroken
        · intro hblank
          have hmem : '{' ∈ behind ++ firstLine ('{' :: more) :=
            List.mem_append_right _ List.mem_cons_self
          exact absurd hblank (not_isBlankEnd_of_mem hmem rfl (by decide))

theorem firstLine_eq_of_blankBehind (hrest : Follows endsTemplate rest)
    (hblank : blankBehind endsTemplate behind = true) :
    firstLine (behind ++ rest) = firstLine behind ∧
      firstFeed (behind ++ rest) = firstFeed behind := by
  by_cases hbroken : '\n' ∈ behind
  · exact firstLine_append_of_mem hbroken rest
  · cases endsTemplate with
    | true =>
        have hrest : rest = [] := hrest
        rw [hrest, List.append_nil]
        exact ⟨rfl, rfl⟩
    | false => simp [blankBehind, hbroken] at hblank

end Blanks

/-- A tag with what is taken out ahead of it and behind it, and the text that is kept from there to
what belongs to the next tag. -/
structure Placed where
  ahead : Text
  tag : Tag
  behind : Text
  kept : Text

def Placed.text (placed : Placed) : Text :=
  placed.ahead ++ (placed.tag.text ++ (placed.behind ++ placed.kept))

def untidied (lead : Text) : List Placed → Cut
  | [] => ⟨lead, []⟩
  | here :: later =>
      let rest := untidied (here.behind ++ here.kept) later
      ⟨lead ++ here.ahead, (here.tag, rest.lead) :: rest.tags⟩

/-- A tag takes all out that its line has beside it, if it is alone there, and nothing otherwise.
`before` is all the template ahead of the tag, and `after` all that is behind it. -/
inductive Placed.Lined (before after : Text) (placed : Placed) : Prop where
  | alone {line feed : Text} (begins : BeginsLine before placed.ahead)
      (ends : EndsLine after line feed) (alone : Alone placed.tag.kind placed.ahead line)
      (behind : placed.behind = line ++ feed) : Lined before after placed
  | beside {ahead line feed : Text} (begins : BeginsLine before ahead)
      (ends : EndsLine after line feed) (beside : ¬ Alone placed.tag.kind ahead line)
      (ahead_nil : placed.ahead = []) (behind_nil : placed.behind = []) :
      Lined before after placed

def Tidied (front : Text) (placed : List Placed) : Prop :=
  ∀ earlier here later, placed = earlier ++ here :: later →
    here.Lined (front ++ (earlier.flatMap Placed.text ++ here.ahead))
      (here.behind ++ (here.kept ++ later.flatMap Placed.text))

section Place

variable {front lead behind : Text} {tag : Tag} {tags : List (Tag × Text)} {here next : Placed}
  {later : List Placed} {beginsLine : Bool}

theorem tidied_nil (front : Text) : Tidied front [] := by
  intro earlier here later heq
  cases earlier <;> cases heq

theorem tidied_cons
    (hhere : here.Lined (front ++ here.ahead)
      (here.behind ++ (here.kept ++ later.flatMap Placed.text)))
    (hlater : Tidied (front ++ here.text) later) : Tidied front (here :: later) := by
  intro earlier other rest heq
  cases earlier with
  | nil =>
      obtain ⟨rfl, rfl⟩ := List.cons.inj heq
      exact hhere
  | cons first earlier =>
      obtain ⟨rfl, rfl⟩ := List.cons.inj heq
      have hother := hlater earlier other rest rfl
      simpa only [List.flatMap_cons, List.append_assoc] using hother

theorem text_untidied (lead : Text) (placed : List Placed) :
    (untidied lead placed).text = lead ++ placed.flatMap Placed.text := by
  induction placed generalizing lead with
  | nil => rfl
  | cons here later ih =>
      have hrest := ih (here.behind ++ here.kept)
      rw [Cut.text] at hrest ⊢
      simp only [untidied, List.flatMap_cons, Placed.text, List.append_assoc] at hrest ⊢
      rw [hrest]

theorem append_text_of_untidied {taken more kept : Text} {placed : List Placed}
    (htaken : taken ++ more = behind) (huntidied : untidied kept placed = ⟨more, tags⟩) :
    taken ++ (kept ++ placed.flatMap Placed.text) =
      behind ++ tags.flatMap fun (tag, behind) => tag.text ++ behind := by
  have htext := text_untidied kept placed
  rw [huntidied, Cut.text] at htext
  rw [← htext, ← htaken, List.append_assoc]

theorem marks_untidied (lead : Text) (placed : List Placed) :
    (untidied lead placed).marks = placed.map Placed.tag := by
  induction placed generalizing lead with
  | nil => rfl
  | cons here later ih => exact congrArg (here.tag :: ·) (ih (here.behind ++ here.kept))

theorem untidied_append (lead more : Text) (placed : List Placed) :
    untidied (lead ++ more) placed =
      ⟨lead ++ (untidied more placed).lead, (untidied more placed).tags⟩ := by
  cases placed with
  | nil => rfl
  | cons here later => simp only [untidied, List.append_assoc]

theorem alone_iff {rest : Text} (hkind : tag.kind ≠ .delimiters) (hfront : Borders beginsLine front)
    {endsTemplate : Bool} (hrest : Follows endsTemplate rest) :
    (tag.kind.standsAlone && blankBefore beginsLine lead && blankBehind endsTemplate behind) =
        true ↔
      Alone tag.kind (lastLine (front ++ lead)) (firstLine (behind ++ rest)) := by
  rw [Bool.and_eq_true, Bool.and_eq_true, ← silent_iff hkind, blankBefore_iff hfront,
    blankBehind_iff hrest]
  constructor
  · rintro ⟨⟨hsilent, hahead⟩, hline⟩
    exact ⟨hsilent, hahead, hline⟩
  · rintro ⟨hsilent, hahead, hline⟩
    exact ⟨⟨hsilent, hahead⟩, hline⟩

theorem follows_tags (hwritten : ∀ entry ∈ tags, entry.1.Written) :
    Follows tags.isEmpty (tags.flatMap fun (tag, behind) => tag.text ++ behind) := by
  cases tags with
  | nil => rfl
  | cons entry tags =>
      obtain ⟨middle, htext⟩ := (hwritten entry List.mem_cons_self).exists_text_eq
      change (List.flatMap _ _).head? = some '{'
      simp [htext, tagMark]

theorem borders_tag (hwritten : tag.Written) (front : Text) : Borders false (front ++ tag.text) := by
  obtain ⟨middle, htext⟩ := hwritten.exists_text_eq
  rw [htext, ← List.append_assoc, ← List.append_assoc]
  exact List.getLast?_concat

theorem borders_line (hne : tags ≠ []) (hline : blankBehind tags.isEmpty behind = true)
    (front : Text) : Borders true (front ++ (firstLine behind ++ firstFeed behind)) := by
  rw [blankBehind, List.isEmpty_eq_false_iff.mpr hne, Bool.false_or, Bool.and_eq_true,
    List.contains_iff_mem] at hline
  rw [firstFeed_of_mem hline.2, ← List.append_assoc]
  exact .inr List.getLast?_concat

section Lined

variable {rest kept : Text} {endsTemplate : Bool} (hkind : tag.kind ≠ .delimiters)
  (hfront : Borders beginsLine front) (hrest : Follows endsTemplate rest)
include hkind hfront hrest

theorem lined_of_alone
    (hcond : (tag.kind.standsAlone && blankBefore beginsLine lead &&
      blankBehind endsTemplate behind) = true) :
    (Placed.mk (lastLine lead) tag (firstLine behind ++ firstFeed behind) kept).Lined
      (front ++ lead) (behind ++ rest) := by
  have halone := (alone_iff hkind hfront hrest).mp hcond
  obtain ⟨hsides, hline⟩ := Bool.and_eq_true_iff.mp hcond
  obtain ⟨-, hahead⟩ := Bool.and_eq_true_iff.mp hsides
  have hbegins := beginsLine_lastLine (front ++ lead)
  have hends := endsLine_firstLine (behind ++ rest)
  rw [lastLine_eq_of_blankBefore hfront hahead] at halone hbegins
  rw [(firstLine_eq_of_blankBehind hrest hline).1] at halone hends
  rw [(firstLine_eq_of_blankBehind hrest hline).2] at hends
  exact .alone hbegins hends halone rfl

theorem lined_of_beside
    (hcond : (tag.kind.standsAlone && blankBefore beginsLine lead &&
      blankBehind endsTemplate behind) = false) :
    (Placed.mk [] tag [] kept).Lined (front ++ lead) (behind ++ rest) := by
  refine .beside (beginsLine_lastLine _) (endsLine_firstLine _) (fun halone => ?_) rfl rfl
  rw [(alone_iff hkind hfront hrest).mpr halone] at hcond
  cases hcond

end Lined

theorem exists_placed (tags : List (Tag × Text)) (beginsLine : Bool) (front lead : Text)
    (hwritten : ∀ entry ∈ tags, entry.1.Written)
    (hkinds : ∀ entry ∈ tags, entry.1.kind ≠ .delimiters)
    (hfront : tags ≠ [] → Borders beginsLine front) :
    ∃ kept placed, untidied kept placed = ⟨lead, tags⟩ ∧
      tidyFrom beginsLine lead tags = ⟨kept, placed.map fun here => (here.tag, here.kept)⟩ ∧
      Tidied (front ++ kept) placed := by
  induction tags generalizing beginsLine front lead with
  | nil => exact ⟨lead, [], rfl, rfl, tidied_nil _⟩
  | cons entry tags ih =>
      obtain ⟨tag, behind⟩ := entry
      obtain ⟨htag, htags⟩ := List.forall_mem_cons.mp hwritten
      obtain ⟨hkind, hlater⟩ := List.forall_mem_cons.mp hkinds
      have hborders : Borders beginsLine front := hfront (List.cons_ne_nil _ _)
      have hfollows := follows_tags htags
      -- Where a line is taken out behind the tag, what comes next begins a line. Otherwise it comes
      -- behind the tag.
      cases hcond : tag.kind.standsAlone && blankBefore beginsLine lead &&
        blankBehind tags.isEmpty behind with
      | true =>
          have hline := (Bool.and_eq_true_iff.mp hcond).2
          have htaken : firstLine behind ++ firstFeed behind ++ dropFirstLine behind = behind := by
            rw [List.append_assoc, firstLine_append_dropFirstLine]
          obtain ⟨kept, placed, huntidied, htidied, hplaced⟩ :=
            ih true (front ++ lead ++ tag.text ++ (firstLine behind ++ firstFeed behind))
              (dropFirstLine behind) htags hlater fun hne => borders_line hne hline _
          refine ⟨dropLastLine lead, ⟨lastLine lead, tag, firstLine behind ++ firstFeed behind, kept⟩
            :: placed, ?_, ?_, tidied_cons ?_ ?_⟩
          · simp only [untidied, untidied_append, huntidied, htaken,
              dropLastLine_append_lastLine]
          · simp only [tidyFrom, hcond, ↓reduceIte, htidied, List.map_cons]
          · rw [append_text_of_untidied htaken huntidied, List.append_assoc,
              dropLastLine_append_lastLine]
            exact lined_of_alone hkind hborders hfollows hcond
          · rw [← dropLastLine_append_lastLine lead] at hplaced
            simpa only [Placed.text, List.append_assoc] using hplaced
      | false =>
          obtain ⟨kept, placed, huntidied, htidied, hplaced⟩ :=
            ih false (front ++ lead ++ tag.text) behind htags hlater fun _ => borders_tag htag _
          refine ⟨lead, ⟨[], tag, [], kept⟩ :: placed, ?_, ?_, tidied_cons ?_ ?_⟩
          · simp only [untidied, huntidied, List.append_nil, List.nil_append]
          · simp only [tidyFrom, hcond, Bool.false_eq_true, ↓reduceIte, htidied, List.map_cons]
          · rw [List.append_nil, append_text_of_untidied (List.nil_append behind) huntidied]
            exact lined_of_beside hkind hborders hfollows hcond
          · simpa only [Placed.text, List.append_assoc, List.nil_append] using hplaced

end Place

/-- What a tree holds, in the order of the template. -/
inductive Leaf where
  | text (text : Text)
  | tag (kind : TagKind)

mutual

def Node.leaves : Node → List Leaf
  | .text text => [.text text]
  | .value name escaped => [.tag (.value name escaped)]
  | .block name inverted children =>
      .tag (.enter name inverted) :: (leaves children ++ [.tag (.leave name)])

def leaves : List Node → List Leaf
  | [] => []
  | node :: nodes => node.leaves ++ leaves nodes

end

def textLeaves (text : Text) : List Leaf :=
  if text.isEmpty then [] else [.text text]

def TagKind.leaves : TagKind → List Leaf
  | .note | .inclusion => []
  | kind => [.tag kind]

section Leaves

variable {nodes result : List Node} {frames : List Frame} {tags : List (Tag × Text)}

theorem leaves_append (first second : List Node) :
    leaves (first ++ second) = leaves first ++ leaves second := by
  induction first with
  | nil => rfl
  | cons node first ih => rw [List.cons_append, leaves, leaves, ih, List.append_assoc]

theorem leaves_textNodes (text : Text) : leaves (textNodes text) = textLeaves text := by
  unfold textNodes textLeaves
  split <;> rfl

/-- What the tree will hold ahead of the innermost open section, with the tags that opened the
sections. -/
def leavesBefore : List Frame → List Leaf
  | [] => []
  | frame :: frames =>
      leavesBefore frames ++ (leaves frame.before ++ [.tag (.enter frame.name frame.inverted)])

theorem leaves_nest (hnest : nest frames nodes tags = .ok result) :
    leaves result = leavesBefore frames ++ (leaves nodes ++
      tags.flatMap fun (tag, behind) => tag.kind.leaves ++ textLeaves behind) := by
  induction tags generalizing frames nodes with
  | nil =>
      cases frames with
      | nil =>
          cases hnest
          simp [leavesBefore]
      | cons frame frames => cases hnest
  | cons entry tags ih =>
      obtain ⟨tag, behind⟩ := entry
      rw [nest] at hnest
      split at hnest
      · next hkind =>
          rw [ih hnest]
          simp [leaves_append, leaves, Node.leaves, leaves_textNodes, hkind, TagKind.leaves]
      · next hkind =>
          rw [ih hnest]
          simp [leaves_append, leaves_textNodes, hkind, TagKind.leaves]
      · next hkind =>
          rw [ih hnest]
          simp [leaves_append, leaves_textNodes, hkind, TagKind.leaves]
      · next hkind =>
          rw [ih hnest]
          simp [leavesBefore, leaves_textNodes, hkind, TagKind.leaves]
      · next hkind =>
          split at hnest
          · cases hnest
          · split at hnest
            · next hname =>
                rw [ih hnest]
                simp [leavesBefore, leaves_append, leaves, Node.leaves, leaves_textNodes, hkind,
                  TagKind.leaves, hname]
            · cases hnest
      · cases hnest

end Leaves

/-- How a template that can be parsed comes apart. The tags and the texts around them are those of
the source. The tree holds the tags and the texts that are kept, in the same order. Where two tags
share a line, nothing is taken out on it. -/
structure Partition (template : Text) (nodes : List Node) (lead : Text) (placed : List Placed) :
    Prop where
  cuts : Cuts template (untidied lead placed)
  whole : template = lead ++ placed.flatMap Placed.text
  leaves_eq : leaves nodes = textLeaves lead ++
    placed.flatMap fun here => here.tag.kind.leaves ++ textLeaves here.kept
  tidied : Tidied lead placed
  shared : ∀ earlier here between next later,
    placed = earlier ++ here :: (between ++ next :: later) →
      '\n' ∉ here.behind ++ (here.kept ++ (between.flatMap Placed.text ++ next.ahead)) →
        (here.ahead = [] ∧ here.behind = []) ∧ next.ahead = [] ∧ next.behind = []

section Shared

variable {before after ahead line feed gap more lead : Text} {here next : Placed}
  {earlier between later : List Placed} {c : Char}

theorem EndsLine.mem (hends : EndsLine (gap ++ c :: more) line feed) (hgap : '\n' ∉ gap)
    (hc : c ≠ '\n') : c ∈ line := by
  rw [← hends.firstLine_eq.1, firstLine_append_of_notMem hgap, firstLine,
    List.takeWhile_cons_of_pos (by simpa using hc)]
  exact List.mem_append_right _ List.mem_cons_self

theorem BeginsLine.mem (hbegins : BeginsLine (before ++ [c] ++ gap) ahead) (hgap : '\n' ∉ gap)
    (hc : c ≠ '\n') : c ∈ ahead := by
  rw [← hbegins.lastLine_eq, lastLine_append_of_notMem _ hgap,
    lastLine_append_of_notMem before (by simpa using hc.symm)]
  exact List.mem_append_left _ (List.mem_append_right _ List.mem_cons_self)

theorem Placed.Lined.nil_of_beside (hlined : here.Lined before after)
    (hbeside : ∀ ahead line feed, BeginsLine before ahead → EndsLine after line feed →
      ¬ Alone here.tag.kind ahead line) : here.ahead = [] ∧ here.behind = [] := by
  cases hlined with
  | alone begins ends alone _ => exact absurd alone (hbeside _ _ _ begins ends)
  | beside _ _ _ ahead_nil behind_nil => exact ⟨ahead_nil, behind_nil⟩

theorem Tidied.nil_of_next (htidied : Tidied lead (earlier ++ here :: (between ++ next :: later)))
    (hwritten : next.tag.Written)
    (hgap : '\n' ∉ here.behind ++ (here.kept ++ (between.flatMap Placed.text ++ next.ahead))) :
    here.ahead = [] ∧ here.behind = [] := by
  apply (htidied _ _ _ rfl).nil_of_beside
  intro ahead line feed _ hends halone
  obtain ⟨middle, htext⟩ := hwritten.exists_text_eq
  have hafter : here.behind ++ (here.kept ++ (between ++ next :: later).flatMap Placed.text) =
      here.behind ++ (here.kept ++ (between.flatMap Placed.text ++ next.ahead)) ++
        '{' :: ('{' :: middle ++ ['}'] ++
          (next.behind ++ (next.kept ++ later.flatMap Placed.text))) := by
    simp [Placed.text, htext, tagMark]
  rw [hafter] at hends
  exact not_isBlankEnd_of_mem (hends.mem hgap (by decide)) rfl (by decide) halone.line_blank

theorem Tidied.nil_of_previous
    (htidied : Tidied lead (earlier ++ here :: (between ++ next :: later)))
    (hwritten : here.tag.Written)
    (hgap : '\n' ∉ here.behind ++ (here.kept ++ (between.flatMap Placed.text ++ next.ahead))) :
    next.ahead = [] ∧ next.behind = [] := by
  rw [← List.cons_append, ← List.append_assoc] at htidied
  apply (htidied _ _ _ rfl).nil_of_beside
  intro ahead line feed hbegins _ halone
  obtain ⟨middle, htext⟩ := hwritten.exists_text_eq
  have hbefore : lead ++ ((earlier ++ here :: between).flatMap Placed.text ++ next.ahead) =
      lead ++ (earlier.flatMap Placed.text ++ (here.ahead ++ (tagMark ++ middle))) ++ ['}'] ++
        (here.behind ++ (here.kept ++ (between.flatMap Placed.text ++ next.ahead))) := by
    simp [Placed.text, htext]
  rw [hbefore] at hbegins
  exact not_isBlank_of_mem (hbegins.mem hgap (by decide)) rfl halone.ahead_blank

end Shared

variable {template : Text} {nodes : List Node}

/-- A template that can be parsed loses nothing but what its lines have beside tags that are alone
on them. -/
theorem partition_of_parse (hparse : parse template = .ok nodes) :
    ∃ lead placed, Partition template nodes lead placed := by
  have hcuts := cuts_cut template
  have hkinds := (exists_parse_iff.mp ⟨nodes, hparse⟩).ne_delimiters
  obtain ⟨lead, placed, huntidied, htidied, hplaced⟩ :=
    exists_placed (cut template).tags true [] (cut template).lead hcuts.written
      (fun entry hmem => hkinds _ (List.mem_map_of_mem hmem)) fun _ => .inl rfl
  rw [List.nil_append] at hplaced
  have htags : ∀ here ∈ placed, here.tag.Written := by
    intro here hmem
    have hmark : here.tag ∈ (cut template).marks := by
      change here.tag ∈ Cut.marks ⟨(cut template).lead, (cut template).tags⟩
      rw [← huntidied, marks_untidied]
      exact List.mem_map_of_mem hmem
    obtain ⟨entry, hentry, heq⟩ := List.mem_map.mp hmark
    exact heq ▸ hcuts.written entry hentry
  refine ⟨lead, placed, ?_, ?_, ?_, hplaced, ?_⟩
  · rw [huntidied]
    exact hcuts
  · rw [← text_untidied, huntidied]
    exact hcuts.text_eq.symm
  · rw [parse, Cut.tidy, htidied] at hparse
    rw [leaves_nest hparse, leaves_textNodes, List.flatMap_map]
    rfl
  · rintro earlier here between next later rfl hgap
    exact ⟨hplaced.nil_of_next (htags next (by simp)) hgap,
      hplaced.nil_of_previous (htags here (by simp)) hgap⟩

theorem partition_of_lines :
    parse "a\n\t{{#l}} \x0d\n{{! n }}\n{{.}} {{/l}}".toList =
        .ok [.text "a\n".toList, .block ['l'] false [.value ['.'] true, .text [' ']]] ∧
      ∃ lead placed, Partition "a\n\t{{#l}} \x0d\n{{! n }}\n{{.}} {{/l}}".toList
        [.text "a\n".toList, .block ['l'] false [.value ['.'] true, .text [' ']]] lead placed :=
  ⟨rfl, partition_of_parse rfl⟩

end Transclusion.Template
