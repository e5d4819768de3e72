import Transclusion.Proofs.Dict.Order
import Transclusion.Proofs.Text.Percent
import Transclusion.Proofs.Text.Split
import Transclusion.Request

namespace Transclusion.Request

/-! Parameters as they are written in a query, and read again. -/

variable {text code part : Text} {parts : List Text} {entries params : Dict Text} {c : Char}

def isUnreserved (c : Char) : Bool :=
  c.isAlphanum || ['-', '_', '.', '~'].contains c

/-- How a name or a value may be written. Unreserved characters may stand for themselves and a plus
for a blank, and any character may be written as the escapes of its bytes. -/
inductive Encodes : Text → Text → Prop where
  | nil : Encodes [] []
  | plain {c : Char} {text code : Text} (unreserved : isUnreserved c = true)
      (rest : Encodes text code) : Encodes (c :: text) (c :: code)
  | plus {text code : Text} (rest : Encodes text code) : Encodes (' ' :: text) ('+' :: code)
  | escaped {c : Char} {text written code : Text}
      (escapes : Text.Escapes (Text.toUtf8 [c]) written) (rest : Encodes text code) :
      Encodes (c :: text) (written ++ code)

theorem exists_encodes (text : Text) : ∃ code, Encodes text code := by
  induction text with
  | nil => exact ⟨[], .nil⟩
  | cons c text ih =>
      obtain ⟨written, hwritten⟩ := Text.exists_escapes (Text.toUtf8 [c])
      obtain ⟨code, hcode⟩ := ih
      exact ⟨written ++ code, .escaped hwritten hcode⟩

@[simp] theorem spaced_append (first second : Text) :
    spaced (first ++ second) = spaced first ++ spaced second :=
  List.map_append

theorem spaced_cons_of_ne (hne : c ≠ '+') (text : Text) :
    spaced (c :: text) = c :: spaced text := by
  rw [spaced, List.map_cons, if_neg hne]
  rfl

theorem spaced_of_notMem (hplus : '+' ∉ text) : spaced text = text := by
  refine (List.map_congr_left fun c hmem => ?_).trans (List.map_id text)
  exact if_neg fun heq : c = '+' => hplus (heq ▸ hmem)

theorem ne_of_isUnreserved {d : Char} (hunreserved : isUnreserved c = true)
    (hreserved : isUnreserved d = false) : c ≠ d := by
  rintro rfl
  cases hunreserved.symm.trans hreserved

namespace Encodes

theorem notMem (hcode : Encodes text code) (hreserved : isUnreserved c = false)
    (hplus : c ≠ '+') (hpercent : c ≠ '%') (hdigit : Text.hexValue? c = none) : c ∉ code := by
  induction hcode with
  | nil => exact List.not_mem_nil
  | plain unreserved rest ih =>
      intro hmem
      rcases List.mem_cons.mp hmem with rfl | hmem
      · exact ne_of_isUnreserved unreserved hreserved rfl
      · exact ih hmem
  | plus rest ih =>
      intro hmem
      rcases List.mem_cons.mp hmem with rfl | hmem
      · exact hplus rfl
      · exact ih hmem
  | escaped escapes rest ih =>
      intro hmem
      rcases List.mem_append.mp hmem with hmem | hmem
      · exact escapes.notMem hpercent hdigit hmem
      · exact ih hmem

theorem ne_nil (hcode : Encodes text code) (hne : text ≠ []) : code ≠ [] := by
  cases hcode with
  | nil => exact absurd rfl hne
  | plain => exact List.cons_ne_nil _ _
  | plus => exact List.cons_ne_nil _ _
  | @escaped c text written code escapes rest =>
      have hbytes : Text.toUtf8 [c] ≠ [] := by simp [Text.toUtf8]
      intro hnil
      rw [(List.append_eq_nil_iff.mp hnil).1] at escapes
      generalize Text.toUtf8 [c] = bytes at escapes hbytes
      cases escapes
      exact hbytes rfl

/-- Blanks are put for plusses first, and no escape gives a plus before its bytes are read. -/
theorem percentBytes_spaced (hcode : Encodes text code) :
    Text.percentBytes (spaced code) = Text.toUtf8 text := by
  induction hcode with
  | nil => rfl
  | plain unreserved rest ih =>
      rw [spaced_cons_of_ne (ne_of_isUnreserved unreserved rfl),
        Text.percentBytes_cons (ne_of_isUnreserved unreserved rfl), ih, ← Text.toUtf8_append]
      rfl
  | plus rest ih =>
      change Text.percentBytes (' ' :: spaced _) = _
      rw [Text.percentBytes_cons (by decide), ih, ← Text.toUtf8_append]
      rfl
  | escaped escapes rest ih =>
      rw [spaced_append, spaced_of_notMem (escapes.notMem (by decide) rfl),
        escapes.percentBytes_append, ih, ← Text.toUtf8_append]
      rfl

theorem decode_eq (hcode : Encodes text code) : decode code = text := by
  rw [decode, Text.percentDecode?, hcode.percentBytes_spaced, Text.ofUtf8?_toUtf8, Option.getD_some]

end Encodes

/-- A part of a query that gives no parameter. -/
structure Idle (part : Text) : Prop where
  whole : '&' ∉ part
  nameless : part = [] ∨ '=' ∉ part ∨ part.head? = some '=' ∨ 1 < part.count '='

/-- Parts of a query that give these parameters in order, with idle parts anywhere among them. -/
inductive Writes : List Text → Dict Text → Prop where
  | nil : Writes [] []
  | idle {part : Text} {parts : List Text} {entries : Dict Text} (idle : Idle part)
      (rest : Writes parts entries) : Writes (part :: parts) entries
  | param {name value nameCode valueCode : Text} {parts : List Text} {entries : Dict Text}
      (nameWritten : Encodes name nameCode) (valueWritten : Encodes value valueCode)
      (rest : Writes parts entries) :
      Writes ((nameCode ++ '=' :: valueCode) :: parts) ((name, value) :: entries)

theorem param?_of_idle (hidle : Idle part) : param? part = none := by
  have hlength := Text.length_split '=' part
  unfold param?
  split
  · next name value hsplit =>
      rw [hsplit] at hlength
      have hone : part.count '=' = 1 := by
        simpa using hlength.symm
      rcases hidle.nameless with rfl | hnone | hhead | hmore
      · cases hone
      · rw [List.count_eq_zero.mpr hnone] at hone
        cases hone
      · obtain ⟨rest, rfl⟩ := List.head?_eq_some_iff.mp hhead
        rw [← List.nil_append ('=' :: rest), Text.split_append] at hsplit
        obtain ⟨rfl, -⟩ := List.cons.inj hsplit
        rfl
      · omega
  · rfl

theorem param?_of_encodes {name value nameCode valueCode : Text} (hname : Encodes name nameCode)
    (hvalue : Encodes value valueCode) (hne : name ≠ []) :
    param? (nameCode ++ '=' :: valueCode) = some (name, value) := by
  have hsplit : Text.split '=' (nameCode ++ '=' :: valueCode) = [nameCode, valueCode] := by
    have hnameless := hname.notMem (c := '=') rfl (by decide) (by decide) rfl
    have hvalueless := hvalue.notMem (c := '=') rfl (by decide) (by decide) rfl
    rw [Text.split_append, Text.split, List.splitOn_eq_singleton hnameless, Text.split,
      List.splitOn_eq_singleton hvalueless]
    rfl
  have hpresent : nameCode.isEmpty = false := List.isEmpty_eq_false_iff.mpr (hname.ne_nil hne)
  simp only [param?, hsplit, hpresent, Bool.false_eq_true, ↓reduceIte, hname.decode_eq,
    hvalue.decode_eq]

namespace Writes

theorem notMem (hparts : Writes parts entries) (hmem : part ∈ parts) : '&' ∉ part := by
  induction hparts with
  | nil => exact absurd hmem List.not_mem_nil
  | idle idle rest ih =>
      rcases List.mem_cons.mp hmem with rfl | hmem
      · exact idle.whole
      · exact ih hmem
  | param nameWritten valueWritten rest ih =>
      rcases List.mem_cons.mp hmem with rfl | hmem
      · have hname := nameWritten.notMem (c := '&') rfl (by decide) (by decide) rfl
        have hvalue := valueWritten.notMem (c := '&') rfl (by decide) (by decide) rfl
        simp [hname, hvalue]
      · exact ih hmem

theorem filterMap_param? (hparts : Writes parts entries) (hnames : [] ∉ Dict.keys entries) :
    parts.filterMap param? = entries := by
  induction hparts with
  | nil => rfl
  | idle idle rest ih => rw [List.filterMap_cons, param?_of_idle idle, ih hnames]
  | param nameWritten valueWritten rest ih =>
      have hne : _ ≠ [] := fun heq => hnames (heq ▸ List.mem_cons_self)
      rw [List.filterMap_cons, param?_of_encodes nameWritten valueWritten hne,
        ih fun hmem => hnames (List.mem_cons_of_mem _ hmem)]

end Writes

theorem filterMap_split_join (hparts : ∀ part ∈ parts, '&' ∉ part) :
    (Text.split '&' (Text.join ['&'] parts)).filterMap param? = parts.filterMap param? := by
  cases parts with
  | nil => rfl
  | cons part parts => rw [Text.split_join hparts (List.cons_ne_nil part parts)]

/-- The parameters that are written in a query are those that are read from it, in whatever order
they come and whatever idle parts come among them. -/
theorem paramsOf_join (hsorted : params.Sorted) (hnames : [] ∉ Dict.keys params)
    (hparts : Writes parts entries) (hperm : entries.Perm params) :
    paramsOf (Text.join ['&'] parts) = params := by
  have hwritten : [] ∉ Dict.keys entries := fun hmem =>
    hnames ((hperm.map Prod.fst).mem_iff.mp hmem)
  rw [paramsOf, filterMap_split_join fun _ => hparts.notMem, hparts.filterMap_param? hwritten]
  exact hsorted.ofList_of_perm hperm

theorem paramsOf_of_scattered :
    paramsOf "n=&&flag&a+b=%C3%BC%26%3d&=x&p=q=r".toList =
      [("a b".toList, "ü&=".toList), ("n".toList, [])] := by
  have hname : Encodes "a b".toList "a+b".toList := .plain rfl (.plus (.plain rfl .nil))
  have humlaut : Text.Escapes (Text.toUtf8 ['ü']) "%C3%BC".toList :=
    .cons rfl rfl (.cons rfl rfl .nil)
  have hampersand : Text.Escapes (Text.toUtf8 ['&']) "%26".toList := .cons rfl rfl .nil
  have hequals : Text.Escapes (Text.toUtf8 ['=']) "%3d".toList := .cons rfl rfl .nil
  have hvalue : Encodes "ü&=".toList "%C3%BC%26%3d".toList :=
    .escaped humlaut (.escaped hampersand (.escaped hequals .nil))
  have hplain : Encodes ['n'] ['n'] := .plain rfl .nil
  have hparts : Writes
      ["n=".toList, [], "flag".toList, "a+b=%C3%BC%26%3d".toList, "=x".toList, "p=q=r".toList]
      [("n".toList, []), ("a b".toList, "ü&=".toList)] := by
    apply Writes.param hplain .nil
    apply Writes.idle ⟨by decide, .inl rfl⟩
    apply Writes.idle ⟨by decide, .inr (.inl (by decide))⟩
    apply Writes.param hname hvalue
    apply Writes.idle ⟨by decide, .inr (.inr (.inl rfl))⟩
    apply Writes.idle ⟨by decide, .inr (.inr (.inr (by decide)))⟩
    exact .nil
  have hsorted : Dict.Sorted [("a b".toList, "ü&=".toList), ("n".toList, ([] : Text))] := by
    unfold Dict.Sorted
    decide
  exact paramsOf_join hsorted (by decide) hparts (List.Perm.swap _ _ _)

end Transclusion.Request
