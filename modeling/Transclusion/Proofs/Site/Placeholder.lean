import Transclusion.Proofs.Site.Holding
import Transclusion.Proofs.Text.Search

namespace Transclusion

/-! A name that leaves places to the channel leads where the name does that has the channel written
in them. -/

namespace Reference

variable {value name extension channel : Text} {c : Char}

def literal (channel name : Text) : Text :=
  fill (clean channel) (clean name)

theorem hasPlaceholder_eq_true_iff : hasPlaceholder name = true ↔ placeholder <:+: name :=
  Text.holds_eq_true_iff

theorem hasPlaceholder_eq_false_iff : hasPlaceholder name = false ↔ ¬ placeholder <:+: name := by
  rw [← Bool.not_eq_true, hasPlaceholder_eq_true_iff]

theorem mem_clean (hmem : c ∈ clean name) : isNameChar c = true ∧ c ≠ '\\' := by
  obtain ⟨given, hgiven, rfl⟩ := List.mem_map.mp hmem
  obtain ⟨-, hchar⟩ := List.mem_filter.mp hgiven
  split
  · decide
  · next hslash => exact ⟨hchar, hslash⟩

theorem clean_eq_self (hchars : ∀ c ∈ name, isNameChar c = true ∧ c ≠ '\\') :
    clean name = name := by
  have hkept : name.filter isNameChar = name :=
    List.filter_eq_self.mpr fun c hmem => (hchars c hmem).1
  rw [clean, hkept]
  refine (List.map_congr_left fun c hmem => ?_).trans (List.map_id name)
  exact if_neg (hchars c hmem).2

theorem mem_fill (hmem : c ∈ fill value name) : c ∈ value ∨ c ∈ name := by
  induction name using fill.induct with
  | case1 rest ih =>
      rw [fill, List.mem_append] at hmem
      rcases hmem with hmem | hmem
      · exact .inl hmem
      · exact (ih hmem).imp_right fun hrest => List.mem_cons_of_mem _ (List.mem_cons_of_mem _ hrest)
  | case2 d rest hplaceless ih =>
      rw [fill] at hmem
      · rcases List.mem_cons.mp hmem with rfl | hmem
        · exact .inr List.mem_cons_self
        · exact (ih hmem).imp_right (List.mem_cons_of_mem _)
      · exact hplaceless
  | case3 => exact .inr hmem

theorem clean_literal (channel name : Text) :
    clean (literal channel name) = literal channel name := by
  apply clean_eq_self
  intro c hmem
  rcases mem_fill hmem with hmem | hmem
  · exact mem_clean hmem
  · exact mem_clean hmem

theorem fill_append (hplaceless : hasPlaceholder (fill value name ++ extension) = false) :
    fill value (name ++ extension) = fill value name ++ extension := by
  induction name using fill.induct with
  | case1 rest ih =>
      rw [fill, List.append_assoc] at hplaceless ⊢
      rw [List.cons_append, List.cons_append, fill, ih]
      rw [hasPlaceholder_eq_false_iff] at hplaceless ⊢
      exact fun hpart => hplaceless (hpart.trans (List.suffix_append _ _).isInfix)
  | case2 c rest hother ih =>
      have hfill : fill value (c :: rest) = c :: fill value rest := by
        rw [fill]
        exact hother
      rw [hfill, List.cons_append] at hplaceless ⊢
      rw [hasPlaceholder_eq_false_iff] at hplaceless
      -- A place made of the end of the name and the beginning of the extension would still be there
      -- when the name is filled.
      have hwhole : ∀ behind, c = '%' → rest ++ extension = 's' :: behind → False := by
        rintro behind rfl heq
        cases rest with
        | nil =>
            rw [List.nil_append] at heq
            exact hplaceless ⟨[], behind, by rw [heq]; rfl⟩
        | cons d rest =>
            obtain ⟨rfl, -⟩ := List.cons.inj heq
            exact hother rest rfl rfl
      rw [List.cons_append, fill, ih]
      · exact hasPlaceholder_eq_false_iff.mpr fun hpart => hplaceless (List.infix_cons hpart)
      · exact hwhole
  | case3 => exact fill_of_not_hasPlaceholder hplaceless

theorem clean_ne_nil_of_literal (hne : literal channel name ≠ []) : clean name ≠ [] := by
  intro hnil
  rw [literal, hnil] at hne
  exact hne rfl

section Literal

variable (hne : literal channel name ≠ [])
  (hplaceless : hasPlaceholder (literal channel name ++ extension) = false)
include hplaceless

theorem hasPlaceholder_clean_append :
    hasPlaceholder (clean name ++ extension) = hasPlaceholder (clean name) := by
  cases hclean : hasPlaceholder (clean name) with
  | true =>
      rw [hasPlaceholder_eq_true_iff] at hclean ⊢
      exact hclean.trans (List.prefix_append _ _).isInfix
  | false => rwa [literal, fill_of_not_hasPlaceholder hclean] at hplaceless

include hne

theorem relative?_literal (other : Text) :
    relative? extension other (literal channel name) =
      (tidy? (literal channel name ++ extension)).map (⟨·, false⟩) := by
  simp [relative?, clean_literal, hne, hplaceless]

theorem relative?_eq_literal :
    relative? extension channel name =
      (tidy? (literal channel name ++ extension)).map (⟨·, hasPlaceholder (clean name)⟩) := by
  have hasked : (clean name).isEmpty = false :=
    List.isEmpty_eq_false_iff.mpr (clean_ne_nil_of_literal hne)
  have hfill : fill (clean channel) (clean name ++ extension) = literal channel name ++ extension :=
    fill_append hplaceless
  simp only [relative?, hasked, Bool.false_eq_true, ↓reduceIte,
    hasPlaceholder_clean_append hplaceless]
  cases hclean : hasPlaceholder (clean name) with
  | true => simp only [↓reduceIte, hfill]
  | false =>
      rw [literal, fill_of_not_hasPlaceholder hclean]
      rfl

end Literal

end Reference

namespace Site

open Reference

variable {site : Site} {files : FileTree} {channel : Channel} {name file path : Text}
  {channelled : Bool}

theorem locate_eq_found_iff_of_tidy?
    (hrelative : relative? site.templateExt channel.name name =
      (tidy? file).map (⟨·, channelled⟩)) {source : Source} :
    site.locate files channel name = .ok (.found source) ↔
      ∃ path, tidy? file = some path ∧ site.holder? files path = some source := by
  rw [locate_eq_found_iff, hrelative]
  constructor
  · rintro ⟨relative, htidy, hholder⟩
    obtain ⟨path, hpath, rfl⟩ := Option.map_eq_some_iff.mp htidy
    exact ⟨path, hpath, hholder⟩
  · rintro ⟨path, hpath, hholder⟩
    exact ⟨⟨path, channelled⟩, by rw [hpath, Option.map_some], hholder⟩

theorem locate_of_absent
    (hrelative : relative? site.templateExt channel.name name = some ⟨path, channelled⟩)
    (habsent : ∀ root ∈ site.roots, files.isFile (Path.join root path) = false) :
    site.locate files channel name =
      if channelled then .ok (.unmatched path) else .error (.templateMissing path) := by
  simp only [locate, hrelative, holder?_eq_none_iff.mpr habsent]

theorem locate_of_refused (hrelative : relative? site.templateExt channel.name name = none) :
    site.locate files channel name = .error (.templateMissing name) := by
  simp only [locate, hrelative]

theorem dataPath_of_relative?
    (hrelative : relative? site.dataExt channel.name name = some ⟨path, channelled⟩) :
    site.dataPath channel name = .ok (Path.join site.dataDir path) := by
  simp only [dataPath, hrelative]

theorem dataPath_of_refused (hrelative : relative? site.dataExt channel.name name = none) :
    site.dataPath channel name = .error (.dataMissing (Path.join site.dataDir name)) := by
  simp only [dataPath, hrelative]

/-- A name is looked up as the name with its channel written in the places is, whatever the channel
of that look-up is. Where no root has the template, both name the same path, and only a name with
places in it is then taken for an empty template. -/
theorem lookup_literal (site : Site) (files : FileTree) (channel other : Channel) (name : Text)
    (hne : literal channel.name name ≠ []) :
    (hasPlaceholder (literal channel.name name ++ site.templateExt) = false →
      (∀ source, site.locate files channel name = .ok (.found source) ↔
        site.locate files other (literal channel.name name) = .ok (.found source)) ∧
      (∀ path, tidy? (literal channel.name name ++ site.templateExt) = some path →
        (∀ root ∈ site.roots, files.isFile (Path.join root path) = false) →
          site.locate files channel name =
            (if hasPlaceholder (clean name) then .ok (.unmatched path)
            else .error (.templateMissing path)) ∧
          site.locate files other (literal channel.name name) =
            .error (.templateMissing path)) ∧
      (tidy? (literal channel.name name ++ site.templateExt) = none →
        site.locate files channel name = .error (.templateMissing name) ∧
        site.locate files other (literal channel.name name) =
          .error (.templateMissing (literal channel.name name)))) ∧
    (hasPlaceholder (literal channel.name name ++ site.dataExt) = false →
      (∃ path, site.dataPath channel name = .ok path ∧
        site.dataPath other (literal channel.name name) = .ok path) ∨
      (site.dataPath channel name = .error (.dataMissing (Path.join site.dataDir name)) ∧
        site.dataPath other (literal channel.name name) =
          .error (.dataMissing (Path.join site.dataDir (literal channel.name name))))) := by
  constructor
  · intro hplaceless
    have hnamed := relative?_eq_literal hne hplaceless
    have hspelled := relative?_literal hne hplaceless other.name
    refine ⟨fun source => ?_, fun path htidy habsent => ?_, fun htidy => ?_⟩
    · rw [locate_eq_found_iff_of_tidy? hnamed, locate_eq_found_iff_of_tidy? hspelled]
    · rw [htidy, Option.map_some] at hnamed hspelled
      exact ⟨locate_of_absent hnamed habsent, locate_of_absent hspelled habsent⟩
    · rw [htidy, Option.map_none] at hnamed hspelled
      exact ⟨locate_of_refused hnamed, locate_of_refused hspelled⟩
  · intro hplaceless
    have hnamed := relative?_eq_literal hne hplaceless
    have hspelled := relative?_literal hne hplaceless other.name
    cases htidy : tidy? (literal channel.name name ++ site.dataExt) with
    | some path =>
        rw [htidy, Option.map_some] at hnamed hspelled
        exact .inl ⟨_, dataPath_of_relative? hnamed, dataPath_of_relative? hspelled⟩
    | none =>
        rw [htidy, Option.map_none] at hnamed hspelled
        exact .inr ⟨dataPath_of_refused hnamed, dataPath_of_refused hspelled⟩

theorem lookup_literal_of_dotted_channel :
    let files := FileTree.empty.put ["r".toList, "a".toList, "m".toList, "m.html".toList] (.file [])
    literal "./m".toList "a\\%s/%s".toList = "a/./m/./m".toList ∧
      small.locate files ⟨[]⟩ "a/./m/./m".toList =
        .ok (.found ⟨"r".toList, "a/m/m.html".toList⟩) ∧
      small.locate files ⟨"./m".toList⟩ "a\\%s/%s".toList =
        .ok (.found ⟨"r".toList, "a/m/m.html".toList⟩) ∧
      small.locate .empty ⟨"./m".toList⟩ "a\\%s/%s".toList =
        .ok (.unmatched "a/m/m.html".toList) := by
  intro files
  have hfound : small.locate files ⟨[]⟩ "a/./m/./m".toList =
      .ok (.found ⟨"r".toList, "a/m/m.html".toList⟩) := rfl
  have hlookup := fun files => (lookup_literal small files ⟨"./m".toList⟩ ⟨[]⟩
    "a\\%s/%s".toList (by decide)).1 (by decide)
  exact ⟨rfl, hfound, ((hlookup files).1 _).mpr hfound,
    ((hlookup .empty).2.1 "a/m/m.html".toList rfl (by decide)).1⟩

end Site

end Transclusion
