import Transclusion.Template.Context

namespace Transclusion.Template

/-! What names stand for in a stack of contexts. -/

variable {stack : List Json} {name : Text} {path : List Text} {value found : Json}

inductive Child : Json → Text → Json → Prop where
  | member {members : List (Text × Json)} {name : Text} {value : Json}
      (held : Dict.find? members name = some value) : Child (.object members) name value
  | item {items : List Json} {name : Text} {place : Nat} {value : Json}
      (number : index? name = some place) (held : items[place]? = some value) :
      Child (.array items) name value

inductive Leads : Json → List Text → Json → Prop where
  | here (value : Json) : Leads value [] value
  | step {value inner found : Json} {name : Text} {path : List Text}
      (child : Child value name inner) (rest : Leads inner path found) :
      Leads value (name :: path) found

/-- A name stands for what its path leads to in the innermost context that holds the whole path,
but a dot for the innermost context itself. -/
inductive Names : List Json → Text → Json → Prop where
  | innermost (context : Json) (outer : List Json) : Names (context :: outer) ['.'] context
  | path {inner outer : List Json} {context value : Json} {name : Text} (name_ne : name ≠ ['.'])
      (without : ∀ other ∈ inner, ∀ value, ¬ Leads other (Text.split '.' name) value)
      (leads : Leads context (Text.split '.' name) value) :
      Names (inner ++ context :: outer) name value

theorem child?_eq_some_iff : child? value name = some found ↔ Child value name found := by
  constructor
  · intro hchild
    unfold child? at hchild
    split at hchild
    · exact .member hchild
    · obtain ⟨place, hnumber, hheld⟩ := Option.bind_eq_some_iff.mp hchild
      exact .item hnumber hheld
    · cases hchild
  · intro hchild
    cases hchild with
    | member held => exact held
    | item number held =>
        change (index? name).bind _ = _
        rw [number]
        exact held

theorem descend?_eq_some_iff : descend? value path = some found ↔ Leads value path found := by
  unfold descend?
  induction path generalizing value with
  | nil =>
      constructor
      · intro hfound
        cases hfound
        exact .here _
      · intro hfound
        cases hfound
        rfl
  | cons name path ih =>
      rw [List.foldlM_cons]
      constructor
      · intro hfound
        obtain ⟨inner, hchild, hrest⟩ := Option.bind_eq_some_iff.mp hfound
        exact .step (child?_eq_some_iff.mp hchild) (ih.mp hrest)
      · intro hfound
        cases hfound with
        | step child rest =>
            exact Option.bind_eq_some_iff.mpr ⟨_, child?_eq_some_iff.mpr child, ih.mpr rest⟩

theorem descend?_eq_none_iff : descend? value path = none ↔ ∀ found, ¬ Leads value path found := by
  simp only [Option.eq_none_iff_forall_ne_some, ne_eq, descend?_eq_some_iff]

theorem lookup?_eq_some_iff : lookup? stack name = some value ↔ Names stack name value := by
  unfold lookup?
  split
  · next hdot =>
      subst hdot
      constructor
      · intro hhead
        obtain ⟨outer, rfl⟩ := List.head?_eq_some_iff.mp hhead
        exact .innermost value outer
      · intro hnames
        cases hnames with
        | innermost => rfl
        | path name_ne _ _ => exact absurd rfl name_ne
  · next hdot =>
      rw [List.findSome?_eq_some_iff]
      simp only [descend?_eq_some_iff, descend?_eq_none_iff]
      constructor
      · rintro ⟨inner, context, outer, rfl, hleads, hwithout⟩
        exact .path hdot hwithout hleads
      · intro hnames
        cases hnames with
        | innermost => exact absurd rfl hdot
        | path _ without leads => exact ⟨_, _, _, rfl, leads, without⟩

theorem lookup?_eq_none_iff : lookup? stack name = none ↔ ∀ value, ¬ Names stack name value := by
  simp only [Option.eq_none_iff_forall_ne_some, ne_eq, lookup?_eq_some_iff]

inductive Falsy : Json → Prop where
  | null : Falsy .null
  | false : Falsy (.bool false)
  | zero {number : Number} (zero : number.isZero = true) : Falsy (.number number)
  | emptyText : Falsy (.string [])
  | emptyList : Falsy (.array [])

theorem isTruthy_eq_false_iff : isTruthy (some value) = false ↔ Falsy value := by
  cases value with
  | null => exact ⟨fun _ => .null, fun _ => rfl⟩
  | bool value =>
      cases value with
      | false => exact ⟨fun _ => .false, fun _ => rfl⟩
      | true => exact ⟨fun htruthy => (nomatch htruthy), fun hfalsy => (nomatch hfalsy)⟩
  | number value =>
      constructor
      · intro htruthy
        exact .zero (by simpa [isTruthy] using htruthy)
      · intro hfalsy
        cases hfalsy with
        | zero zero => simp [isTruthy, zero]
  | string text =>
      cases text with
      | nil => exact ⟨fun _ => .emptyText, fun _ => rfl⟩
      | cons c rest => exact ⟨fun htruthy => (nomatch htruthy), fun hfalsy => (nomatch hfalsy)⟩
  | array items =>
      cases items with
      | nil => exact ⟨fun _ => .emptyList, fun _ => rfl⟩
      | cons item rest => exact ⟨fun htruthy => (nomatch htruthy), fun hfalsy => (nomatch hfalsy)⟩
  | object members => exact ⟨fun htruthy => (nomatch htruthy), fun hfalsy => (nomatch hfalsy)⟩

theorem isTruthy_lookup?_eq_false_iff :
    isTruthy (lookup? stack name) = false ↔ ∀ value, Names stack name value → Falsy value := by
  cases hlookup : lookup? stack name with
  | none =>
      have hunnamed := lookup?_eq_none_iff.mp hlookup
      exact ⟨fun _ value hnames => absurd hnames (hunnamed value), fun _ => rfl⟩
  | some value =>
      have hnames := lookup?_eq_some_iff.mp hlookup
      rw [isTruthy_eq_false_iff]
      constructor
      · intro hfalsy other hother
        rw [← lookup?_eq_some_iff, hlookup] at hother
        cases hother
        exact hfalsy
      · exact fun hall => hall value hnames

end Transclusion.Template
