import Transclusion.Proofs.Defaults.Merging

namespace Transclusion.Defaults

/-! The data that the templates of a page share depend on the settings only by the types that are
listed there and by which of them differs from page to page. -/

variable {files : FileTree} {fallback : Option Text} {entries : List (Text × Data)}
  {defaults : Defaults} {settings : Settings} {channel : Channel} {page type : Text} {value : Json}

/-- Tables of shared data, with the entries put into them in this order. Those of a file come in
the order of their names. -/
inductive Built (files : FileTree) : Option Text → List (Text × Data) → Defaults → Prop
  | empty (fallback : Option Text) : Built files fallback [] ⟨fallback, []⟩
  | load {path text : Text} {fallback : Option Text} {listed : List (Text × Data)}
      {defaults : Defaults} (read : files.readText path = .ok text)
      (lists : Yaml.Decode.run? listing text = some (fallback, listed))
      (loads : Defaults.load files path = .ok defaults) :
      Built files fallback (Dict.ofList listed) defaults
  | insert {fallback : Option Text} {entries : List (Text × Data)} {defaults : Defaults}
      (built : Built files fallback entries defaults) (key type : Text) (value : Json) :
      Built files fallback (entries ++ [(key, [(type, value)])]) (defaults.insert key type value)

theorem exists_built_of_load {path : Text} (hload : load files path = .ok defaults) :
    ∃ fallback entries, Built files fallback entries defaults := by
  obtain ⟨text, ⟨fallback, listed⟩, htext, hlisting, -⟩ := load_eq_ok_iff.mp hload
  exact ⟨fallback, Dict.ofList listed, .load htext hlisting hload⟩

namespace Built

theorem fallback_eq (hbuilt : Built files fallback entries defaults) :
    defaults.fallback = fallback := by
  induction hbuilt with
  | empty => rfl
  | load htext hlisting hload => rw [eq_ofListing_of_load htext hlisting hload]; rfl
  | insert _ _ _ _ ih => exact ih

theorem direct?_eq (hbuilt : Built files fallback entries defaults) (channel : Channel) :
    defaults.direct? channel type = last? entries channel.name type := by
  induction hbuilt with
  | empty => rfl
  | load htext hlisting hload =>
      rw [eq_ofListing_of_load htext hlisting hload]
      exact direct?_ofChannels (ordered_ofList (ordered_of_run? hlisting)) _ channel
  | insert _ key type value ih =>
      rw [last?_append, last?_singleton, ← ih]
      exact direct?_extend (Dict.Sorted.nil.insert type value) _ channel

end Built

theorem Built.find?_eq (hbuilt : Built files fallback entries defaults) (channel : Channel) :
    defaults.find? channel type = settled? fallback entries channel type := by
  rw [find?_eq_settled? fun channel type => hbuilt.direct?_eq channel, hbuilt.fallback_eq]

section Shares

/-- What a page has of a type. Of the type that differs from page to page, it has the member under
its own path, unless that is null. -/
def Shares (settings : Settings) (page type : Text) (found : Option Json) (value : Json) : Prop :=
  if settings.pageScopedKey? = some type then
    ∃ members, found = some (.object members) ∧ Dict.find? members page = some value ∧
      value ≠ .null
  else found = some value

theorem member?_eq_some_iff {whole : Json} :
    whole.member? page = some value ↔
      ∃ members, whole = .object members ∧ Dict.find? members page = some value := by
  unfold Json.member?
  split <;> simp_all

theorem share?_eq_some_iff :
    defaults.share? settings channel page type = some value ↔
      Shares settings page type (defaults.find? channel type) value := by
  rw [share?, Shares]
  cases defaults.find? channel type with
  | none => split <;> simp
  | some whole =>
      rw [Option.bind_eq_bind, Option.bind_some]
      split
      · cases hmember : whole.member? page with
        | none =>
            refine iff_of_false nofun fun ⟨members, heq, hfind, _⟩ => ?_
            rw [member?_eq_some_iff.mpr ⟨members, Option.some.inj heq, hfind⟩] at hmember
            exact nomatch hmember
        | some present =>
            obtain ⟨members, rfl, hfind⟩ := member?_eq_some_iff.mp hmember
            rw [Option.bind_some]
            split
            · refine iff_of_false nofun fun ⟨_, heq, hnull, hne⟩ => ?_
              cases heq
              exact hne (Option.some.inj (hnull.symm.trans hfind))
            · next hne =>
                constructor
                · intro hvalue
                  cases hvalue
                  exact ⟨members, rfl, hfind, hne⟩
                · rintro ⟨_, heq, hvalue, -⟩
                  cases heq
                  exact hfind.symm.trans hvalue
      · rfl

theorem share?_congr {other : Settings} (hscoped : other.pageScopedKey? = settings.pageScopedKey?) :
    defaults.share? other channel page type = defaults.share? settings channel page type := by
  rw [share?, share?, hscoped]

end Shares

theorem find?_filterMap_keys (make : Text → Option Json) (keys : List Text) (key : Text) :
    Dict.find? (keys.filterMap fun key => (make key).map (key, ·)) key =
      if key ∈ keys then make key else none := by
  induction keys with
  | nil => rfl
  | cons first keys ih =>
      rw [List.filterMap_cons]
      by_cases heq : first = key
      · subst heq
        cases hmake : make first with
        | none => simp [ih, hmake]
        | some value => simp [Dict.find?_cons]
      · cases make first with
        | none => simp [ih, Ne.symm heq]
        | some value => simp [Dict.find?_cons, ih, heq, Ne.symm heq]

theorem find?_shared (defaults : Defaults) (settings : Settings) (channel : Channel)
    (page type : Text) :
    Dict.find? (defaults.shared settings channel page) type =
      if type ∈ settings.staticTypes.map Prod.snd then
        defaults.share? settings channel page type
      else none := by
  have hmap : (settings.staticTypes.filterMap fun entry =>
      (defaults.share? settings channel page entry.2).map (entry.2, ·)) =
      (settings.staticTypes.map Prod.snd).filterMap fun type =>
        (defaults.share? settings channel page type).map (type, ·) := by
    rw [List.filterMap_map]
    rfl
  rw [shared, Dict.find?_ofList, hmap, ← List.filterMap_reverse, find?_filterMap_keys]
  simp only [List.mem_reverse]

theorem shared_settles (hbuilt : Built files fallback entries defaults) (settings : Settings)
    (channel : Channel) (page : Text) :
    (∀ type value, Dict.find? (defaults.shared settings channel page) type = some value ↔
      (∃ name, (name, type) ∈ settings.staticTypes) ∧
        Shares settings page type (settled? fallback entries channel type) value) ∧
    ∀ other : Settings,
      (∀ type, (∃ name, (name, type) ∈ other.staticTypes) ↔
        ∃ name, (name, type) ∈ settings.staticTypes) →
      other.pageScopedKey? = settings.pageScopedKey? →
        defaults.shared other channel page = defaults.shared settings channel page := by
  have hlisted : ∀ (settings : Settings) type,
      type ∈ settings.staticTypes.map Prod.snd ↔ ∃ name, (name, type) ∈ settings.staticTypes := by
    simp
  constructor
  · intro type value
    rw [find?_shared, ← hbuilt.find?_eq, ← share?_eq_some_iff, ← hlisted]
    split
    · next hmem => simp [hmem]
    · next hmem => simp [hmem]
  · intro other htypes hscoped
    refine (Dict.sorted_ofList _).ext (Dict.sorted_ofList _) fun type => ?_
    change Dict.find? (defaults.shared other channel page) type =
      Dict.find? (defaults.shared settings channel page) type
    rw [find?_shared, find?_shared, share?_congr hscoped]
    exact if_congr ((hlisted other type).trans ((htypes type).trans (hlisted settings type).symm))
      rfl rfl

def headed : Settings where
  staticTypes := [("CHECKOUT_HEADER".toList, ['h']), (['X'], ['t']), (['Y'], ['t'])]

def headers : List (Text × Json) := [(['p'], .bool true), (['q'], .null)]

theorem shared_settles_of_headed : ∃ defaults, load (alone ascending) ['d'] = .ok defaults ∧
    let held := defaults.insert ['A'] ['h'] (.object headers)
    let shared := held.shared headed (.ofText ['B']) ['p']
    Dict.find? shared ['h'] = some (.bool true) ∧
      Dict.find? shared ['t'] = some (.string ['y']) := by
  have hload := load_eq_ok_iff.mpr ⟨_, _, readText_alone ascending, listing_ascending, rfl⟩
  have hbuilt := (Built.load (readText_alone ascending) listing_ascending hload).insert
    ['A'] ['h'] (.object headers)
  have hshared := (shared_settles hbuilt headed (.ofText ['B']) ['p']).1
  refine ⟨_, hload, (hshared _ _).mpr ⟨⟨"CHECKOUT_HEADER".toList, by decide⟩, ?_⟩,
    (hshared _ _).mpr ⟨⟨['X'], by decide⟩, ?_⟩⟩
  · rw [Shares, if_pos (by decide)]
    exact ⟨headers, by decide, rfl, nofun⟩
  · rw [Shares, if_neg (by decide)]
    decide

end Transclusion.Defaults
