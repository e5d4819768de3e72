import Transclusion.Proofs.Defaults.Listing
import Transclusion.Proofs.Site.Holding

namespace Transclusion.Defaults

/-! Channels whose names differ in case only are brought together. Where several of them have a
type, the greatest name has the say, which is the last in a file only if the names are in order
there. -/

variable {entries before behind : List (Text × Data)} {channels : Dict Data}
  {key name type : Text} {types : Data} {value : Json} {fallback : Option Text}

def offer? (name type : Text) (entry : Text × Data) : Option Json :=
  if Text.lower entry.1 = name then Dict.find? entry.2 type else none

theorem offer?_eq_some_iff {entry : Text × Data} :
    offer? name type entry = some value ↔
      Text.lower entry.1 = name ∧ Dict.find? entry.2 type = some value := by
  unfold offer?
  split <;> simp_all

/-- The last of what entries have of a type for a channel. -/
def last? (entries : List (Text × Data)) (name type : Text) : Option Json :=
  entries.reverse.findSome? (offer? name type)

theorem last?_append :
    last? (before ++ behind) name type = (last? behind name type).or (last? before name type) := by
  rw [last?, List.reverse_append, List.findSome?_append]
  rfl

theorem last?_singleton (entry : Text × Data) :
    last? [entry] name type = offer? name type entry := by
  rw [last?, List.reverse_singleton, List.findSome?_singleton]

theorem last?_cons (entry : Text × Data) :
    last? (entry :: behind) name type = (last? behind name type).or (offer? name type entry) := by
  rw [← List.singleton_append, last?_append, last?_singleton]

theorem last?_eq_some_iff :
    last? entries name type = some value ↔
      ∃ before entry behind, entries = before ++ entry :: behind ∧
        offer? name type entry = some value ∧ ∀ later ∈ behind, offer? name type later = none := by
  rw [last?, List.findSome?_eq_some_iff]
  constructor
  · rintro ⟨behind, entry, before, heq, hoffer, hlater⟩
    refine ⟨before.reverse, entry, behind.reverse, ?_, hoffer, fun later hmem =>
      hlater later (List.mem_reverse.mp hmem)⟩
    rw [← List.reverse_reverse entries, heq]
    simp
  · rintro ⟨before, entry, behind, rfl, hoffer, hlater⟩
    refine ⟨behind.reverse, entry, before.reverse, by simp, hoffer, fun later hmem =>
      hlater later (List.mem_reverse.mp hmem)⟩

/-- What there is of a type for a channel, or else for the channel that stands in. -/
def settled? (fallback : Option Text) (entries : List (Text × Data)) (channel : Channel)
    (type : Text) : Option Json :=
  (last? entries channel.name type).or
    (fallback.bind fun usual => last? entries (Text.lower usual) type)

theorem find?_eq_settled? {defaults : Defaults}
    (hdirect : ∀ channel type, defaults.direct? channel type = last? entries channel.name type)
    (channel : Channel) (type : Text) :
    defaults.find? channel type = settled? defaults.fallback entries channel type := by
  rw [find?, settled?, hdirect, Option.bind_map]
  exact congrArg (Option.or _) (Option.bind_congr fun usual _ => hdirect (.ofText usual) type)

section Gathering

theorem direct?_extend (hsorted : Dict.Sorted types) (fallback : Option Text) (channel : Channel) :
    direct? ⟨fallback, extend channels key types⟩ channel type =
      (offer? channel.name type (key, types)).or (direct? ⟨fallback, channels⟩ channel type) := by
  simp only [direct?, extend, Channel.ofText, Dict.find?_insert, offer?]
  by_cases hname : Text.lower key = channel.name
  · rw [if_pos hname, if_pos hname, Option.bind_some, hsorted.find?_overlay, hname]
    cases Dict.find? channels channel.name <;> rfl
  · rw [if_neg hname, if_neg hname, Option.none_or]

theorem direct?_foldl_extend (hordered : Ordered entries) (fallback : Option Text)
    (channel : Channel) :
    direct? ⟨fallback, entries.foldl (fun gathered entry => extend gathered entry.1 entry.2)
        channels⟩ channel type =
      (last? entries channel.name type).or (direct? ⟨fallback, channels⟩ channel type) := by
  induction entries generalizing channels with
  | nil => rfl
  | cons entry entries ih =>
      obtain ⟨hentry, hentries⟩ := List.forall_mem_cons.mp hordered
      rw [List.foldl_cons, ih hentries, direct?_extend hentry, last?_cons, Option.or_assoc]

theorem direct?_ofChannels (hordered : Ordered entries) (fallback : Option Text)
    (channel : Channel) :
    direct? (ofChannels fallback entries) channel type = last? entries channel.name type := by
  rw [ofChannels, direct?_foldl_extend hordered]
  exact Option.or_none

theorem contains_foldl_extend :
    Dict.contains (entries.foldl (fun gathered entry => extend gathered entry.1 entry.2) channels)
        name = true ↔
      (∃ entry ∈ entries, Text.lower entry.1 = name) ∨ Dict.contains channels name = true := by
  induction entries generalizing channels with
  | nil => simp
  | cons entry entries ih =>
      rw [List.foldl_cons, ih, extend, Dict.contains_insert, List.exists_mem_cons_iff,
        Bool.or_eq_true, beq_iff_eq, or_left_comm, or_assoc]
      rfl

theorem mem_keys_ofChannels (fallback : Option Text) :
    name ∈ Dict.keys (ofChannels fallback entries).channels ↔
      ∃ entry ∈ entries, Text.lower entry.1 = name := by
  rw [← Dict.contains_iff_mem_keys, ofChannels, contains_foldl_extend]
  exact or_iff_left Bool.false_ne_true

end Gathering

section Order

/-- The greatest of the names under which there is a type for a channel has the value. -/
def Greatest (entries : List (Text × Data)) (name type : Text) (value : Json) : Prop :=
  ∃ entry ∈ entries, offer? name type entry = some value ∧
    ∀ other ∈ entries, (offer? name type other).isSome → other.1 ≤ entry.1

/-- Wherever a type is there for a channel under several names, what the last of them has is what
the greatest has. -/
def InOrder (entries : List (Text × Data)) : Prop :=
  ∀ name type value, last? entries name type = some value → Greatest entries name type value

theorem inOrder_of_pairwise
    (hpairwise : entries.Pairwise fun entry later =>
      Text.lower entry.1 = Text.lower later.1 → entry.1 < later.1) :
    InOrder entries := by
  intro name type value hlast
  obtain ⟨before, entry, behind, rfl, hoffer, hlater⟩ := last?_eq_some_iff.mp hlast
  refine ⟨entry, List.mem_append_right _ List.mem_cons_self, hoffer, fun other hmem hother => ?_⟩
  obtain ⟨offered, hoffered⟩ := Option.isSome_iff_exists.mp hother
  rcases List.mem_append.mp hmem with hbefore | hbehind
  · have hlt := (List.pairwise_append.mp hpairwise).2.2 other hbefore entry List.mem_cons_self
    have hname := (offer?_eq_some_iff.mp hoffered).1.trans (offer?_eq_some_iff.mp hoffer).1.symm
    exact le_of_lt (hlt hname)
  · rcases List.mem_cons.mp hbehind with rfl | hbehind
    · exact le_rfl
    · rw [hlater other hbehind] at hother
      exact nomatch hother

variable (hdistinct : (Dict.keys entries).Nodup)
include hdistinct

theorem mem_ofList {entry : Text × Data} : entry ∈ Dict.ofList entries ↔ entry ∈ entries := by
  rw [← Dict.find?_ofList_of_nodup hdistinct, (Dict.sorted_ofList entries).mem_iff_find?]

theorem last?_ofList :
    last? (Dict.ofList entries) name type = some value ↔ Greatest entries name type value := by
  have hsorted := Dict.sorted_ofList entries
  rw [last?_eq_some_iff]
  constructor
  · rintro ⟨before, ⟨key, types⟩, behind, heq, hoffer, hlater⟩
    have hmem : (key, types) ∈ entries := by
      rw [← mem_ofList hdistinct, heq]
      exact List.mem_append_right _ List.mem_cons_self
    refine ⟨(key, types), hmem, hoffer, fun other hother hsome => ?_⟩
    rw [← mem_ofList hdistinct, heq] at hother
    rw [heq] at hsorted
    rcases List.mem_append.mp hother with hbefore | hbehind
    · exact le_of_lt (hsorted.lt_of_append.1 other.1 (List.mem_map_of_mem hbefore))
    · rcases List.mem_cons.mp hbehind with rfl | hbehind
      · exact le_rfl
      · rw [hlater other hbehind] at hsome
        exact nomatch hsome
  · rintro ⟨⟨key, types⟩, hmem, hoffer, hgreatest⟩
    obtain ⟨before, behind, heq⟩ := List.append_of_mem ((mem_ofList hdistinct).mpr hmem)
    refine ⟨before, (key, types), behind, heq, hoffer, fun later hlater => ?_⟩
    rw [heq] at hsorted
    have hlt := hsorted.lt_of_append.2 later.1 (List.mem_map_of_mem hlater)
    have hentry : later ∈ entries := by
      rw [← mem_ofList hdistinct, heq]
      exact List.mem_append_right _ (List.mem_cons_of_mem _ hlater)
    -- A greater name that had the type would come after the greatest.
    by_contra hne
    exact absurd (hgreatest later hentry (Option.isSome_iff_ne_none.mpr hne)) (not_le_of_gt hlt)

theorem last?_ofList_eq_iff_inOrder :
    (∀ name type, last? (Dict.ofList entries) name type = last? entries name type) ↔
      InOrder entries := by
  constructor
  · intro heq name type value hlast
    exact (last?_ofList hdistinct).mp ((heq name type).trans hlast)
  · intro horder name type
    cases hlast : last? entries name type with
    | some value => exact (last?_ofList hdistinct).mpr (horder name type value hlast)
    | none =>
        rw [Option.eq_none_iff_forall_ne_some]
        intro value hfound
        obtain ⟨entry, hmem, hoffer, -⟩ := (last?_ofList hdistinct).mp hfound
        have hnone := List.findSome?_eq_none_iff.mp hlast entry (List.mem_reverse.mpr hmem)
        rw [hoffer] at hnone
        exact nomatch hnone

end Order

theorem ordered_ofList (hordered : Ordered entries) : Ordered (Dict.ofList entries) := by
  intro entry hmem
  have hfind := (Dict.sorted_ofList entries).mem_iff_find?.mp hmem
  rw [Dict.find?_ofList] at hfind
  exact hordered entry (List.mem_reverse.mp (Dict.mem_of_find?_eq_some hfind))

section Loading

variable {files : FileTree} {path text : Text} {listed : List (Text × Data)}

/-- What a file lists for channels is what they have, the last of several names having the say,
exactly if the names are in order. -/
theorem load_merges (htext : files.readText path = .ok text)
    (hlisting : Yaml.Decode.run? listing text = some (fallback, listed))
    (hdistinct : (Dict.keys listed).Nodup) :
    ∃ defaults, load files path = .ok defaults ∧
      (∀ name, name ∈ Dict.keys defaults.channels ↔ ∃ entry ∈ listed, Text.lower entry.1 = name) ∧
      (∀ channel type value, defaults.direct? channel type = some value ↔
        Greatest listed channel.name type value) ∧
      ((∀ channel type, defaults.direct? channel type = last? listed channel.name type) ↔
        InOrder listed) ∧
      (InOrder listed → ∀ channel type,
        defaults.find? channel type = settled? fallback listed channel type) := by
  have hordered := ordered_ofList (ordered_of_run? hlisting)
  have hdirect : ∀ channel type, direct? (ofListing (fallback, listed)) channel type =
      last? (Dict.ofList listed) channel.name type :=
    fun channel type => direct?_ofChannels hordered fallback channel
  have hload := load_eq_ok_iff.mpr ⟨text, _, htext, hlisting, rfl⟩
  refine ⟨_, hload, fun name => ?_, fun channel type value => ?_, ?_, fun horder => ?_⟩
  · rw [ofListing, mem_keys_ofChannels]
    simp only [mem_ofList hdistinct]
  · rw [hdirect, last?_ofList hdistinct]
  · rw [← last?_ofList_eq_iff_inOrder hdistinct]
    simp only [hdirect]
    exact ⟨fun heq name => heq ⟨name⟩, fun heq channel => heq channel.name⟩
  · refine find?_eq_settled? fun channel type => ?_
    rw [hdirect, (last?_ofList_eq_iff_inOrder hdistinct).mpr horder]

def alone (text : String) : FileTree :=
  FileTree.empty.put [['d']] (.file (Text.toUtf8 text.toList))

theorem readText_alone (text : String) : (alone text).readText ['d'] = .ok text.toList := by
  have hlook : (alone text).look ['d'] = .ok (.file (Text.toUtf8 text.toList)) := rfl
  rw [FileTree.readText, FileTree.readBytes, hlook]
  simp only [Text.ofUtf8?_toUtf8, Option.elim_some]

def ascending : String :=
  "default_channel: A\nchannels:\n  A:\n    t: x\n    u: z\n  a:\n    t: y\n"

theorem listing_ascending : Yaml.Decode.run? listing ascending.toList = some (some ['A'],
    [(['A'], [(['t'], .string ['x']), (['u'], .string ['z'])]),
      (['a'], [(['t'], .string ['y'])])]) := by
  decide +kernel

theorem load_merges_of_ascending :
    ∃ defaults, load (alone ascending) ['d'] = .ok defaults ∧
      defaults.find? (.ofText ['A']) ['t'] = some (.string ['y']) ∧
      defaults.find? (.ofText ['B']) ['u'] = some (.string ['z']) := by
  obtain ⟨defaults, hload, -, -, -, hfind⟩ :=
    load_merges (readText_alone ascending) listing_ascending (by decide)
  have horder := hfind (inOrder_of_pairwise (by decide))
  exact ⟨defaults, hload, (horder _ _).trans (by decide), (horder _ _).trans (by decide)⟩

def descending : String := "channels:\n  a:\n    t: x\n  A:\n    t: y\n"

theorem last_name_overruled : ¬ ∀ (files : FileTree) (path text : Text) (fallback : Option Text)
    (listed : List (Text × Data)), files.readText path = .ok text →
      Yaml.Decode.run? listing text = some (fallback, listed) → (Dict.keys listed).Nodup →
        ∃ defaults, load files path = .ok defaults ∧ ∀ channel type,
          defaults.direct? channel type = last? listed channel.name type := by
  intro hlast
  have hlisting : Yaml.Decode.run? listing descending.toList = some (none,
      [(['a'], [(['t'], .string ['x'])]), (['A'], [(['t'], .string ['y'])])]) := by
    decide +kernel
  obtain ⟨defaults, hload, hdirect⟩ :=
    hlast _ _ _ _ _ (readText_alone descending) hlisting (by decide)
  rw [eq_ofListing_of_load (readText_alone descending) hlisting hload] at hdirect
  exact absurd (hdirect (.ofText ['a']) ['t']) (by decide)

end Loading

end Transclusion.Defaults
