import Transclusion.Defaults.Read
import Transclusion.Proofs.Dict.Order

namespace Transclusion

/-! What a file of shared data lists, before its channels are brought together. -/

namespace Yaml.Decode

variable {α β : Type} {holds : α → Prop} {further : β → Prop} {decode : Decode α}

/-- Whatever is read has the property. -/
def Yields (holds : α → Prop) (decode : Decode α) : Prop :=
  ∀ document room value left, decode document room = some (value, left) → holds value

namespace Yields

theorem pure {value : α} (hvalue : holds value) : Yields holds (pure value) := by
  intro document room found left hfound
  cases hfound
  exact hvalue

theorem failure : Yields holds failure := nofun

theorem bind {next : α → Decode β} (hdecode : Yields holds decode)
    (hnext : ∀ value, holds value → Yields further (next value)) :
    Yields further (decode >>= next) := by
  intro document room found left hfound
  obtain ⟨⟨value, rest⟩, hvalue, hrest⟩ := Option.bind_eq_some_iff.mp hfound
  exact hnext value (hdecode document room value rest hvalue) document rest found left hrest

theorem of_any {next : α → Decode β} (hnext : ∀ value, Yields further (next value)) :
    Yields further (decode >>= next) := by
  have hany : Yields (fun _ => True) decode := fun _ _ _ _ _ => trivial
  exact hany.bind fun value _ => hnext value

theorem map {change : α → β} (hdecode : Yields holds decode)
    (hchange : ∀ value, holds value → further (change value)) :
    Yields further (change <$> decode) := by
  rw [← bind_pure_comp]
  exact hdecode.bind fun value hvalue => .pure (hchange value hvalue)

theorem mapM {items : List β} {read : β → Decode α} (hread : ∀ item, Yields holds (read item)) :
    Yields (fun values => ∀ value ∈ values, holds value) (items.mapM read) := by
  induction items with
  | nil => exact .pure fun _ hmem => absurd hmem List.not_mem_nil
  | cons item items ih =>
      rw [List.mapM_cons]
      refine (hread item).bind fun value hvalue => ih.bind fun values hvalues => .pure ?_
      intro other hmem
      rcases List.mem_cons.mp hmem with rfl | hmem
      · exact hvalue
      · exact hvalues other hmem

theorem foldlM {items : List β} {read : α → β → Decode α} {start : α} (hstart : holds start)
    (hread : ∀ value item, holds value → Yields holds (read value item)) :
    Yields holds (items.foldlM read start) := by
  induction items generalizing start with
  | nil => exact .pure hstart
  | cons item items ih =>
      rw [List.foldlM_cons]
      exact (hread start item hstart).bind fun _ hvalue => ih hvalue

end Yields

theorem yields_entries {read : Node → Decode α} (hread : ∀ node, Yields holds (read node))
    (node : Node) : Yields (fun found => ∀ entry ∈ found, holds entry.2) (entries read node) := by
  refine .of_any fun node => ?_
  split
  · refine .mapM fun entry => .of_any fun key => (hread entry.2).bind fun value hvalue => ?_
    exact .pure hvalue
  · split
    · exact .pure fun _ hmem => absurd hmem List.not_mem_nil
    · exact .failure

theorem yields_dict (read : Node → Decode α) (node : Node) :
    Yields Dict.Sorted (dict read node) := by
  have hany : Yields (fun _ => True) (entries read node) := fun _ _ _ _ _ => trivial
  exact hany.map fun found _ => Dict.sorted_ofList found

theorem map_apply (change : α → β) (decode : Decode α) (document : Document) (room : Nat) :
    (change <$> decode) document room =
      (decode document room).map fun found => (change found.1, found.2) := by
  change (decode document room).bind (fun found => some (change found.1, found.2)) = _
  cases decode document room <;> rfl

theorem run?_map (change : α → β) (read : Node → Decode α) (text : Text) :
    run? (fun node => change <$> read node) text = (run? read text).map change := by
  rw [run?, run?]
  cases Document.read? text with
  | none => rfl
  | some document =>
      simp only [Option.bind_eq_bind, Option.bind_some, map_apply]
      cases read (document.root.getD .absent) document (aliasLimit * document.marks) <;> rfl

end Yaml.Decode

namespace Settings

theorem readFile_eq_ok_iff {α : Type} {format : Format} {read : Yaml.Node → Yaml.Decode α}
    {files : FileTree} {path : Text} {value : α} :
    readFile format read files path = .ok value ↔
      ∃ text, files.readText path = .ok text ∧ Yaml.Decode.run? read text = some value := by
  rw [readFile, FileTree.readText, FileTree.readBytes, FileTree.isPresent]
  cases files.look path with
  | error fault => simp
  | ok node =>
      simp only [Bool.not_true, Bool.false_eq_true, if_false]
      split
      · next hread => simp [hread]
      · next text hread =>
          rw [hread]
          cases hrun : Yaml.Decode.run? read text <;> simp [hrun]

end Settings

namespace Defaults

open Yaml

def Ordered (channels : List (Text × Data)) : Prop :=
  ∀ entry ∈ channels, Dict.Sorted entry.2

theorem yields_readField {channels : List (Text × Data)} (hordered : Ordered channels)
    (fallback : Option Text) (name : Text) (node : Node) :
    Decode.Yields (fun listed => Ordered listed.2) (readField fallback channels name node) := by
  unfold readField
  split
  · exact .of_any fun _ => .pure hordered
  · exact (Decode.yields_entries (Decode.yields_dict _) node).bind fun _ hfound => .pure hfound
  · exact .pure hordered

theorem yields_listing (node : Node) :
    Decode.Yields (fun listed => Ordered listed.2) (listing node) := by
  refine .of_any fun fields => .foldlM (fun _ hmem => absurd hmem List.not_mem_nil) ?_
  exact fun listed field hordered => yields_readField hordered listed.1 field.1 field.2

variable {files : FileTree} {path text : Text} {fallback : Option Text}
  {channels : List (Text × Data)}

theorem ordered_of_run? (hrun : Decode.run? listing text = some (fallback, channels)) :
    Ordered channels := by
  obtain ⟨document, -, hrun⟩ := Option.bind_eq_some_iff.mp hrun
  obtain ⟨⟨listed, left⟩, hlisting, heq⟩ := Option.bind_eq_some_iff.mp hrun
  cases heq
  exact yields_listing _ _ _ _ _ hlisting

theorem load_eq_ok_iff {defaults : Defaults} :
    load files path = .ok defaults ↔ ∃ text listed, files.readText path = .ok text ∧
      Decode.run? listing text = some listed ∧ ofListing listed = defaults := by
  rw [load, Settings.readFile_eq_ok_iff]
  refine exists_congr fun text => ?_
  change _ ∧ Decode.run? (fun node => ofListing <$> listing node) text = some defaults ↔ _
  rw [Decode.run?_map, Option.map_eq_some_iff, exists_and_left]

theorem eq_ofListing_of_load {defaults : Defaults} (htext : files.readText path = .ok text)
    (hlisting : Decode.run? listing text = some (fallback, channels))
    (hload : load files path = .ok defaults) : defaults = ofListing (fallback, channels) := by
  rw [load_eq_ok_iff.mpr ⟨text, _, htext, hlisting, rfl⟩] at hload
  exact (Except.ok.inj hload).symm

end Defaults

end Transclusion
