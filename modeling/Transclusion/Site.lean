import Transclusion.Channel
import Transclusion.Failure
import Transclusion.Json.Read
import Transclusion.Reference

namespace Transclusion

/-! Where templates and their data are kept. A template may lie below any of several roots, of
which the first that has it counts. -/

structure Site where
  roots : List Text
  dataDir : Text
  templateExt : Text
  dataExt : Text

structure Source where
  root : Text
  relative : Text
  deriving DecidableEq

def Source.full (source : Source) : Text :=
  Path.join source.root source.relative

inductive Located where
  | found (source : Source)
  | unmatched (relative : Text)
  deriving DecidableEq

/-- A template as it is read. Where the channel has no variant of its own, it is empty. -/
structure Loaded where
  source : Option Source
  content : Text
  deriving DecidableEq

namespace Site

def holder? (site : Site) (files : FileTree) (relative : Text) : Option Source :=
  (site.roots.find? fun root => files.isFile (Path.join root relative)).map (⟨·, relative⟩)

def locate (site : Site) (files : FileTree) (channel : Channel) (name : Text) : Except Failure Located :=
  match Reference.relative? site.templateExt channel.name name with
  | none => .error (.templateMissing name)
  | some relative =>
      match site.holder? files relative.path with
      | some source => .ok (.found source)
      | none =>
          if relative.channelled then .ok (.unmatched relative.path)
          else .error (.templateMissing relative.path)

def dataPath (site : Site) (channel : Channel) (name : Text) : Except Failure Text :=
  match Reference.relative? site.dataExt channel.name name with
  | none => .error (.dataMissing (Path.join site.dataDir name))
  | some relative => .ok (Path.join site.dataDir relative.path)

def loadTemplate (site : Site) (files : FileTree) (channel : Channel) (name : Text) :
    Except Failure Loaded := do
  match ← site.locate files channel name with
  | .unmatched _ => return ⟨none, []⟩
  | .found source =>
      match files.readText source.full with
      | .ok content => return ⟨some source, content⟩
      | .error .missing => throw (.templateMissing source.relative)
      | .error fault => throw (.unreadable source.full fault)

/-- The data that goes with a name. No name, or an empty one, asks for none. -/
def loadData (site : Site) (files : FileTree) (channel : Channel) (name : Option Text) :
    Except Failure (Option Data) := do
  match name.filter (!·.isEmpty) with
  | none => return none
  | some name =>
      let path ← site.dataPath channel name
      match files.readText path with
      | .error .missing => throw (.dataMissing path)
      | .error fault => throw (.unreadable path fault)
      | .ok text =>
          match Json.read? text with
          | none => throw (.dataMalformed path text)
          | some (.object members) => return some members
          | some _ => throw (.dataNotObject path)

theorem holder?_relative {site : Site} {files : FileTree} {relative : Text} {source : Source}
    (h : site.holder? files relative = some source) : source.relative = relative := by
  obtain ⟨root, -, rfl⟩ := Option.map_eq_some_iff.mp h
  rfl

theorem holder?_root {site : Site} {files : FileTree} {relative : Text} {source : Source}
    (h : site.holder? files relative = some source) : source.root ∈ site.roots := by
  obtain ⟨root, hfind, rfl⟩ := Option.map_eq_some_iff.mp h
  exact List.mem_of_find?_eq_some hfind

theorem holder?_isFile {site : Site} {files : FileTree} {relative : Text} {source : Source}
    (h : site.holder? files relative = some source) : files.isFile source.full = true := by
  obtain ⟨root, hfind, rfl⟩ := Option.map_eq_some_iff.mp h
  have hfile := List.find?_some hfind
  exact hfile

end Site

end Transclusion
