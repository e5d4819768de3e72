import Transclusion.File.Path
import Transclusion.Text.Utf8

namespace Transclusion

/-! The files that a run can see, as a value. Places are lists of names from the root of the file
system down. -/

inductive FileNode where
  | file (content : Bytes)
  | directory
  deriving DecidableEq

inductive Fault where
  | missing
  | notDirectory
  | isDirectory
  | nameTooLong
  | nulInName
  | notUtf8
  deriving DecidableEq

def Fault.message : Fault → String
  | .missing => "No such file or directory (os error 2)"
  | .notDirectory => "Not a directory (os error 20)"
  | .isDirectory => "Is a directory (os error 21)"
  | .nameTooLong => "File name too long (os error 36)"
  | .nulInName => "file name contained an unexpected NUL byte"
  | .notUtf8 => "stream did not contain valid UTF-8"

structure FileTree where
  /-- The working directory. It is there, and so are all above it. -/
  home : List Text
  nodes : List (List Text × FileNode)

namespace FileTree

def empty : FileTree := ⟨[], []⟩

def at? (tree : FileTree) (place : List Text) : Option FileNode :=
  if place.isPrefixOf tree.home then some .directory else tree.nodes.lookup place

def erase (tree : FileTree) (place : List Text) : FileTree :=
  { tree with nodes := tree.nodes.filter fun node => node.1 != place }

/-- Puts a node at a place, and directories above it where there are none. -/
def put (tree : FileTree) (place : List Text) (node : FileNode) : FileTree :=
  let above : List (List Text) :=
    ((List.range place.length).map place.take).filter fun upper => (tree.at? upper).isNone
  { tree with
    nodes := (place, node) :: (above.map fun upper => (upper, .directory)) ++
      (tree.erase place).nodes }

/-- The longest name of a file, and one more than the longest path, in bytes. -/
def nameLimit : Nat := 255

def pathLimit : Nat := 4096

/-- Where a name leads to from a place. Above the root there is the root again. -/
def stepFrom (place : List Text) (name : Text) : List Text :=
  if Path.isIdle name then place
  else if name == ['.', '.'] then place.dropLast
  else place ++ [name]

def walk (tree : FileTree) (place : List Text) : List Text → Except Fault FileNode
  | [] => (tree.at? place).elim (.error .missing) .ok
  | name :: names =>
      match tree.at? place with
      | none => .error .missing
      | some (.file _) => .error .notDirectory
      | some .directory =>
          if Text.byteSize name > nameLimit then .error .nameTooLong
          else walk tree (stepFrom place name) names

def start (tree : FileTree) (path : Text) : List Text :=
  if Path.isAbsolute path then [] else tree.home

def look (tree : FileTree) (path : Text) : Except Fault FileNode :=
  if path.isEmpty then .error .missing
  else if path.contains '\x00' then .error .nulInName
  else if Text.byteSize path ≥ pathLimit then .error .nameTooLong
  else walk tree (tree.start path) (Text.split '/' path)

def isFile (tree : FileTree) (path : Text) : Bool :=
  match tree.look path with
  | .ok (.file _) => true
  | _ => false

def isDirectory (tree : FileTree) (path : Text) : Bool :=
  match tree.look path with
  | .ok .directory => true
  | _ => false

def isPresent (tree : FileTree) (path : Text) : Bool :=
  match tree.look path with
  | .ok _ => true
  | .error _ => false

def readBytes (tree : FileTree) (path : Text) : Except Fault Bytes :=
  match tree.look path with
  | .ok (.file content) => .ok content
  | .ok .directory => .error .isDirectory
  | .error fault => .error fault

def readText (tree : FileTree) (path : Text) : Except Fault Text :=
  match tree.readBytes path with
  | .ok content => (Text.ofUtf8? content).elim (.error .notUtf8) .ok
  | .error fault => .error fault

theorem stepFrom_of_isIdle {name : Text} (place : List Text) (hidle : Path.isIdle name = true) :
    stepFrom place name = place := by
  simp [stepFrom, hidle]

theorem walk_nil_eq_ok_iff {tree : FileTree} {place : List Text} {node : FileNode} :
    tree.walk place [] = .ok node ↔ tree.at? place = some node := by
  cases hat : tree.at? place <;> simp [walk, hat]

theorem walk_cons_eq_ok_iff {tree : FileTree} {place names : List Text} {name : Text}
    {node : FileNode} :
    tree.walk place (name :: names) = .ok node ↔
      tree.at? place = some .directory ∧ Text.byteSize name ≤ nameLimit ∧
        tree.walk (stepFrom place name) names = .ok node := by
  rw [walk]
  cases tree.at? place with
  | none => simp
  | some found =>
      cases found with
      | file content => simp
      | directory =>
          by_cases hsize : Text.byteSize name > nameLimit
          · simp [hsize, Nat.not_le.mpr hsize]
          · simp [hsize, Nat.not_lt.mp hsize]

theorem walk_of_look {tree : FileTree} {path : Text} {node : FileNode}
    (hlook : tree.look path = .ok node) :
    tree.walk (tree.start path) (Text.split '/' path) = .ok node := by
  unfold look at hlook
  split at hlook
  · cases hlook
  · split at hlook
    · cases hlook
    · split at hlook
      · cases hlook
      · exact hlook

theorem readText_congr {first second : FileTree} {path : Text}
    (h : first.look path = second.look path) : first.readText path = second.readText path := by
  simp [readText, readBytes, h]

theorem isFile_congr {first second : FileTree} {path : Text}
    (h : first.look path = second.look path) : first.isFile path = second.isFile path := by
  simp [isFile, h]

end FileTree

end Transclusion
