import Transclusion.File.Tree
import Transclusion.Wording

namespace Transclusion

inductive SettingsError where
  | missing (path : Text)
  | unreadable (path : Text) (fault : Fault)
  | malformed (path : Text) (format : Format) (text : Text)
  | badPattern (pattern : Text)
  | noRoots
  deriving DecidableEq

namespace SettingsError

def message (wording : Wording) : SettingsError → Text
  | .missing path => "configuration not found at ".toList ++ path
  | .unreadable path fault =>
      "I/O error at ".toList ++ path ++ [':', ' '] ++ fault.message.toList
  | .malformed path format text =>
      "failed to parse ".toList ++ path ++ [':', ' '] ++ wording format text
  | .badPattern pattern =>
      "invalid exclude pattern '".toList ++ pattern ++ "': ".toList ++ wording .pattern pattern
  | .noRoots => "configuration declares no template root directories".toList

def causes (wording : Wording) (error : SettingsError) : List Text :=
  let own := error.message wording
  match error with
  | .unreadable _ fault => [own, fault.message.toList]
  | .malformed _ format text => [own, wording format text]
  | .badPattern pattern => [own, wording .pattern pattern]
  | .missing _ | .noRoots => [own]

end SettingsError

end Transclusion
