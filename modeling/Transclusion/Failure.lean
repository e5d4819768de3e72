import Transclusion.Settings.Error
import Transclusion.Template.Error

namespace Transclusion

inductive Failure where
  | templateMissing (path : Text)
  | dataMissing (path : Text)
  | dataMalformed (path text : Text)
  | dataNotObject (path : Text)
  | unregistered (key : Text)
  /-- Templates include one another in a circle, or more deeply than allowed. -/
  | cycle (chain : List Text)
  | malformed (directive : Text)
  | unreadable (path : Text) (fault : Fault)
  | template (error : TemplateError)
  | settings (error : SettingsError)
  deriving DecidableEq

namespace Failure

def arrow : Text := [' ', '-', '>', ' ']

def message (wording : Wording) : Failure → Text
  | .templateMissing path => "Partial file not found: ".toList ++ path
  | .dataMissing path => "Data file not found: ".toList ++ path
  | .dataMalformed path text =>
      "failed to parse data file ".toList ++ path ++ [':', ' '] ++ wording .json text
  | .dataNotObject path =>
      "data file ".toList ++ path ++ " must contain a JSON object".toList
  | .unregistered key => "directive '".toList ++ key ++ "' was never registered".toList
  | .cycle chain => "partial cycle detected: ".toList ++ Text.join arrow chain
  | .malformed directive => "malformed directive '".toList ++ directive ++ ['\x27']
  | .unreadable path fault =>
      "I/O error at ".toList ++ path ++ [':', ' '] ++ fault.message.toList
  | .template error => "render error: ".toList ++ error.message
  | .settings error => "config error: ".toList ++ error.message wording

def causes (wording : Wording) (failure : Failure) : List Text :=
  let own := failure.message wording
  match failure with
  | .dataMalformed _ text => [own, wording .json text]
  | .unreadable _ fault => [own, fault.message.toList]
  | .template error => [own, error.message]
  | .settings error => own :: error.causes wording
  | _ => [own]

end Failure

end Transclusion
