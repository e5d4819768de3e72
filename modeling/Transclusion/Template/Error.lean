import Transclusion.Text.Basic

namespace Transclusion

inductive TemplateError where
  | unsupportedTag (tag : Text)
  | unclosedSection (name : Text)
  | unopenedSection (name : Text)
  deriving DecidableEq

def TemplateError.message : TemplateError → Text
  | .unsupportedTag tag => "unsupported template tag '".toList ++ tag ++ ['\x27']
  | .unclosedSection name => "section '".toList ++ name ++ "' is never closed".toList
  | .unopenedSection name =>
      "closing tag for '".toList ++ name ++ "' has no open section".toList

end Transclusion
