import Transclusion.Text.Basic

namespace Transclusion

/-! Kinds of text that readers of their own take in. What a reader says about a text that it refuses
is left to it. -/

inductive Format where
  | json
  | settings
  | sharedData
  | pattern
  deriving DecidableEq

abbrev Wording := Format → Text → Text

end Transclusion
