import Transclusion.Text.LowerCase

namespace Transclusion

/-! Channels, such as desktop or mobile. Their names are kept in lower case. -/

structure Channel where
  name : Text
  deriving DecidableEq

namespace Channel

def ofText (text : Text) : Channel :=
  ⟨Text.lower text⟩

end Channel

end Transclusion
