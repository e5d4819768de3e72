import Transclusion.Text.Basic

namespace Transclusion

/-! Text as bytes. -/

abbrev Bytes := List UInt8

namespace Text

def toUtf8 (text : Text) : Bytes :=
  text.flatMap String.utf8EncodeChar

def ofUtf8? (bytes : Bytes) : Option Text :=
  bytes.toByteArray.utf8Decode?.map Array.toList

@[simp] theorem toUtf8_nil : toUtf8 [] = [] := rfl

@[simp] theorem toUtf8_append (first second : Text) :
    toUtf8 (first ++ second) = toUtf8 first ++ toUtf8 second := by
  simp [toUtf8]

@[simp] theorem ofUtf8?_toUtf8 (text : Text) : ofUtf8? (toUtf8 text) = some text := by
  have h : (toUtf8 text).toByteArray = text.utf8Encode := rfl
  simp [ofUtf8?, h, List.utf8Decode?_utf8Encode]

end Text

end Transclusion
