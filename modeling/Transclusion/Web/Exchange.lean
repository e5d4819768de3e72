import Transclusion.Text.Utf8

namespace Transclusion.Web

/-! What is asked of a server, and what it answers. -/

structure Uri where
  path : Text
  query : Option Text
  deriving DecidableEq

namespace Uri

def ofText (text : Text) : Uri :=
  let text := text.takeWhile (· != '#')
  match Text.breakAt? ['?'] text with
  | some (path, query) => ⟨path, some query⟩
  | none => ⟨text, none⟩

def text (uri : Uri) : Text :=
  uri.path ++ uri.query.elim [] ('?' :: ·)

def slashed (uri : Uri) : Uri :=
  { uri with path := uri.path ++ ['/'] }

end Uri

structure Answer where
  status : Nat
  contentType : Option Text
  location : Option Text
  allow : Option Text
  body : Bytes
  /-- The length of the body, even where the body itself is left out. -/
  length : Nat
  deriving DecidableEq

namespace Answer

def empty (status : Nat) : Answer where
  status := status
  contentType := none
  location := none
  allow := none
  body := []
  length := 0

def ofBody (status : Nat) (contentType : Text) (body : Bytes) : Answer :=
  { empty status with contentType := some contentType, body, length := body.length }

@[simp] theorem body_ofBody (status : Nat) (contentType : Text) (body : Bytes) :
    (ofBody status contentType body).body = body := rfl

def withoutBody (answer : Answer) : Answer :=
  { answer with body := [] }

end Answer

end Transclusion.Web
