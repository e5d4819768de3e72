import Transclusion.File.Tree
import Transclusion.Text.Percent
import Transclusion.Web.Exchange
import Transclusion.Web.MediaType

namespace Transclusion.Web

/-! Files that are served as they are. -/

/-- The path below a directory that an address leads to. None leads above the directory. -/
def assetPath? (root path : Text) : Option Text := do
  let decoded ← Text.percentDecode? (path.dropWhile (· == '/'))
  if Path.isAbsolute decoded then none
  let names := (Text.split '/' decoded).filter (!Path.isIdle ·)
  if names.contains ['.', '.'] then none
  return names.foldl Path.join root

def indexFile : Text := "index.html".toList

def faultAnswer : Fault → Answer
  | .missing | .notDirectory => .empty 404
  | .isDirectory | .nameTooLong | .nulInName | .notUtf8 => .empty 500

def lastName (path : Text) : Text :=
  (Text.split '/' path).getLast?.getD []

def fileAnswer (files : FileTree) (path : Text) : Answer :=
  match files.readBytes path with
  | .ok content => .ofBody 200 (mediaTypeOf (lastName path)) content
  | .error fault => faultAnswer fault

/-- The file at an address, and for a directory its index. The address of a directory ends in a
slash, and one that does not is redirected. -/
def assetAnswer (files : FileTree) (root : Text) (uri : Uri) : Answer :=
  match assetPath? root uri.path with
  | none => .empty 404
  | some path =>
      if !files.isDirectory path then fileAnswer files path
      else if uri.path.getLast? == some '/' then fileAnswer files (Path.join path indexFile)
      else { Answer.empty 307 with location := some uri.slashed.text }

end Transclusion.Web
