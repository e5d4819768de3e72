import Transclusion.Session
import Transclusion.Web.Asset

namespace Transclusion.Web

/-! Serving the pages of a site. -/

def htmlType : Text := "text/html; charset=utf-8".toList

def textType : Text := "text/plain; charset=utf-8".toList

def indexPage : Text := "index".toList

def pageFile (settings : Settings) (root path : Text) : Text :=
  let page := Request.pageOf path
  Path.join root ((if page.isEmpty then indexPage else page) ++ settings.templateExt)

/-- The source of a page. Addresses with a dot are those of files. -/
def source (publisher : Publisher) (files : FileTree) (uri : Uri) : Answer :=
  match publisher.settings.pagesRoot? with
  | none => .empty 404
  | some root =>
      if uri.path.contains '.' then assetAnswer files root uri
      else
        match files.readText (pageFile publisher.settings root uri.path) with
        | .ok text => .ofBody 200 htmlType text.toUtf8
        | .error .missing => .empty 404
        | .error _ => .empty 500

def failed (message : Text) : Answer :=
  .ofBody 500 textType message.toUtf8

def bodyTooLong : Text :=
  "failed to buffer response body: length limit exceeded".toList

def isHtml (answer : Answer) : Bool :=
  answer.contentType.any fun contentType =>
    ("text/html".toList).isPrefixOf ((contentType.dropWhile Text.isBlank).map Char.toLower)

def publish (wording : Wording) (publisher : Publisher) (files : FileTree) (uri : Uri)
    (answer : Answer) : Answer :=
  if publisher.isExcluded uri.text || !isHtml answer then answer
  else if answer.body.length > publisher.settings.maxBodyBytes then failed bodyTooLong
  else
    match Text.ofUtf8? answer.body with
    | none => answer
    | some text =>
        match publisher.process files (publisher.request uri.path uri.query) text with
        | .ok text =>
            let body := text.toUtf8
            { answer with body, length := body.length }
        | .error failure => failed (failure.message wording)

inductive Method where
  | get
  | head
  | other
  deriving DecidableEq

def Method.ofText (text : Text) : Method :=
  if text = "GET".toList then .get else if text = "HEAD".toList then .head else .other

def allowedMethods : Text := "GET,HEAD".toList

def answer (wording : Wording) (publisher : Publisher) (files : FileTree) (method : Method)
    (uri : Uri) : Answer :=
  match method with
  | .get => publish wording publisher files uri (source publisher files uri)
  | .head => (publish wording publisher files uri (source publisher files uri)).withoutBody
  | .other => { Answer.empty 405 with allow := some allowedMethods }

end Transclusion.Web
