import Transclusion.Catalogue.Expand
import Transclusion.Catalogue.Gather
import Transclusion.Catalogue.Render
import Transclusion.Catalogue.Splice
import Transclusion.Defaults.Read
import Transclusion.Request
import Transclusion.Template.Slots

namespace Transclusion

/-! Publishing pages of a site. -/

structure Publisher where
  settings : Settings
  pattern : Option Pattern
  defaults : Defaults

structure Session where
  channel : Channel
  page : Text
  shared : Data
  catalogue : Catalogue

namespace Publisher

/-- The publisher for some settings. The file of shared data is read first, and then the settings
are checked. -/
def ofSettings (files : FileTree) (settings : Settings) : Except Failure Publisher := do
  let defaults ←
    match settings.defaultsFile with
    | none => pure Defaults.empty
    | some path => (Defaults.load files path).mapError .settings
  let pattern ← settings.check.mapError .settings
  return { settings, pattern, defaults }

def request (publisher : Publisher) (path : Text) (query : Option Text) : Request :=
  .ofUri publisher.settings path query

def isExcluded (publisher : Publisher) (url : Text) : Bool :=
  Request.isExcluded publisher.pattern url

def session (publisher : Publisher) (request : Request) : Session where
  channel := request.channel
  page := request.page
  shared := publisher.defaults.shared publisher.settings request.channel request.page
  catalogue := []

end Publisher

namespace Session

def gather (publisher : Publisher) (files : FileTree) (body : Text) (session : Session) :
    Except Failure Nat × Session :=
  let load := Catalogue.load publisher.settings.site files session.channel
  let (outcome, catalogue) :=
    Catalogue.gather publisher.settings.flags load body session.catalogue
  (outcome, { session with catalogue })

def nesting (publisher : Publisher) (files : FileTree) (session : Session) :
    Catalogue.Nesting where
  flags := publisher.settings.flags
  load := publisher.settings.site.loadTemplate files session.channel
  maxDepth := publisher.settings.maxDepth

def expand (publisher : Publisher) (files : FileTree) (session : Session) :
    Except Failure Unit × Session :=
  let (outcome, catalogue) := Catalogue.expand (session.nesting publisher files) session.catalogue
  (outcome, { session with catalogue })

def render (publisher : Publisher) (session : Session) : Except Failure Unit × Session :=
  let (outcome, catalogue) :=
    Catalogue.render (Template.render publisher.settings.autoescape) session.shared
      session.catalogue
  (outcome, { session with catalogue })

def splice (publisher : Publisher) (body : Text) (session : Session) : Except Failure Text :=
  Catalogue.splice publisher.settings.flags session.catalogue body

/-- All four steps. A step that fails is the last, and what it has changed by then stays. -/
def run (publisher : Publisher) (files : FileTree) (body : Text) (session : Session) :
    Except Failure Text × Session :=
  match session.gather publisher files body with
  | (.error failure, session) => (.error failure, session)
  | (.ok _, session) =>
      match session.expand publisher files with
      | (.error failure, session) => (.error failure, session)
      | (.ok _, session) =>
          match session.render publisher with
          | (.error failure, session) => (.error failure, session)
          | (.ok _, session) => (session.splice publisher body, session)

def reset (session : Session) : Session :=
  { session with catalogue := [] }

end Session

namespace Publisher

def process (publisher : Publisher) (files : FileTree) (request : Request) (body : Text) :
    Except Failure Text :=
  let body := request.rename?.elim body (·.apply body)
  ((publisher.session request).run publisher files body).1

end Publisher

end Transclusion
