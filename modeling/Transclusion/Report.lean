import Transclusion.Markup
import Transclusion.Session

namespace Transclusion

/-! Where the directives of a page lead, without carrying them out. -/

inductive Status where
  | resolved
  | unmatched
  | missingTemplate
  | missingData
  | malformed
  deriving DecidableEq

namespace Status

def label : Status → Text
  | .resolved => "resolved".toList
  | .unmatched => "unmatched".toList
  | .missingTemplate => "missing template".toList
  | .missingData => "missing data".toList
  | .malformed => "malformed".toList

def code (status : Status) : Text :=
  status.label.map fun c => if c = ' ' then '_' else c

def isFine : Status → Bool
  | .resolved | .unmatched => true
  | .missingTemplate | .missingData | .malformed => false

end Status

structure Report where
  directive : Text
  key : Option Text
  template : Option Text
  data : Option Text
  flags : List Text
  status : Status
  deriving DecidableEq

namespace Report

def ofData (site : Site) (files : FileTree) (channel : Channel) (name : Option Text) :
    Option Text × Status :=
  match name with
  | none => (none, .resolved)
  | some name =>
      match site.dataPath channel name with
      | .ok path => (some path, if files.isFile path then .resolved else .missingData)
      | .error _ => (none, .missingData)

/-- What there is to say about the template comes over what there is to say about the data. -/
def ofTemplate (site : Site) (files : FileTree) (channel : Channel) (name : Text)
    (status : Status) : Option Text × Status :=
  match site.locate files channel name with
  | .ok (.found source) => (some source.full, status)
  | .ok (.unmatched relative) => (some relative, .unmatched)
  | .error (.templateMissing path) => (some path, .missingTemplate)
  | .error _ => (none, .missingTemplate)

def ofDirective (flags : List Text) (site : Site) (files : FileTree) (channel : Channel)
    (text : Text) : Report :=
  match Directive.parse? flags text with
  | none => ⟨text, none, none, none, [], .malformed⟩
  | some directive =>
      let (data, status) := ofData site files channel directive.dataRef
      let (template, status) := ofTemplate site files channel directive.templateRef status
      ⟨text, some directive.key, template, data, directive.flags, status⟩

end Report

def Publisher.inspect (publisher : Publisher) (files : FileTree) (channel : Channel)
    (body : Text) : List Report :=
  (Markup.directives body).map
    (Report.ofDirective publisher.settings.flags publisher.settings.site files channel)

end Transclusion
