import Transclusion.Pattern.Read
import Transclusion.Settings.Error
import Transclusion.Site

namespace Transclusion

/-! How a site is set up. -/

structure Settings where
  roots : List Text := []
  dataDir : Text := []
  templateExt : Text := ".html".toList
  dataExt : Text := ".json".toList
  exclude : Option Text := none
  /-- The types of shared data, by names that are used in the settings only. -/
  staticTypes : Dict Text := []
  /-- The name of the type of shared data that differs from page to page. -/
  pageScopedType : Option Text := some "CHECKOUT_HEADER".toList
  defaultChannel : Text := "default".toList
  channelParam : Text := "channel".toList
  flags : List Text := ["NO_CACHE".toList]
  maxDepth : Nat := 32
  defaultsFile : Option Text := none
  pagesDir : Option Text := none
  autoescape : Bool := true
  maxBodyBytes : Nat := 8 * 1024 * 1024

namespace Settings

def site (settings : Settings) : Site where
  roots := settings.roots
  dataDir := settings.dataDir
  templateExt := settings.templateExt
  dataExt := settings.dataExt

def anchor (base : Text) (settings : Settings) : Settings :=
  { settings with
    roots := settings.roots.map (Path.join base)
    dataDir := Path.join base settings.dataDir
    defaultsFile := settings.defaultsFile.map (Path.join base)
    pagesDir := settings.pagesDir.map (Path.join base) }

/-- The pattern of addresses to leave alone. An empty one is as good as none. -/
def pattern? (settings : Settings) : Except SettingsError (Option Pattern) :=
  match settings.exclude.filter (!·.isEmpty) with
  | none => .ok none
  | some text => (Pattern.read? text).elim (.error (.badPattern text)) (.ok ∘ some)

def check (settings : Settings) : Except SettingsError (Option Pattern) :=
  if settings.roots.isEmpty then .error .noRoots else settings.pattern?

def pagesRoot? (settings : Settings) : Option Text :=
  settings.pagesDir.or settings.roots.head?

def channel (settings : Settings) : Channel :=
  .ofText settings.defaultChannel

def pageScopedKey? (settings : Settings) : Option Text :=
  settings.pageScopedType.bind (Dict.find? settings.staticTypes)

end Settings

end Transclusion
