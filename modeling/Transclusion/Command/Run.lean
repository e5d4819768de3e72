import Transclusion.Command.Arguments
import Transclusion.Command.Table
import Transclusion.Json.Print
import Transclusion.Report

namespace Transclusion.Command

/-! Carrying out commands on the files of a directory. -/

structure Outcome where
  exitCode : Nat
  output : Text
  errors : Text
  deriving DecidableEq

structure Trouble where
  headline : Text
  causes : List Text

namespace Trouble

def printCause (lead : Text) (indent : Nat) (cause : Text) : Text :=
  lead ++ cause.flatMap fun c => if c = '\n' then '\n' :: List.replicate indent ' ' else [c]

def printCauses (causes : List Text) : List Text :=
  match causes with
  | [cause] => [printCause (List.replicate 4 ' ') 4 cause]
  | _ => causes.mapIdx fun number cause =>
      let digits := Nat.toDigits 10 number
      printCause (List.replicate (5 - digits.length) ' ' ++ digits ++ [':', ' ']) 7 cause

def print (trouble : Trouble) : Text :=
  "Error: ".toList ++ trouble.headline ++ "\n\nCaused by:\n".toList ++
    Text.join ['\n'] (printCauses trouble.causes) ++ ['\n']

def outcome (trouble : Trouble) : Outcome :=
  { exitCode := 1, output := [], errors := trouble.print }

end Trouble

def loadSettings (wording : Wording) (files : FileTree) (path : Text) :
    Except Trouble Settings :=
  (Settings.load files path).mapError fun error =>
    ⟨"failed to load config at ".toList ++ path, error.causes wording⟩

def loadPublisher (wording : Wording) (files : FileTree) (path : Text) :
    Except Trouble Publisher := do
  let settings ← loadSettings wording files path
  (Publisher.ofSettings files settings).mapError fun failure =>
    ⟨"failed to build engine".toList, failure.causes wording⟩

def readBody (files : FileTree) (path : Text) : Except Trouble Text :=
  (files.readText path).mapError fun fault =>
    ⟨"failed to read ".toList ++ path, [fault.message.toList]⟩

/-! The ways to set off text in colour. -/

inductive Emphasis where
  | bold
  | red
  | green
  | yellow

def Emphasis.code : Emphasis → Text
  | .bold => ['1']
  | .red => ['3', '1']
  | .green => ['3', '2']
  | .yellow => ['3', '3']

def Emphasis.apply (emphasis : Emphasis) (coloured : Bool) (text : Text) : Text :=
  if coloured then '\x1b' :: '[' :: emphasis.code ++ 'm' :: text ++ ['\x1b', '[', '0', 'm']
  else text

def statusEmphasis : Status → Emphasis
  | .resolved => .green
  | .unmatched => .yellow
  | .missingTemplate | .missingData | .malformed => .red

def reportRow (coloured : Bool) (report : Report) : List Text := [
  report.directive,
  report.key.getD ['-'],
  report.template.getD ['-'],
  report.data.getD ['-'],
  if report.flags.isEmpty then ['-'] else Text.join [','] report.flags,
  (statusEmphasis report.status).apply coloured report.status.label]

def reportHead : List Text :=
  ["directive", "key", "template", "data", "flags", "status"].map String.toList

def printReports (coloured : Bool) (file : Text) (channel : Channel) (reports : List Report) :
    Text :=
  let wrong := (reports.filter (!·.status.isFine)).length
  file ++ " | channel ".toList ++ Emphasis.bold.apply coloured channel.name ++ " | ".toList ++
    Nat.toDigits 10 reports.length ++ " directives | ".toList ++ Nat.toDigits 10 wrong ++
    " unresolved\n".toList ++
    (if reports.isEmpty then "No directives found.".toList
      else (Table.mk reportHead (reports.map (reportRow coloured))).print) ++ ['\n']

def reportJson (report : Report) : Json :=
  let text := fun (value : Option Text) => value.elim Json.null Json.string
  .object [
    ("directive".toList, .string report.directive),
    ("key".toList, text report.key),
    ("template".toList, text report.template),
    ("data".toList, text report.data),
    ("flags".toList, .array (report.flags.map .string)),
    ("status".toList, .string report.status.code)]

def reportsJson (file : Text) (channel : Channel) (reports : List Report) : Json :=
  .object [
    ("file".toList, .string file),
    ("channel".toList, .string channel.name),
    ("directives".toList, .array (reports.map reportJson))]

def renderFile (wording : Wording) (files : FileTree) (file config : Text)
    (channel : Option Text) (page : Text) (params : Dict Text) : Except Trouble Text := do
  let publisher ← loadPublisher wording files config
  let body ← readBody files file
  let settings := publisher.settings
  let channel := channel.elim
    (Request.channelOf params settings.channelParam settings.defaultChannel) Channel.ofText
  (publisher.process files ⟨channel, Request.pageOf page, params⟩ body).mapError fun failure =>
    ⟨"failed to render ".toList ++ file, failure.causes wording⟩

def inspectFile (wording : Wording) (coloured : Bool) (files : FileTree) (file config : Text)
    (channel : Option Text) (json : Bool) : Except Trouble Text := do
  let publisher ← loadPublisher wording files config
  let body ← readBody files file
  let channel := channel.elim publisher.settings.channel Channel.ofText
  let reports := publisher.inspect files channel body
  if json then return (reportsJson file channel reports).printLines 0 ++ ['\n']
  else return printReports coloured file channel reports

def announce (wording : Wording) (files : FileTree) (config : Text) (endpoint : Endpoint) :
    Except Trouble (Text × Except Trouble Publisher) := do
  let settings ← loadSettings wording files config
  let line := "Serving on http://".toList ++ endpoint.print ++
    " (ctrl-c to stop)\n".toList
  return (line, (Publisher.ofSettings files settings).mapError fun failure =>
    ⟨"server exited with an error".toList,
      ("engine error: ".toList ++ failure.message wording) :: failure.causes wording⟩)

def succeed (outcome : Except Trouble Text) : Outcome :=
  match outcome with
  | .ok output => { exitCode := 0, output, errors := [] }
  | .error trouble => trouble.outcome

def programVersion : Text := "transclude 0.1.0\n".toList

/-- The outcome of a command. Of a server it is that of getting ready. -/
def run (wording : Wording) (coloured : Bool) (files : FileTree) : Command → Outcome
  | .render file config channel page params =>
      succeed (renderFile wording files file config channel page params)
  | .inspect file config channel json =>
      succeed (inspectFile wording coloured files file config channel json)
  | .serve config endpoint =>
      match announce wording files config endpoint with
      | .error trouble => trouble.outcome
      | .ok (line, .ok _) => { exitCode := 0, output := line, errors := [] }
      | .ok (line, .error trouble) => { trouble.outcome with output := line }
  | .version => { exitCode := 0, output := programVersion, errors := [] }

end Transclusion.Command
