import Transclusion.Template.Error
import Transclusion.Template.Line

namespace Transclusion.Template

/-! Templates as trees of text, values and sections. -/

inductive Node where
  | text (text : Text)
  | value (name : Text) (escaped : Bool)
  | block (name : Text) (inverted : Bool) (children : List Node)

structure Frame where
  name : Text
  inverted : Bool
  before : List Node

def textNodes (text : Text) : List Node :=
  if text.isEmpty then [] else [.text text]

/-- Nests what the tags enclose. `nodes` are those of the innermost open section so far. -/
def nest (frames : List Frame) (nodes : List Node) :
    List (Tag × Text) → Except TemplateError (List Node)
  | [] =>
      match frames with
      | [] => .ok nodes
      | frame :: _ => .error (.unclosedSection frame.name)
  | (tag, behind) :: tags =>
      match tag.kind with
      | .value name escaped => nest frames (nodes ++ .value name escaped :: textNodes behind) tags
      | .note | .inclusion => nest frames (nodes ++ textNodes behind) tags
      | .enter name inverted => nest (⟨name, inverted, nodes⟩ :: frames) (textNodes behind) tags
      | .leave name =>
          match frames with
          | [] => .error (.unopenedSection name)
          | frame :: frames =>
              if frame.name = name then
                nest frames
                  (frame.before ++ .block frame.name frame.inverted nodes :: textNodes behind) tags
              else .error (.unclosedSection frame.name)
      | .delimiters => .error (.unsupportedTag tag.text)

def Cut.nodes (cut : Cut) : Except TemplateError (List Node) :=
  nest [] (textNodes cut.lead) cut.tags

def parse (template : Text) : Except TemplateError (List Node) :=
  (cut template).tidy.nodes

end Transclusion.Template
