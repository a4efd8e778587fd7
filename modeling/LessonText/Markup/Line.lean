import LessonText.Markup.Kind

namespace LessonText

structure Marker where
  kind : Kind
  headline : Option Text
  deriving DecidableEq, Repr

def Marker.ofText? (t : Text) : Option Marker :=
  Kind.all.findSome? fun kind =>
    (Text.after? kind.marker t).map fun rest =>
      { kind, headline := some rest.trim |>.filter fun h => kind.takesHeadline && !h.isEmpty }

structure Fence where
  language : Option Text
  deriving DecidableEq, Repr

namespace Fence

def mark : Text := "```"

def defaultLanguage : Text := "javascript"

def ofText? (t : Text) : Option Fence :=
  (Text.after? mark t).map fun rest => { language := rest.firstWord? }

end Fence

inductive Line
  | marker (m : Marker)
  | fence (f : Fence)
  | content (text : Text)
  deriving DecidableEq, Repr

def Line.ofText (t : Text) : Line :=
  match Marker.ofText? t.trim, Fence.ofText? t.trim with
  | some m, _ => .marker m
  | none, some f => .fence f
  | none, none => .content t

end LessonText
