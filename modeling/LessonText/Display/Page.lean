import LessonText.Display.Style
import LessonText.Display.View

namespace LessonText

def lineFeed : Text := ['\n']

def Tag.style : Tag → Style
  | .comment => { colour := some .darkGrey, face := some .italic }
  | .literal => .coloured .green
  | .keyword => { colour := some .magenta, face := some .bold }
  | .builtin => .coloured .blue
  | .call => .coloured .yellow
  | .plain => .coloured .standard

namespace Page

def span : Span → Text
  | .plain t => t
  | .emphasized t => Style.bold.paint t

def spans (ss : List Span) : Text :=
  ss.flatMap span

def token (t : Token) : Text :=
  t.tag.style.paint t.text

def number (width n : Nat) : Text :=
  let digits := Nat.toDigits 10 n
  List.replicate (width - digits.length) ' ' ++ digits

def gutter (l : Listing) : Nat :=
  max 2 (Nat.toDigits 10 l.length).length

def row (width : Nat) (r : Listing.Row) : Text :=
  (Style.coloured .darkGrey).paint (number width r.number) ++ " ".toList ++
    r.tokens.flatMap token ++ lineFeed

def listing (language : Text) (l : Listing) : Text :=
  (Style.coloured .darkGrey).paint ("┌─ " ++ language ++ " ".toList) ++ lineFeed ++
    l.flatMap (row (gutter l)) ++
    (Style.coloured .darkGrey).paint "└─" ++ lineFeed

def rule : Text := List.replicate 60 '═'

def item (ss : List Span) : Text :=
  "  " ++ (Style.coloured .cyan).paint "•" ++ " ".toList ++ spans ss ++ lineFeed

def prose (role : Role) (ss : List Span) : Text :=
  match role with
  | .title =>
    Style.bold.paint (Span.plainText ss) ++ lineFeed ++
      (Style.coloured .darkGrey).paint rule ++ lineFeed
  | .intro => (Style.coloured .blue).paint "│" ++ " ".toList ++ spans ss ++ lineFeed
  | .heading =>
    (Style.coloured .cyan).paint "▌" ++ " ".toList ++
      Style.paint { colour := some .cyan, face := some .bold } (Span.plainText ss) ++ lineFeed
  | .paragraph => spans ss ++ lineFeed
  | .summary =>
    Style.paint { colour := some .green, face := some .bold } "Summary" ++ lineFeed ++
      (Style.coloured .green).paint "│" ++ " ".toList ++ spans ss ++ lineFeed

def panel : Panel → Text
  | .prose role ss => prose role ss
  | .points items => items.flatMap item
  | .code language _ l => listing language l

end Page

def View.render : View → Text
  | .structured panels => panels.flatMap fun p => Page.panel p ++ lineFeed
  | .unstructured paragraphs => paragraphs.flatMap fun p => Page.spans p ++ lineFeed ++ lineFeed

end LessonText
