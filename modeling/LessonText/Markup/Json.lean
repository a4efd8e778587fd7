import LessonText.Markup.Lesson

namespace LessonText

namespace Json

def codePoint (c : Char) : Text :=
  let digits := Nat.toDigits 16 c.toNat
  "\\u" ++ List.replicate (4 - digits.length) '0' ++ digits

def escape (c : Char) : Text :=
  match c with
  | '"' => "\\\""
  | '\\' => "\\\\"
  | '\x08' => "\\b"
  | '\t' => "\\t"
  | '\n' => "\\n"
  | '\x0c' => "\\f"
  | '\r' => "\\r"
  | c => if c < ' ' then codePoint c else [c]

def string (t : Text) : Text :=
  '"' :: (t.flatMap escape ++ ['"'])

def indent (depth : Nat) : Text :=
  List.replicate (2 * depth) ' '

def enclosed (left right : Char) (depth : Nat) : List Text → Text
  | [] => [left, right]
  | parts =>
    left :: '\n' ::
      (List.intercalate ",\n".toList (parts.map (indent (depth + 1) ++ ·)) ++
        '\n' :: (indent depth ++ [right]))

def field (f : Text × Text) : Text :=
  string f.1 ++ ": ".toList ++ string f.2

def object (depth : Nat) (fields : List (Text × Text)) : Text :=
  enclosed '\x7b' '\x7d' depth (fields.map field)

end Json

def Block.fields (b : Block) : List (Text × Text) :=
  [("kind".toList, b.kind.name), ("text".toList, b.text)] ++
    (b.language?.map fun l => ("language".toList, l)).toList

def Lesson.json (l : Lesson) : Text :=
  Json.enclosed '[' ']' 0 (l.map fun b => Json.object 1 b.fields)

end LessonText
