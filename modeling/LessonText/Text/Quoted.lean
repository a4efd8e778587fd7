import LessonText.Text
import LessonText.Unicode.Printable

namespace LessonText.Quoted

def codePoint (c : Char) : Text :=
  "\\u\x7b" ++ Nat.toDigits 16 c.toNat ++ "\x7d".toList

def escape (c : Char) : Text :=
  match c with
  | '"' => "\\\""
  | '\\' => "\\\\"
  | '\t' => "\\t"
  | '\n' => "\\n"
  | '\r' => "\\r"
  | '\x00' => "\\0"
  | c => if Unicode.isPrintable c then [c] else codePoint c

def encode (t : Text) : Text :=
  '"' :: (t.flatMap escape ++ ['"'])

end LessonText.Quoted
