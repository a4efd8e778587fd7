import LessonText.Numeral.Single
import LessonText.Toml.Quotation

namespace LessonText.Toml.Written

def single (x : Numeral.Single) : Text :=
  match x.magnitude? with
  | none => if x.negative then "-nan" else "nan"
  | some .infinite => x.text
  | some (.finite _ _) => if '.' ∈ x.text then x.text else x.text ++ ".0".toList

def natural (n : Nat) : Text :=
  Nat.toDigits 10 n

def text (t : Text) : Text :=
  (Quotation.choose t).write t

def item (t : Text) : Text :=
  "    " ++ text t ++ ",\n".toList

def texts : List Text → Text
  | [] => "[]"
  | [t] => "[" ++ text t ++ "]".toList
  | ts => "[\n" ++ ts.flatMap item ++ "]".toList

def field (name value : Text) : Text :=
  name ++ " = ".toList ++ value ++ "\n".toList

end LessonText.Toml.Written
