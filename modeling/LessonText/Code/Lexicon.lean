import LessonText.Unicode.Word
import LessonText.Text

namespace LessonText

structure Lexicon where
  keywords : List Text
  builtins : List Text
  deriving DecidableEq, Repr

namespace Lexicon

def ofWords (keywords builtins : List Text) : Lexicon where
  keywords := keywords.filter (!·.isEmpty)
  builtins := builtins.filter (!·.isEmpty)

def javascript : Lexicon :=
  ofWords
    (["const", "let", "var", "function", "return", "if", "else", "for", "while", "class",
      "import", "export", "from", "async", "await", "try", "catch", "throw", "new", "this",
      "true", "false", "null", "undefined", "typeof", "instanceof"].map String.toList)
    (["console", "Math", "Array", "Object", "String", "Number", "Boolean", "Promise", "JSON",
      "Date", "Error", "Map", "Set", "window", "document"].map String.toList)

/-- Whether `word` stands at the start of `t`, after the character `before`, with a word boundary
at both of its ends. -/
def standsAt (word : Text) (before : Option Char) (t : Text) : Bool :=
  match Text.after? word t with
  | some rest =>
    Unicode.isBoundary before t.head? && Unicode.isBoundary word.getLast? rest.head?
  | none => false

/-- Occurrences from position `pos` on, after `skip` characters that the last one still
covers. -/
def occurrencesFrom (word : Text) : (skip : Nat) → (before : Option Char) → (pos : Nat) →
    Text → List Nat
  | _, _, _, [] => []
  | skip + 1, _, pos, c :: t => occurrencesFrom word skip (some c) (pos + 1) t
  | 0, before, pos, c :: t =>
    if standsAt word before (c :: t) then
      pos :: occurrencesFrom word (word.length - 1) (some c) (pos + 1) t
    else occurrencesFrom word 0 (some c) (pos + 1) t

def occurrences (word t : Text) : List Nat :=
  occurrencesFrom word 0 none 0 t

end Lexicon

end LessonText
