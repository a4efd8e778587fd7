import LessonText.Code.Annotation
import LessonText.Code.Lexicon
import LessonText.Code.Literal

namespace LessonText

namespace Line

def commentMark : Text := "//"

def isComment (line : Text) : Bool :=
  line.trim.startsWith commentMark

end Line

namespace Listing

def annotateWords (tag : Tag) (words : List Text) (t : Text) : List Annotation :=
  words.flatMap fun w => (Lexicon.occurrences w t).map fun i => ⟨i, i + w.length, tag⟩

def annotateCallsFrom (pos : Nat) : Text → List Annotation
  | [] => []
  | c :: r =>
    if Unicode.isWord c then
      let stop := pos + 1 + (r.takeWhile Unicode.isWord).length
      let later := annotateCallsFrom stop (r.dropWhile Unicode.isWord)
      if (Text.trimStart (r.dropWhile Unicode.isWord)).head? = some '(' then
        ⟨pos, stop, .call⟩ :: later
      else later
    else annotateCallsFrom (pos + 1) r
termination_by t => t.length
decreasing_by
  · exact Nat.lt_succ_of_le (List.dropWhile_sublist _).length_le
  · exact Nat.lt_succ_self _

def annotateCalls (t : Text) : List Annotation :=
  annotateCallsFrom 0 t

def annotate (lx : Lexicon) (gap : Text) : List Annotation :=
  annotateWords .keyword lx.keywords gap ++ annotateWords .builtin lx.builtins gap ++
    annotateCalls gap

def tokensOf (lx : Lexicon) : Fragment Text → List Token
  | .found literal => [⟨literal, .literal⟩]
  | .plain gap => Annotation.resolve gap (annotate lx gap)

def tokens (lx : Lexicon) (line : Text) : List Token :=
  if line.isEmpty then []
  else if Line.isComment line then [⟨line, .comment⟩]
  else (Literal.pattern.cut line).flatMap (tokensOf lx)

structure Row where
  number : Nat
  tokens : List Token
  deriving DecidableEq, Repr

def Row.text (r : Row) : Text :=
  Token.join r.tokens

end Listing

abbrev Listing := List Listing.Row

def Listing.ofText (lx : Lexicon) (code : Text) : Listing :=
  (code.lines.zipIdx 1).map fun li => { number := li.2, tokens := tokens lx li.1 }

end LessonText
