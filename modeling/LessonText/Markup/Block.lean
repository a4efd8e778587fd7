import LessonText.Markup.Line

namespace LessonText

inductive Block
  | prose (role : Role) (text : Text)
  | points (text : Text)
  | code (language text : Text)
  deriving DecidableEq, Repr

namespace Block

def kind : Block → Kind
  | .prose role _ => .prose role
  | .points _ => .points
  | .code _ _ => .code

def text : Block → Text
  | .prose _ t | .points t | .code _ t => t

def language? : Block → Option Text
  | .code l _ => some l
  | _ => none

def isCode (b : Block) : Bool :=
  b.language?.isSome

def ofText : Kind → Option Text → Text → Block
  | .prose role, _, t => .prose role t
  | .points, _, t => .points t
  | .code, language, t => .code (language.getD Fence.defaultLanguage) t

/-- The block that a marker's lines make, if there are any: joined, then trimmed as a whole, so
that inner indentation stays. -/
def ofLines? (kind : Kind) (language : Option Text) : List Text → Option Block
  | [] => none
  | l :: ls => some (ofText kind language (Text.unlines (l :: ls)).trim)

@[simp] theorem kind_ofText (k : Kind) (l : Option Text) (t : Text) : (ofText k l t).kind = k := by
  cases k <;> rfl

@[simp] theorem text_ofText (k : Kind) (l : Option Text) (t : Text) : (ofText k l t).text = t := by
  cases k <;> rfl

end Block

end LessonText
