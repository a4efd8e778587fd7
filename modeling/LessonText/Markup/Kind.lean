import LessonText.Text

namespace LessonText

inductive Role
  | title
  | intro
  | heading
  | paragraph
  | summary
  deriving DecidableEq, Repr

inductive Kind
  | prose (role : Role)
  | points
  | code
  deriving DecidableEq, Repr

namespace Kind

def all : List Kind :=
  [.prose .title, .prose .intro, .prose .heading, .prose .paragraph, .points, .code,
    .prose .summary]

def marker : Kind → Text
  | .prose .title => "##TITLE##"
  | .prose .intro => "##INTRO##"
  | .prose .heading => "##SECTION##"
  | .prose .paragraph => "##PARAGRAPH##"
  | .points => "##POINTS##"
  | .code => "##CODE##"
  | .prose .summary => "##SUMMARY##"

def name : Kind → Text
  | .prose .title => "title"
  | .prose .intro => "intro"
  | .prose .heading => "section"
  | .prose .paragraph => "paragraph"
  | .points => "points"
  | .code => "code"
  | .prose .summary => "summary"

def takesHeadline : Kind → Bool
  | .prose .title | .prose .heading => true
  | _ => false

theorem mem_all (k : Kind) : k ∈ all := by
  rcases k with ⟨_ | _ | _ | _ | _⟩ | _ | _ <;> decide

end Kind

end LessonText
