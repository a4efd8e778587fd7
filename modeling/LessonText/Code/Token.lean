import LessonText.Text

namespace LessonText

inductive Tag
  | comment
  | literal
  | keyword
  | builtin
  | call
  | plain
  deriving DecidableEq, Repr

namespace Tag

def all : List Tag := [.comment, .literal, .keyword, .builtin, .call, .plain]

def rank : Tag → Nat
  | .comment | .literal => 4
  | .keyword => 3
  | .builtin => 2
  | .call => 1
  | .plain => 0

def name : Tag → Text
  | .comment => "comment"
  | .literal => "string-literal"
  | .keyword => "keyword"
  | .builtin => "builtin-identifier"
  | .call => "call-site-identifier"
  | .plain => "plain"

end Tag

structure Token where
  text : Text
  tag : Tag
  deriving DecidableEq, Repr

def Token.join (ts : List Token) : Text :=
  ts.flatMap Token.text

end LessonText
