import LessonText.Code.Token

namespace LessonText

/-- Tags the characters at `start`, …, `stop - 1`. -/
structure Annotation where
  start : Nat
  stop : Nat
  tag : Tag
  deriving DecidableEq, Repr

namespace Annotation

def covers (a : Annotation) (i : Nat) : Bool :=
  a.start ≤ i && i < a.stop

abbrev Placed := Annotation × Nat

def contend (i : Nat) (owner : Option Placed) (a : Placed) : Option Placed :=
  if a.1.covers i then
    match owner with
    | none => some a
    | some o => if o.1.tag.rank < a.1.tag.rank then some a else some o
  else owner

def owner (as : List Annotation) (i : Nat) : Option Placed :=
  as.zipIdx.foldl (contend i) none

def owned (t : Text) (as : List Annotation) : List (Char × Option Placed) :=
  t.zipIdx.map fun ci => (ci.1, owner as ci.2)

def sameOwner (a b : Char × Option Placed) : Bool :=
  a.2.map Prod.snd == b.2.map Prod.snd

def tokenOf (run : List (Char × Option Placed)) : Token where
  text := run.map Prod.fst
  tag := match run.head? with
    | some (_, some a) => a.1.tag
    | _ => .plain

/-- Cuts a text wherever the owner changes. Two annotations that touch give two tokens, even when
their tags agree. -/
def resolve (t : Text) (as : List Annotation) : List Token :=
  ((owned t as).splitBy sameOwner).map tokenOf

end Annotation

end LessonText
