import LessonText.Copying.Sink

namespace LessonText

/-- Times are in milliseconds. -/
structure Confirmation where
  now : Nat := 0
  shown : Bool := false
  /-- When the running timers are due. None is ever called off. -/
  due : List Nat := []
  deriving DecidableEq, Repr

namespace Confirmation

def accept (delay : Nat) (c : Confirmation) : Confirmation :=
  { c with shown := true, due := c.due ++ [c.now + delay] }

def advance (n : Nat) (c : Confirmation) : Confirmation :=
  let now := c.now + n
  { now
    shown := c.shown && c.due.all (now < ·)
    due := c.due.filter (now < ·) }

end Confirmation

structure Copier (σ : Type) where
  sink : Sink σ
  delay : Nat := 2000

namespace Copier

inductive Step
  | copy (text : Text)
  | advance (time : Nat)
  deriving DecidableEq, Repr

structure State (σ : Type) where
  held : σ
  confirmation : Confirmation := {}

variable {σ : Type}

def step (c : Copier σ) (s : State σ) : Step → State σ
  | .advance n => { s with confirmation := s.confirmation.advance n }
  | .copy t =>
    match c.sink t s.held with
    | (none, held) => { held, confirmation := s.confirmation.accept c.delay }
    | (some _, held) => { s with held }

def states (c : Copier σ) (s : State σ) : List Step → List (State σ)
  | [] => [s]
  | e :: es => s :: c.states (c.step s e) es

end Copier

end LessonText
