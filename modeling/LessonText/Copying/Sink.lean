import LessonText.Copying.Refusal
import LessonText.Storage.FileTree

namespace LessonText

/-- Takes a text, or refuses it. What the sink holds may change either way: part of a text can be
written before the rest is refused. -/
abbrev Sink (σ : Type) := Text → σ → Option Refusal × σ

def Sink.file (path : Text) : Sink FileTree := fun t files =>
  match files.write (.ofText path) t with
  | .ok files => (none, files)
  | .error c => (some (.file path c), files)

structure Stream where
  held : ByteArray := .empty
  capacity : Option Nat := none
  flushFails : Bool := false

namespace Stream

def room (s : Stream) (n : Nat) : Nat :=
  match s.capacity with
  | none => n
  | some c => min n (c - s.held.size)

def sink : Sink Stream := fun t s =>
  let bytes := Utf8.encode t
  let room := s.room bytes.size
  let written := { s with held := s.held ++ bytes.extract 0 room }
  if room < bytes.size then (some (.stream (.other "device full")), written)
  else if s.flushFails then (some (.stream (.other "flush failed")), written)
  else (none, written)

end Stream

end LessonText
