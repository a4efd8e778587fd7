import LessonText.Markup.Block

namespace LessonText

structure OpenBlock where
  kind : Kind
  lines : Array Text
  language : Option Text := none
  deriving Repr

namespace OpenBlock

def ofMarker (m : Marker) : OpenBlock :=
  { kind := m.kind, lines := m.headline.toArray }

def fence (o : OpenBlock) (f : Fence) : OpenBlock :=
  if o.kind = .code then { o with language := o.language.or f.language } else o

def content (o : OpenBlock) (t : Text) : OpenBlock :=
  { o with lines := o.lines.push t }

def close (o : OpenBlock) : Option Block :=
  Block.ofLines? o.kind o.language o.lines.toList

end OpenBlock

structure Builder where
  closed : Array Block
  current : Option OpenBlock
  deriving Repr

namespace Builder

def empty : Builder where
  closed := #[]
  current := none

def finish (b : Builder) : List Block :=
  b.closed.toList ++ (b.current.bind OpenBlock.close).toList

def push (b : Builder) : Line → Builder
  | .marker m =>
    { closed := b.closed ++ (b.current.bind OpenBlock.close).toArray
      current := some (.ofMarker m) }
  | .fence f => { b with current := b.current.map (·.fence f) }
  | .content t => { b with current := b.current.map (·.content t) }

def pushAll (b : Builder) (ls : List Line) : Builder :=
  ls.foldl push b

end Builder

end LessonText
