import LessonText.Toml.DateTime
import LessonText.Toml.Key
import LessonText.Toml.Value

namespace LessonText.Toml

def isWordCharacter (c : Char) : Bool :=
  c.isAlphanum || ['+', '-', '_', '.', ':'].contains c

def word (t : Text) : Text × Text :=
  let w := t.takeWhile isWordCharacter
  match t.drop w.length with
  | ' ' :: c :: t =>
    if DateTime.isDate w && c.isDigit then
      let time := (c :: t).takeWhile isWordCharacter
      (w ++ ' ' :: time, (c :: t).drop time.length)
    else (w, ' ' :: c :: t)
  | t => (w, t)

def ofWord? (w : Text) : Option Value :=
  if w = "true".toList then some (.boolean true)
  else if w = "false".toList then some (.boolean false)
  else if let some n := Number.integer? w then some (.integer n)
  else if let some x := Number.float? w then some (.float x)
  else if DateTime.isDateTime w then some (.dateTime w)
  else none

def simpleValue? (t : Text) : Option (Value × Text) :=
  match t with
  | '"' :: _ | '\x27' :: _ => (Quotation.read? t).map fun (s, t) => (.string s, t)
  | t =>
    let (w, t) := word t
    (ofWord? w).map fun v => (v, t)

def items (value : Text → Option (Value × Text)) : (n : Nat) → Text → Option (List Value × Text)
  | 0, _ => none
  | n + 1, t =>
    match skip t with
    | ']' :: t => some ([], t)
    | t => do
      let (v, t) ← value t
      match skip t with
      | ',' :: t =>
        let (vs, t) ← items value n t
        return (v :: vs, t)
      | ']' :: t => return ([v], t)
      | _ => none

def field (value : Text → Option (Value × Text)) (t : Text) : Option (Key × Value × Text) := do
  let (k, t) ← Key.read? t
  let t ← Text.after? "=" (skipBlanks t)
  let (v, t) ← value (skipBlanks t)
  return (k, v, t)

def fields (value : Text → Option (Value × Text)) :
    (n : Nat) → Table → Text → Option (Table × Text)
  | 0, _, _ => none
  | n + 1, fs, t =>
    match skip t with
    | '}' :: t => some (fs, t)
    | t => do
      let (k, v, t) ← field value t
      let fs ← fs.assign k.outer k.name v
      match skip t with
      | ',' :: t => fields value n fs t
      | '}' :: t => return (fs, t)
      | _ => none

def value? : (depth : Nat) → Text → Option (Value × Text)
  | 0, t => simpleValue? t
  | depth + 1, t =>
    match t with
    | '[' :: t => (items (value? depth) (t.length + 1) t).map fun (vs, t) => (.array vs, t)
    | '{' :: t =>
      (fields (value? depth) (t.length + 1) [] t).map fun (fs, t) => (.table .braces fs, t)
    | t => simpleValue? t

namespace Document

def depth : Nat := 80

structure State where
  root : Table := []
  path : List Text := []

def openTable (s : State) (k : Key) : Option State :=
  (s.root.openTable k.outer k.name).map fun root => { root, path := k.outer ++ [k.name] }

def openNext (s : State) (k : Key) : Option State :=
  (s.root.openNext k.outer k.name).map fun root => { root, path := k.outer ++ [k.name] }

def assign (s : State) (k : Key) (v : Value) : Option State :=
  (s.root.enterSection s.path (·.assign k.outer k.name v)).map ({ s with root := · })

def expression (s : State) (t : Text) : Option (State × Text) :=
  match t with
  | '[' :: '[' :: t => do
    let (k, t) ← Key.read? (skipBlanks t)
    let t ← Text.after? "]]" (skipBlanks t)
    return (← openNext s k, t)
  | '[' :: t => do
    let (k, t) ← Key.read? (skipBlanks t)
    let t ← Text.after? "]" (skipBlanks t)
    return (← openTable s k, t)
  | t => do
    let (k, v, t) ← field (value? depth) t
    return (← assign s k v, t)

/-- Reads at most `n` expressions, each on a line of its own. -/
def expressions : (n : Nat) → State → Text → Option State
  | n, s, t =>
    match n, skip t with
    | _, [] => some s
    | 0, _ :: _ => none
    | n + 1, c :: t => do
      let (s, t) ← expression s (c :: t)
      if endsLine (skipBlanks t) then expressions n s (skipBlanks t) else none

def skipMark : Text → Text
  | '\uFEFF' :: t => t
  | t => t

def ofText? (t : Text) : Option Table :=
  (expressions t.length {} (skipMark t)).map State.root

end Document

end LessonText.Toml
