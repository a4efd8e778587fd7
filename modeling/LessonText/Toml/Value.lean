import LessonText.Numeral.Double
import LessonText.Text

namespace LessonText.Toml

/-- How a table came about. It decides what may still be added to the table. -/
inductive Origin
  | braces
  | header
  /-- On the way to a table that a header opened. -/
  | implied
  /-- On the way to a value with a dotted key. -/
  | dotted
  deriving DecidableEq, Repr

inductive Value
  | string (text : Text)
  | integer (n : Int)
  | float (x : Numeral.Double)
  | boolean (b : Bool)
  | dateTime (written : Text)
  | array (items : List Value)
  | table (origin : Origin) (fields : List (Text × Value))
  | tables (list : List (List (Text × Value)))

abbrev Table := List (Text × Value)

namespace Table

def get? (t : Table) (k : Text) : Option Value :=
  t.lookup k

def put : Table → Text → Value → Table
  | [], k, v => [(k, v)]
  | (k', v') :: t, k, v => if k' = k then (k, v) :: t else (k', v') :: put t k v

/-- Changes the table at the end of a path, and makes the tables that are missing on the way. Of
several tables the last is meant. `byKey` says that a dotted key is followed, not a header:
dotted keys stay out of tables that have a header. -/
def enter (byKey : Bool) (f : Origin → Table → Option Table) :
    List Text → Origin → Table → Option Table
  | [], o, t => f o t
  | k :: ks, _, t =>
    match t.get? k with
    | none =>
      let o := if byKey then .dotted else .implied
      (enter byKey f ks o []).map fun u => t.put k (.table o u)
    | some (.table o u) =>
      if o = .braces ∨ byKey ∧ o = .header then none
      else (enter byKey f ks o u).map fun u => t.put k (.table o u)
    | some (.tables us) =>
      match us.getLast? with
      | none => none
      | some u =>
        (enter byKey f ks .header u).map fun u => t.put k (.tables (us.dropLast ++ [u]))
    | some _ => none

def enterSection (t : Table) (path : List Text) (f : Table → Option Table) : Option Table :=
  enter false (fun _ => f) path .header t

def openTable (t : Table) (path : List Text) (k : Text) : Option Table :=
  t.enterSection path fun t =>
    match t.get? k with
    | none => some (t.put k (.table .header []))
    | some (.table .implied u) => some (t.put k (.table .header u))
    | some _ => none

def openNext (t : Table) (path : List Text) (k : Text) : Option Table :=
  t.enterSection path fun t =>
    match t.get? k with
    | none => some (t.put k (.tables [[]]))
    | some (.tables us) => some (t.put k (.tables (us ++ [[]])))
    | some _ => none

/-- Adds a value under a dotted key. The table that takes it must itself be due to dotted keys,
unless it is this one. -/
def assign (t : Table) (path : List Text) (k : Text) (v : Value) : Option Table :=
  enter true
    (fun o t =>
      if (path.isEmpty ∨ o = .dotted) ∧ (t.get? k).isNone then some (t.put k v) else none)
    path .header t

end Table

end LessonText.Toml
