import LessonText.Display.Style
import LessonText.Proofs.Text.Cutting
import LessonText.Text.Digits

namespace LessonText

structure Pen where
  colour : Option Nat := none
  bold : Bool := false
  italic : Bool := false
  deriving DecidableEq, Repr

structure Cell where
  char : Char
  pen : Pen
  deriving DecidableEq, Repr

inductive Selection
  | reset
  | bold
  | italic
  | colour (number : Option Nat)
  deriving DecidableEq, Repr

namespace Selection

def ofCodes? : List Nat → Option Selection
  | [0] => some .reset
  | [1] => some .bold
  | [3] => some .italic
  | [39] => some (.colour none)
  | [38, 5, n] => if n < 256 then some (.colour (some n)) else none
  | _ => none

def ofParameters? (t : Text) : Option Selection :=
  ((t.splitOn ';').mapM Text.natural?).bind ofCodes?

def introducer : Char := '\x1b'

/-- An escape sequence at the start of a text. One that selects nothing known is none, and so stays
visible. -/
def match? : Text → Option (Selection × Text)
  | e :: '[' :: t =>
    if e = introducer then
      match t.dropWhile (· != 'm') with
      | [] => none
      | _ :: rest => (ofParameters? (t.takeWhile (· != 'm'))).map (·, rest)
    else none
  | _ => none

theorem length_lt_of_match? {t rest : Text} {s : Selection} (h : match? t = some (s, rest)) :
    rest.length < t.length := by
  unfold match? at h
  split at h
  next e t =>
    split at h
    next =>
      split at h
      next => contradiction
      next c r hd =>
        rw [Option.map_eq_some_iff] at h
        obtain ⟨s', -, hr⟩ := h
        have hle := (List.dropWhile_sublist (· != 'm') (l := t)).length_le
        rw [hd, List.length_cons] at hle
        rw [← (Prod.mk.inj hr).2, List.length_cons, List.length_cons]
        omega
    next => contradiction
  next => contradiction

theorem match?_of_ne {c : Char} (h : c ≠ introducer) (t : Text) : match? (c :: t) = none := by
  unfold match?
  split
  next heq =>
    rw [(List.cons.inj heq).1] at h
    rw [if_neg h]
  next => rfl

def pattern : Pattern Selection where
  match? := match?
  shorter := length_lt_of_match?

end Selection

namespace Pen

def apply (p : Pen) : Selection → Pen
  | .reset => {}
  | .bold => { p with bold := true }
  | .italic => { p with italic := true }
  | .colour n => { p with colour := n }

def cells (p : Pen) (t : Text) : List Cell :=
  t.map (⟨·, p⟩)

@[simp] theorem map_char_cells (p : Pen) (t : Text) : (p.cells t).map Cell.char = t := by
  simp [cells, Function.comp_def]

end Pen

namespace Terminal

def draw (p : Pen) : List (Fragment Selection) → List Cell × Pen
  | [] => ([], p)
  | .plain t :: fs => (p.cells t ++ (draw p fs).1, (draw p fs).2)
  | .found s :: fs => draw (p.apply s) fs

def read (p : Pen) (t : Text) : List Cell × Pen :=
  draw p (Selection.pattern.cut t)

def screen (t : Text) : List Cell :=
  (read {} t).1

def visible (t : Text) : Text :=
  (screen t).map Cell.char

def penAfter (t : Text) : Pen :=
  (read {} t).2

def after (cs : List Cell) (r : List Cell × Pen) : List Cell × Pen :=
  (cs ++ r.1, r.2)

open Pattern (release cutFrom)

variable {p q r : Pen} {s : Selection} {c : Char} {t u rest held : Text} {cs ds : List Cell}

theorem draw_release (p : Pen) (held : Text) (fs : List (Fragment Selection)) :
    draw p (release held fs) = after (p.cells held.reverse) (draw p fs) := by
  cases held <;> rfl

theorem after_append (cs ds : List Cell) (r : List Cell × Pen) :
    after (cs ++ ds) r = after cs (after ds r) := by
  simp [after]

@[simp] theorem read_nil (p : Pen) : read p [] = ([], p) := by
  simp [read, Pattern.cut, draw]

theorem read_of_match? (h : Selection.match? t = some (s, rest)) :
    read p t = read (p.apply s) rest := by
  have hm : Selection.pattern.match? t = some (s, rest) := h
  rw [read, Pattern.cut_of_match? hm, draw, read]

theorem read_cons (h : Selection.match? (c :: t) = none) :
    read p (c :: t) = after (p.cells [c]) (read p t) := by
  -- the character joins the run of plain characters that the rest begins with
  obtain ⟨gap, rest, rfl, hgap⟩ := Selection.pattern.exists_isGap t
  have hcons := (hgap.cons h).cut_append_eq_release
  rw [read, read, ← List.cons_append, hcons, hgap.cut_append_eq_release, draw_release, draw_release,
    List.reverse_reverse, List.reverse_reverse, ← after_append]
  rfl

theorem read_append (h : Selection.introducer ∉ t) (rest : Text) :
    read p (t ++ rest) = after (p.cells t) (read p rest) := by
  induction t with
  | nil => rfl
  | cons c t ih =>
    rw [List.mem_cons, not_or] at h
    rw [List.cons_append, read_cons (Selection.match?_of_ne (Ne.symm h.1) _), ih h.2,
      ← after_append]
    rfl

/-- A text that shows these cells, and takes the pen from `p` to `q`, whatever follows it. -/
def Draws (t : Text) (p : Pen) (cs : List Cell) (q : Pen) : Prop :=
  ∀ rest, read p (t ++ rest) = after cs (read q rest)

namespace Draws

theorem nil (p : Pen) : Draws [] p [] p :=
  fun _ => rfl

theorem append (h : Draws t p cs q) (h' : Draws u q ds r) : Draws (t ++ u) p (cs ++ ds) r := by
  intro rest
  rw [List.append_assoc, h, h', after_append]

theorem plain (h : Selection.introducer ∉ t) (p : Pen) : Draws t p (p.cells t) p :=
  read_append h

theorem screen_eq (h : Draws t {} cs q) : screen t = cs := by
  have ht := h []
  rw [List.append_nil, read_nil] at ht
  rw [screen, ht, after, List.append_nil]

theorem penAfter_eq (h : Draws t {} cs q) : penAfter t = q := by
  have ht := h []
  rw [List.append_nil, read_nil] at ht
  rw [penAfter, ht, after]

end Draws

end Terminal

def Colour.number? : Colour → Option Nat
  | .darkGrey => some 8
  | .green => some 10
  | .yellow => some 11
  | .blue => some 12
  | .magenta => some 13
  | .cyan => some 14
  | .standard => none

namespace Selection

theorem match?_colour (c : Colour) (rest : Text) :
    match? (selectGraphic c.parameters ++ rest) = some (.colour c.number?, rest) := by
  cases c <;> rfl

theorem match?_bold (rest : Text) :
    match? (selectGraphic Face.bold.parameters ++ rest) = some (.bold, rest) := rfl

theorem match?_italic (rest : Text) :
    match? (selectGraphic Face.italic.parameters ++ rest) = some (.italic, rest) := rfl

theorem match?_reset (rest : Text) :
    match? (selectGraphic "0" ++ rest) = some (.reset, rest) := rfl

end Selection

namespace Style

def pen (s : Style) : Pen where
  colour := s.colour.bind Colour.number?
  bold := s.face = some .bold
  italic := s.face = some .italic

open Terminal (Draws)

variable {t : Text}

theorem draws_selectGraphic {parameters : Text} {e : Selection}
    (h : ∀ rest, Selection.match? (selectGraphic parameters ++ rest) = some (e, rest)) (p : Pen) :
    Draws (selectGraphic parameters) p [] (p.apply e) :=
  fun rest => Terminal.read_of_match? (h rest)

theorem draws_colour (c : Option Colour) :
    Draws ((c.map Colour.parameters).toList.flatMap selectGraphic) {} []
      { colour := c.bind Colour.number? } := by
  cases c with
  | none => exact Draws.nil {}
  | some c =>
    rw [Option.map_some, Option.toList_some, List.flatMap_singleton]
    exact draws_selectGraphic (Selection.match?_colour c) {}

theorem draws_face (f : Option Face) (n : Option Nat) :
    Draws ((f.map Face.parameters).toList.flatMap selectGraphic) { colour := n } []
      { colour := n, bold := f = some .bold, italic := f = some .italic } := by
  cases f with
  | none => exact Draws.nil _
  | some f =>
    rw [Option.map_some, Option.toList_some, List.flatMap_singleton]
    cases f with
    | bold => exact draws_selectGraphic Selection.match?_bold { colour := n }
    | italic => exact draws_selectGraphic Selection.match?_italic { colour := n }

theorem draws_opening (s : Style) : Draws s.opening {} [] s.pen := by
  rw [opening, List.flatMap_append]
  exact (draws_colour s.colour).append (draws_face s.face _)

theorem draws_closing (s : Style) : Draws s.closing s.pen [] {} := by
  rcases s with ⟨c, _ | f⟩
  · -- a colour alone gives way to the terminal's own, and nothing else was selected
    cases c with
    | none => exact Draws.nil {}
    | some c => exact draws_selectGraphic (Selection.match?_colour .standard) _
  · exact draws_selectGraphic Selection.match?_reset _

theorem draws_paint (s : Style) (h : Selection.introducer ∉ t) :
    Draws (s.paint t) {} (s.pen.cells t) {} := by
  have hpaint := (s.draws_opening.append (Draws.plain h s.pen)).append s.draws_closing
  rwa [List.nil_append, List.append_nil] at hpaint

end Style

end LessonText
