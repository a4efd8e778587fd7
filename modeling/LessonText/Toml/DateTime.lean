import LessonText.Text

namespace LessonText.Toml.DateTime

def pair? : Text → Option (Nat × Text)
  | a :: b :: t =>
    if a.isDigit && b.isDigit then some (10 * (a.toNat - 48) + (b.toNat - 48), t) else none
  | _ => none

def isLeap (year : Nat) : Bool :=
  year % 4 = 0 && (year % 100 ≠ 0 || year % 400 = 0)

def daysIn (year month : Nat) : Nat :=
  if month = 2 then if isLeap year then 29 else 28
  else if [4, 6, 9, 11].contains month then 30
  else 31

def afterDate? (t : Text) : Option Text := do
  let (century, t) ← pair? t
  let (year, t) ← pair? t
  let t ← Text.after? "-" t
  let (month, t) ← pair? t
  let t ← Text.after? "-" t
  let (day, t) ← pair? t
  if 1 ≤ month && month ≤ 12 && 1 ≤ day && day ≤ daysIn (100 * century + year) month then
    return t
  else none

def afterSeconds? (t : Text) : Option Text :=
  match t with
  | ':' :: t => do
    let (second, t) ← pair? t
    if 60 < second then none
    else
      match t with
      | '.' :: c :: t => if c.isDigit then some (t.dropWhile Char.isDigit) else none
      | '.' :: [] => none
      | t => some t
  | t => some t

def afterTime? (t : Text) : Option Text := do
  let (hour, t) ← pair? t
  let t ← Text.after? ":" t
  let (minute, t) ← pair? t
  if 23 < hour || 59 < minute then none else afterSeconds? t

def isOffset : Text → Bool
  | [] => true
  | ['Z'] | ['z'] => true
  | c :: t =>
    (c = '+' || c = '-') &&
      match pair? t with
      | some (hour, ':' :: t) =>
        match pair? t with
        | some (minute, []) => hour ≤ 23 && minute ≤ 59
        | _ => false
      | _ => false

def isDate (t : Text) : Bool :=
  afterDate? t == some []

def isDateTime (t : Text) : Bool :=
  match afterDate? t with
  | some [] => true
  | some (c :: t) =>
    ['T', 't', ' '].contains c && ((afterTime? t).map isOffset).getD false
  | none => afterTime? t == some []

end LessonText.Toml.DateTime
