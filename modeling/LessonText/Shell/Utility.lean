import LessonText.Authoring.Failure
import LessonText.Storage.FileTree
import LessonText.Text.Digits

namespace LessonText.Shell

structure Deed where
  output : ByteArray := .empty
  complaint : ByteArray := .empty
  unread : ByteArray := .empty
  status : Nat := 0
  /-- Set when the whole script ends here. -/
  stop : Option ExitStatus := none

namespace Utility

def ownNumber : Text := "4711"

def isOctal (c : Char) : Bool :=
  '0' ≤ c && c ≤ '7'

def octalValue (ds : Text) : Nat :=
  ds.foldl (fun n d => 8 * n + (d.toNat - 48)) 0

def byte (n : Nat) : ByteArray :=
  .mk #[.ofNat n]

def control? (c : Char) : Option Nat :=
  match c with
  | 'a' => some 7
  | 'b' => some 8
  | 't' => some 9
  | 'n' => some 10
  | 'v' => some 11
  | 'f' => some 12
  | 'r' => some 13
  | '\\' => some 92
  | _ => none

/-- Reads what follows a backslash, with the rest. Octal numbers have three digits at most, and in
the `zeroed` form a zero before them. -/
def escape (zeroed : Bool) (t : Text) : ByteArray × Text :=
  let t' := if zeroed && t.head? == some '0' then t.drop 1 else t
  let digits := (t'.take 3).takeWhile isOctal
  if !zeroed && !digits.isEmpty || zeroed && t.head? == some '0' then
    (byte (octalValue digits % 256), t'.drop digits.length)
  else
    match t with
    | c :: r =>
      match control? c with
      | some n => (byte n, r)
      | none => (Utf8.encode ['\\', c], r)
    | [] => (Utf8.encode ['\\'], [])

/-- Replaces escapes; `\c` ends the text. `fuel` bounds the characters. The flag tells whether the
text was ended. -/
def unescape : (fuel : Nat) → Text → ByteArray × Bool
  | 0, _ | _, [] => (.empty, false)
  | _ + 1, '\\' :: 'c' :: _ => (.empty, true)
  | n + 1, '\\' :: r =>
    let (b, r) := escape true r
    let (bs, ended) := unescape n r
    (b ++ bs, ended)
  | n + 1, c :: r =>
    let (bs, ended) := unescape n r
    (Utf8.encode [c] ++ bs, ended)

def echo (arguments : List Text) : Deed :=
  let (words, newline) :=
    match arguments with
    | w :: ws => if w = "-n".toList then (ws, false) else (w :: ws, true)
    | [] => ([], true)
  let line := List.intercalate [' '] words
  let (bytes, ended) := unescape line.length line
  { output := if newline && !ended then bytes ++ byte 10 else bytes }

def formatted : (fuel : Nat) → (fmt : Text) → List Text → ByteArray × List Text
  | 0, _, as | _, [], as => (.empty, as)
  | n + 1, '\\' :: r, as =>
    let (b, r) := escape false r
    let (bs, as) := formatted n r as
    (b ++ bs, as)
  | n + 1, '%' :: d :: r, as =>
    let print (b : ByteArray) (as : List Text) : ByteArray × List Text :=
      let (bs, as) := formatted n r as
      (b ++ bs, as)
    let argument := as.headD []
    match d with
    | '%' => print (byte 37) as
    | 's' => print (Utf8.encode argument) as.tail
    | 'b' => print (unescape argument.length argument).1 as.tail
    | 'c' => print (Utf8.encode (argument.take 1)) as.tail
    | 'd' => print (Utf8.encode (if argument.isEmpty then ['0'] else argument)) as.tail
    | d => print (Utf8.encode ['%', d]) as
  | n + 1, c :: r, as =>
    let (bs, as) := formatted n r as
    (Utf8.encode [c] ++ bs, as)

def printfFrom (fmt : Text) : (fuel : Nat) → List Text → ByteArray
  | 0, _ => .empty
  | n + 1, as =>
    let (b, left) := formatted fmt.length fmt as
    if left.isEmpty || left.length == as.length then b else b ++ printfFrom fmt n left

def printf : List Text → Deed
  | [] => { status := 2, complaint := Utf8.encode "printf: usage: printf format [arg ...]\n" }
  | fmt :: as => { output := printfFrom fmt (as.length + 1) as }

def cat (files : FileTree) (arguments : List Text) (input : ByteArray) : Deed :=
  let names := if arguments.isEmpty then ["-".toList] else arguments
  names.foldl
    (fun d name =>
      if name = "-".toList then { d with output := d.output ++ d.unread, unread := .empty }
      else
        match files.readBytes (.ofText name) with
        | .ok b => { d with output := d.output ++ b }
        | .error c =>
          let reason :=
            match c with
            | .missing => "No such file or directory"
            | .isDirectory => "Is a directory"
            | .notDirectory => "Not a directory"
            | _ => "Permission denied"
          { d with
            status := 1
            complaint := d.complaint ++
              Utf8.encode ("cat: " ++ name ++ ": ".toList ++ reason.toList ++ ['\n']) })
    { unread := input }

def head (arguments : List Text) (input : ByteArray) : Deed :=
  let lines (n : Nat) : Deed :=
    let pieces := input.toList.splitOn 10
    if pieces.length ≤ n then { output := input }
    else { output := .mk ((pieces.take n).flatMap (· ++ [10])).toArray }
  let bytes (n : Nat) : Deed := { output := input.extract 0 n }
  let wrong : Deed := { status := 1, complaint := Utf8.encode "head: invalid option\n" }
  match arguments with
  | [] => lines 10
  | ['-' :: 'c' :: n] | [['-', 'c'], n] => ((Text.natural? n).map bytes).getD wrong
  | ['-' :: 'n' :: n] | [['-', 'n'], n] | ['-' :: n] => ((Text.natural? n).map lines).getD wrong
  | _ => wrong

def count (arguments : List Text) (input : ByteArray) : Deed :=
  let print (n : Nat) : Deed := { output := Utf8.encode (Nat.toDigits 10 n ++ ['\n']) }
  match arguments with
  | [['-', 'c']] => print input.size
  | [['-', 'l']] => print (input.toList.count 10)
  | _ => { status := 1, complaint := Utf8.encode "wc: invalid option\n" }

def holds : List Text → Bool
  | [] => false
  | [t] => !t.isEmpty
  | [op, t] =>
    if op = "-n".toList then !t.isEmpty
    else if op = "-z".toList then t.isEmpty
    else op = "!".toList && t.isEmpty
  | [a, op, b] => op = "=".toList && a = b || op = "!=".toList && a ≠ b
  | _ => false

def test (arguments : List Text) : Deed :=
  { status := if holds arguments then 0 else 1 }

def signal? (t : Text) : Option Nat :=
  (Text.natural? t).or
    ((ExitStatus.signalNames.findIdx? fun name => name == t || name == "SIG" ++ t).map (· + 1))

def kill (arguments : List Text) : Deed :=
  let send (signal : Text) (target : Text) : Deed :=
    match signal? signal with
    | some n =>
      if target = ownNumber then
        if n = 0 then {} else { status := 128 + n, stop := some (.signal n) }
      else { status := 1, complaint := Utf8.encode "kill: No such process\n" }
    | none => { status := 2, complaint := Utf8.encode "kill: invalid signal\n" }
  match arguments with
  | ['-' :: 's' :: [], signal, target] => send signal target
  | ['-' :: signal, target] => send signal target
  | [target] => send "TERM" target
  | _ => { status := 2, complaint := Utf8.encode "kill: usage: kill [-s sigspec] pid\n" }

def exit (status : Nat) : List Text → Deed
  | [] => { status, stop := some (.code status) }
  | t :: _ =>
    let n := ((Text.natural? t).map (· % 256)).getD 2
    { status := n, stop := some (.code n) }

def run? (files : FileTree) (status : Nat) (name : Text) (arguments : List Text)
    (input : ByteArray) : Option Deed :=
  let quiet (d : Deed) : Deed := { d with unread := input }
  if name = "cat".toList then some (cat files arguments input)
  else if name = "echo".toList then some (quiet (echo arguments))
  else if name = "printf".toList then some (quiet (printf arguments))
  else if name = "true".toList ∨ name = ":".toList ∨ name = "sleep".toList then some (quiet {})
  else if name = "false".toList then some (quiet { status := 1 })
  else if name = "exit".toList then some (quiet (exit status arguments))
  else if name = "kill".toList then some (quiet (kill arguments))
  else if name = "test".toList then some (quiet (test arguments))
  else if name = "[".toList ∧ arguments.getLast? = some "]".toList then
    some (quiet (test arguments.dropLast))
  else if name = "head".toList then some (head arguments input)
  else if name = "wc".toList then some (count arguments input)
  else none

end Utility

end LessonText.Shell
