import LessonText.CommandLine.Run
import LessonText.CommandLine.Session
import LessonText.Storage.Account

namespace LessonText.Main

def location (l : Location) : String :=
  "/" ++ String.ofList (List.intercalate ['/'] l)

def learnFrom (files : FileTree) (l : Location) (names : List Text) : IO FileTree := do
  let p := (← IO.currentDir) / location l
  if ← p.isDir then
    let files := files.insert l .directory
    match names with
    | [] => return files
    | name :: names => learnFrom files (FileTree.step l name) names
  else if ← p.pathExists then
    return files.insert l (.file (← try IO.FS.readBinFile p catch _ => pure .empty))
  else return files

def learn (files : FileTree) (path : Text) : IO FileTree :=
  let p := Path.ofText path
  learnFrom files (if p.absolute then [] else files.cwd) p.names

partial def readAll (input : IO.FS.Stream) (before : ByteArray) : IO ByteArray := do
  let b ← input.read 65536
  if b.isEmpty then return before else readAll input (before ++ b)

def readText (path : String) : IO Text := do
  let b ← try IO.FS.readBinFile path catch _ => pure .empty
  return Utf8.decodeLossy b

def surroundings : IO Surroundings := do
  let cwd := (Path.ofText (← IO.currentDir).toString.toList).names
  let passwords ← readText "/etc/passwd"
  let user? := Account.user? (← readText "/proc/self/status")
  let high ← IO.rand 0 0xFFFFFFFFFFFFFFFF
  let low ← IO.rand 0 0xFFFFFFFFFFFFFFFF
  return {
    files := .empty cwd
    environment := .ofText (← readText "/proc/self/environ")
    account := user?.bind (Account.home? passwords)
    input := .empty
    session := Session.identifier high low }

def prepare (c : Command) (w : Surroundings) : IO Surroundings := do
  let w := { w with files := ← (c.paths w).foldlM learn w.files }
  let w := { w with files := ← (c.paths w).foldlM learn w.files }
  if c.readsInput then return { w with input := ← readAll (← IO.getStdin) .empty } else return w

def keep (r : Report) (path : Text) : IO Unit := do
  if let .ok b := r.files.readBytes (.ofText path) then
    IO.FS.writeBinFile (String.ofList path) b

def carryOut (r : Report) : IO UInt32 := do
  (← IO.getStdout).write r.output
  (← IO.getStdout).flush
  (← IO.getStderr).putStr (String.ofList r.complaint)
  return .ofNat r.status

def run (words : List Text) : IO UInt32 := do
  let w ← surroundings
  match Arguments.read words with
  | .error _ => carryOut (w.run words)
  | .ok c =>
    let r := (← prepare c w).run words
    match c.target?, r.status with
    | some path, 0 =>
      try
        keep r path
        carryOut r
      catch _ => carryOut (Command.failed r.files .notCopied)
    | _, _ => carryOut r

end LessonText.Main

def main (words : List String) : IO UInt32 :=
  LessonText.Main.run (words.map String.toList)
