import LessonText.Storage.Cause
import LessonText.Storage.Path
import LessonText.Text.Utf8

namespace LessonText

inductive Entry
  | file (content : ByteArray)
  | directory

abbrev Location := List Text

structure FileTree where
  /-- What there is, latest first. An earlier entry for a place is void. -/
  entries : List (Location × Entry)
  cwd : Location

namespace FileTree

def empty (cwd : Location) : FileTree where
  entries := (List.range (cwd.length + 1)).map fun n => (cwd.take n, .directory)
  cwd := cwd

def entry? (t : FileTree) (l : Location) : Option Entry :=
  t.entries.lookup l

def insert (t : FileTree) (l : Location) (e : Entry) : FileTree :=
  { t with entries := (l, e) :: t.entries }

def isDirectoryAt (t : FileTree) (l : Location) : Bool :=
  match t.entry? l with
  | some .directory => true
  | _ => false

def step (l : Location) (name : Text) : Location :=
  if name = ".".toList then l else if name = "..".toList then l.dropLast else l ++ [name]

def walk (t : FileTree) (l : Location) : List Text → Except Cause Location
  | [] => .ok l
  | name :: names =>
    match t.entry? l with
    | some .directory => t.walk (step l name) names
    | some (.file _) => .error .notDirectory
    | none => .error .missing

def locate (t : FileTree) (p : Path) : Except Cause Location :=
  if p.names.any ('\x00' ∈ ·) then .error .zeroInPath
  else if p.names.isEmpty && !p.absolute then .error .missing
  else t.walk (if p.absolute then [] else t.cwd) p.names

def find (t : FileTree) (p : Path) : Except Cause Entry :=
  (t.locate p).bind fun l =>
    match t.entry? l with
    | none => .error .missing
    | some (.file b) => if p.slashed then .error .notDirectory else .ok (.file b)
    | some .directory => .ok .directory

def has (t : FileTree) (p : Path) : Bool :=
  (t.find p).isOk

def isDirectory (t : FileTree) (p : Path) : Bool :=
  match t.find p with
  | .ok .directory => true
  | _ => false

def readBytes (t : FileTree) (p : Path) : Except Cause ByteArray :=
  (t.find p).bind fun
    | .file b => .ok b
    | .directory => .error .isDirectory

def readText (t : FileTree) (p : Path) : Except Cause Text :=
  (t.readBytes p).bind fun b =>
    match Utf8.decode? b with
    | some text => .ok text
    | none => .error .notUtf8

def write (t : FileTree) (p : Path) (text : Text) : Except Cause FileTree :=
  (t.locate p).bind fun l =>
    if p.slashed || t.isDirectoryAt l then .error .isDirectory
    else .ok (t.insert l (.file (Utf8.encode text)))

def makeDirectory (t : FileTree) (p : Path) : Except Cause FileTree :=
  (t.locate p).bind fun l =>
    match t.entry? l with
    | some _ => .error .occupied
    | none => .ok (t.insert l .directory)

/-- Makes a directory whose path's names are given last first, and those above it that are
missing. What is there already has to be a directory. -/
def makeDirectoriesRev (t : FileTree) (absolute : Bool) : List Text → Except Cause FileTree
  | [] => .ok t
  | name :: outer =>
    let p : Path := { absolute, names := (name :: outer).reverse, slashed := false }
    let settle (t : FileTree) (c : Cause) : Except Cause FileTree :=
      if t.isDirectory p then .ok t else .error c
    match t.makeDirectory p with
    | .ok t => .ok t
    | .error .missing =>
      (t.makeDirectoriesRev absolute outer).bind fun t =>
        match t.makeDirectory p with
        | .ok t => .ok t
        | .error c => settle t c
    | .error c => settle t c

def makeDirectories (t : FileTree) (p : Path) : Except Cause FileTree :=
  t.makeDirectoriesRev p.absolute p.names.reverse

end FileTree

end LessonText
