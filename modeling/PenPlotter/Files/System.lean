import PenPlotter.Files.Location
import PenPlotter.Text.Utf8

/-! # Files

A file system as a value: a list of places with what is there.  A place is the list of names
that lead to it from the working directory, or from the root, which is called `/`.  Places above
the working directory begin with two points.  Every operation gives back the new file system and
says whether it succeeded.  There are no permissions and no symbolic links, and every name is a
text. -/

namespace PenPlotter

/-- Why an operation on files fails. -/
inductive FileError where
  | notFound
  | alreadyExists
  | notDirectory
  | isDirectory
  | nameTooLong
  | badName
  | notText
deriving Repr, DecidableEq, Inhabited

def FileError.message : FileError → String
  | .notFound => "No such file or directory (os error 2)"
  | .alreadyExists => "File exists (os error 17)"
  | .notDirectory => "Not a directory (os error 20)"
  | .isDirectory => "Is a directory (os error 21)"
  | .nameTooLong => "File name too long (os error 36)"
  | .badName => "file name contained an unexpected NUL byte"
  | .notText => "stream did not contain valid UTF-8"

/-- What a file holds. -/
inductive FileContent where
  | text (s : String)
  | bytes (bs : List UInt8)
deriving Repr, DecidableEq, Inhabited

def FileContent.text? : FileContent → Option String
  | .text s => some s
  | .bytes bs => Utf8.text? bs

/-- What is at a place. -/
inductive FileNode where
  | file (content : FileContent)
  | directory
deriving Repr, DecidableEq, Inhabited

/-- The names that lead to a place. -/
abbrev Place := List String

/-- The places where something is; the root, the working directory and those above it are not
listed. -/
structure FileSystem where
  nodes : List (Place × FileNode)
deriving Repr, Inhabited

namespace FileSystem

/-- Whether a place is the working directory or one above it. -/
def isOnTop (place : Place) : Bool := place.all (· == "..")

def find? (fs : FileSystem) (place : Place) : Option FileNode :=
  if isOnTop place ∨ place = ["/"] then some .directory
  else (fs.nodes.find? (·.1 == place)).map (·.2)

def put (fs : FileSystem) (place : Place) (node : FileNode) : FileSystem :=
  ⟨(place, node) :: fs.nodes.filter (·.1 != place)⟩

def step (place : Place) (name : String) : Place :=
  if name = "." then place
  else if name = ".." then
    if place = ["/"] then place
    else if isOnTop place then place ++ [name]
    else place.dropLast
  else place ++ [name]

def maxNameLength : Nat := 255

def maxLocationLength : Nat := 4095

/-- The place that a step from another place leads to; that one has to be a directory. -/
def enter (fs : FileSystem) (place : Place) (name : String) : Except FileError Place :=
  match fs.find? place with
  | none => .error .notFound
  | some (.file _) => .error .notDirectory
  | some .directory =>
    if maxNameLength < name.utf8ByteSize then .error .nameTooLong else .ok (step place name)

/-- The place that the given steps of a location lead to. -/
def follow (fs : FileSystem) (l : Location) (steps : List String) : Except FileError Place :=
  if l.text.toList.contains '\x00' then .error .badName
  else if maxLocationLength < l.text.utf8ByteSize then .error .nameTooLong
  else if l.text.isEmpty then .error .notFound
  else steps.foldlM fs.enter (if l.isAbsolute then ["/"] else [])

def locate (fs : FileSystem) (l : Location) : Except FileError Place := fs.follow l l.steps

/-- What is at a location; only a directory is at one that ends in a slash. -/
def look (fs : FileSystem) (l : Location) : Except FileError FileNode := do
  match fs.find? (← fs.locate l) with
  | none => .error .notFound
  | some .directory => .ok .directory
  | some node => if l.endsInSlash then .error .notDirectory else .ok node

def isThere (fs : FileSystem) (l : Location) : Bool := (fs.look l).isOk

def isDirectory (fs : FileSystem) (l : Location) : Bool :=
  match fs.look l with
  | .ok .directory => true
  | _ => false

def readText (fs : FileSystem) (l : Location) : Except FileError String := do
  match ← fs.look l with
  | .directory => .error .isDirectory
  | .file content =>
    match content.text? with
    | some s => .ok s
    | none => .error .notText

/-- The place of a file that is to be written.  A location that ends in a slash is none, whatever
is there and however long the last name is. -/
def locateFile (fs : FileSystem) (l : Location) : Except FileError Place := do
  if l.endsInSlash then
    let place ← fs.follow l l.steps.dropLast
    let _ ← fs.enter place "."
    .error .isDirectory
  else fs.locate l

/-- Writes a whole file, or leaves everything as it is. -/
def writeText (fs : FileSystem) (l : Location) (s : String) : FileSystem × Except FileError Unit :=
  match fs.locateFile l with
  | .error e => (fs, .error e)
  | .ok place =>
    match fs.find? place with
    | some .directory => (fs, .error .isDirectory)
    | _ => (fs.put place (.file (.text s)), .ok ())

def makeDirectory (fs : FileSystem) (l : Location) : FileSystem × Except FileError Unit :=
  match fs.locate l with
  | .error e => (fs, .error e)
  | .ok place =>
    match fs.find? place with
    | some _ => (fs, .error .alreadyExists)
    | none => (fs.put place .directory, .ok ())

/-- Succeeds also where a directory was there before. -/
def settle (l : Location) : FileSystem × Except FileError Unit → FileSystem × Except FileError Unit
  | (fs, .ok ()) => (fs, .ok ())
  | (fs, .error e) => if fs.isDirectory l then (fs, .ok ()) else (fs, .error e)

/-- Makes the first of the given directories, and before it the others where they are missing. -/
def makeDirectories (fs : FileSystem) : List Location → FileSystem × Except FileError Unit
  | [] => (fs, .ok ())
  | l :: above =>
    match fs.makeDirectory l with
    | (_, .error .notFound) =>
      match fs.makeDirectories above with
      | (fs', .ok ()) => settle l (fs'.makeDirectory l)
      | failed => failed
    | outcome => settle l outcome

/-- Makes the directory that a file is to be written to. -/
def makeParent (fs : FileSystem) (l : Location) : FileSystem × Except FileError Unit :=
  fs.makeDirectories l.above

/-- The file system that holds just the given files and directories, and the directories that
they are in. -/
def ofList (content : List (Location × FileNode)) : FileSystem :=
  content.foldl (fun fs (l, node) =>
    (fs.makeParent l).1.put (l.steps.foldl step (if l.isAbsolute then ["/"] else [])) node) ⟨[]⟩

end FileSystem

end PenPlotter
