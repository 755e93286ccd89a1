import CommandShell.Entries
import CommandShell.Failure
import CommandShell.Location

/-! A file system as a value: directories and the bytes of files by absolute path. An operation
that cannot be done says why, naming the path it was given. -/

namespace CommandShell

inductive Node
  | directory
  | file (bytes : List UInt8)
  deriving DecidableEq, Repr

structure Files where
  nodes : Entries Node
  deriving Repr

namespace Files

def empty : Files := ⟨[]⟩

def nodeAt (fs : Files) (names : List String) : Option Node :=
  if names.isEmpty then some .directory else Entries.find? fs.nodes (Location.ofNames names)

inductive Place
  | found (names : List String) (node : Node)
  | free (names : List String)
  | missing
  | blocked
  | nameTooLong

def nameLimit : Nat := 255

/-- Walks through names from the directory `done`, whose last name comes first; every name but the
last must be that of a directory. -/
def walk (fs : Files) (done : List String) : List String → Place
  | [] =>
    match fs.nodeAt done.reverse with
    | some node => .found done.reverse node
    | none => .free done.reverse
  | name :: rest =>
    match fs.nodeAt done.reverse with
    | none => .missing
    | some (.file _) => .blocked
    | some .directory =>
      if name == ".." then walk fs done.tail rest
      else if nameLimit < name.utf8ByteSize then .nameTooLong
      else walk fs (name :: done) rest

def find (fs : Files) (path : String) : Place := fs.walk [] (Location.parts path)

def checkPath (path : String) : Except Fault Unit :=
  if path.toList.contains '\x00' then .error (.value "embedded null byte") else .ok ()

def tooLong (path : String) : Fault :=
  .file (.other (FileFault.numbered 36 "File name too long" path))

def read (fs : Files) (path : String) : Except Fault (List UInt8) := do
  checkPath path
  match fs.find path with
  | .found _ (.file bytes) => .ok bytes
  | .found _ .directory => .error (.file (.isDirectory path))
  | .free _ | .missing => .error (.file (.missing path))
  | .blocked => .error (.file (.notDirectory path))
  | .nameTooLong => .error (tooLong path)

def put (fs : Files) (names : List String) (node : Node) : Files :=
  ⟨Entries.put fs.nodes (Location.ofNames names) node⟩

def write (fs : Files) (path : String) (bytes : List UInt8) : Except Fault Files := do
  checkPath path
  match fs.find path with
  | .found names (.file _) | .free names => .ok (fs.put names (.file bytes))
  | .found _ .directory => .error (.file (.isDirectory path))
  | .missing => .error (.file (.missing path))
  | .blocked => .error (.file (.notDirectory path))
  | .nameTooLong => .error (tooLong path)

def append (fs : Files) (path : String) (bytes : List UInt8) : Except Fault Files := do
  checkPath path
  match fs.find path with
  | .found names (.file old) => .ok (fs.put names (.file (old ++ bytes)))
  | _ => fs.write path bytes

/-- Makes one directory in a directory that is there; one that is there already will do. -/
def makeDirectory (fs : Files) (path : String) : Except Fault Files := do
  checkPath path
  match fs.find path with
  | .found _ .directory => .ok fs
  | .found _ (.file _) => .error (.file (.alreadyExists path))
  | .free names => .ok (fs.put names .directory)
  | .missing => .error (.file (.missing path))
  | .blocked => .error (.file (.notDirectory path))
  | .nameTooLong => .error (tooLong path)

/-- Makes a directory after those above it that are missing. `fuel` counts the names of the path. -/
def makeDirectories (fs : Files) (path : String) : (fuel : Nat) → Files × Option Fault
  | 0 =>
    match fs.makeDirectory path with
    | .ok fs => (fs, none)
    | .error e => (fs, some e)
  | fuel + 1 =>
    match fs.makeDirectory path with
    | .ok fs => (fs, none)
    | .error (.file (.missing _)) =>
      match makeDirectories fs (Location.parent path) fuel with
      | (fs, some e) => (fs, some e)
      | (fs, none) =>
        match fs.makeDirectory path with
        | .ok fs => (fs, none)
        | .error e => (fs, some e)
    | .error e => (fs, some e)

def writeBelow (fs : Files) (path : String) (bytes : List UInt8) : Files × Option Fault :=
  match fs.makeDirectories (Location.parent path) (Location.parts path).length with
  | (fs, some e) => (fs, some e)
  | (fs, none) =>
    match fs.write path bytes with
    | .ok fs => (fs, none)
    | .error e => (fs, some e)

end Files
end CommandShell
