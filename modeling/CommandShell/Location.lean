import CommandShell.Text.Cut

/-! Names of places in a file system: their normal form, joining, and resolution against a working
directory. Links are not looked at, so going up undoes the step before. -/

namespace CommandShell.Location

/-- The names a path goes through; empty parts and single dots go nowhere. -/
def parts (path : String) : List String :=
  (Text.parts '/' path).filter fun p => p != "" && p != "."

def isAbsolute (path : String) : Bool := path.toList.head? == some '/'

/-- What an absolute path starts with: exactly two slashes are kept apart from one. -/
def root (path : String) : String :=
  match path.toList with
  | '/' :: '/' :: '/' :: _ => "/"
  | '/' :: '/' :: _ => "//"
  | '/' :: _ => "/"
  | _ => ""

def normal (path : String) : String :=
  let names := "/".intercalate (parts path)
  if root path == "" && names == "" then "." else root path ++ names

/-- A path below a directory; an absolute one stands for itself. -/
def join (directory path : String) : String :=
  if isAbsolute path then normal path else normal (directory ++ "/" ++ path)

def parent (path : String) : String :=
  root path ++ "/".intercalate (parts path).dropLast

/-- Goes through names one by one, from `done`, whose last name comes first. -/
def ascend (done : List String) : List String → List String
  | [] => done.reverse
  | name :: rest => if name == ".." then ascend done.tail rest else ascend (name :: done) rest

def ofNames (names : List String) : String := "/" ++ "/".intercalate names

def resolve (directory path : String) : String :=
  let names := if isAbsolute path then parts path else parts directory ++ parts path
  ofNames (ascend [] names)

end CommandShell.Location
