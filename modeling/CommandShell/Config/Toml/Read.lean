import CommandShell.Config.Toml.Document
import CommandShell.Config.Toml.Scalar

/-! Reading TOML text: keys, arrays and tables written as values, and a whole text, statement by
statement. Readers of nested things take fuel, of which the length of the text is enough. -/

namespace CommandShell.Config.Toml

def isBareKeyChar (c : Char) : Bool := c.isAlphanum || c == '-' || c == '_'

def keyName (cs : List Char) : Result String :=
  match lineString? cs with
  | some r => r.map fun (name, rest) => (String.ofList name, rest)
  | none =>
    let name := cs.takeWhile isBareKeyChar
    if name.isEmpty then .error .malformed
    else .ok (String.ofList name, cs.dropWhile isBareKeyChar)

/-- The names of a dotted key, `done` being those before, last one first. -/
def keyFrom : (fuel : Nat) → (done : Path) → List Char → Result Path
  | 0, _, _ => .error .malformed
  | fuel + 1, done, cs =>
    match keyName cs with
    | .error e => .error e
    | .ok (name, rest) =>
      match skipBlanks rest with
      | '.' :: rest => keyFrom fuel (name :: done) (skipBlanks rest)
      | rest => .ok ((name :: done).reverse, rest)

def key (cs : List Char) : Result Path := keyFrom (cs.length + 1) [] cs

def keyBeforeValue (cs : List Char) : Result Path :=
  match key cs with
  | .error e => .error e
  | .ok (path, '=' :: rest) => .ok (path, skipBlanks rest)
  | .ok _ => .error .malformed

def arrayRoom : Nat := 2

/-- The room that a table written as a value takes as long as it is open. -/
def tableRoom : Nat := 3

def nestingRoom : Nat := 986

mutual

/-- One value from the front, `room` being what is left for opening arrays and tables. -/
def value : (fuel room : Nat) → List Char → Result Value
  | 0, _, _ => .error .malformed
  | fuel + 1, room, cs =>
    match cs with
    | '[' :: rest =>
      if room < arrayRoom then .error (.nestedTooDeep "")
      else (items fuel (room - arrayRoom) [] rest).map fun (vs, rest) => (.list vs, rest)
    | '\x7b' :: rest =>
      if room < tableRoom then .error (.nestedTooDeep "")
      else match skipBlanks rest with
        | '\x7d' :: rest => .ok (.table [], rest)
        | rest => (fields fuel (room - tableRoom) .empty rest).map fun (t, rest) =>
          (.table t.fields, rest)
    | cs => scalar cs

/-- Values up to the closing bracket, with commas between them and perhaps one after the last;
`done` holds them last first. -/
def items : (fuel room : Nat) → (done : List Value) → List Char → Result (List Value)
  | 0, _, _, _ => .error .malformed
  | fuel + 1, room, done, cs =>
    match skipLines false cs with
    | .error e => .error e
    | .ok (']' :: rest) => .ok (done.reverse, rest)
    | .ok cs =>
      match value fuel room cs with
      | .error e => .error e
      | .ok (v, rest) =>
        match skipLines false rest with
        | .error e => .error e
        | .ok (']' :: rest) => .ok ((v :: done).reverse, rest)
        | .ok (',' :: rest) => items fuel room (v :: done) rest
        | .ok _ => .error .malformed

/-- Keys and values up to the closing brace, with commas between them. -/
def fields : (fuel room : Nat) → Inline → List Char → Result Inline
  | 0, _, _, _ => .error .malformed
  | fuel + 1, room, table, cs =>
    match keyBeforeValue cs with
    | .error e => .error e
    | .ok (path, rest) =>
      match value fuel room rest with
      | .error e => .error e
      | .ok (v, rest) =>
        match table.assign path v with
        | none => .error .malformed
        | some table =>
          match skipBlanks rest with
          | '\x7d' :: rest => .ok (table, rest)
          | ',' :: rest => fields fuel room table (skipBlanks rest)
          | _ => .error .malformed

end

/-- A table header, of which the opening brackets have been read. -/
def header (closing : List Char) (declare : Path → Option Document) (cs : List Char) :
    Result Document :=
  match key (skipBlanks cs) with
  | .error e => .error e
  | .ok (path, rest) =>
    match declare path with
    | none => .error .malformed
    | some d =>
      if closing.isPrefixOf rest then .ok (d, rest.drop closing.length) else .error .malformed

/-- One statement, if there is one before the end of the line. -/
def statement (d : Document) : List Char → Result Document
  | '[' :: '[' :: rest => header [']', ']'] d.settle.declareItem rest
  | '[' :: rest => header [']'] d.settle.declare rest
  | cs =>
    if cs.isEmpty || cs.head? == some '\n' || cs.head? == some '#' then .ok (d, cs)
    else
      match keyBeforeValue cs with
      | .error e => .error e
      | .ok (path, rest) =>
        match value (2 * rest.length + 2) nestingRoom rest with
        | .error e => .error e
        | .ok (v, rest) =>
          match d.assign path v with
          | none => .error .malformed
          | some d => .ok (d, rest)

/-- What follows the end of a line; nothing at the end of the text. -/
def lineEnd (cs : List Char) : Except ReadError (Option (List Char)) :=
  match skipComment (skipBlanks cs) with
  | .error e => .error e
  | .ok [] => .ok none
  | .ok ('\n' :: rest) => .ok (some rest)
  | .ok _ => .error .malformed

def statements : (fuel : Nat) → Document → List Char → Except ReadError Document
  | 0, _, _ => .error .malformed
  | fuel + 1, d, cs =>
    match statement d (skipBlanks cs) with
    | .error e => .error e
    | .ok (d, rest) =>
      match lineEnd rest with
      | .error e => .error e
      | .ok none => .ok d
      | .ok (some rest) => statements fuel d rest

/-- A carriage return before a line feed does not count. -/
def dropReturns : List Char → List Char
  | [] => []
  | '\r' :: '\n' :: rest => '\n' :: dropReturns rest
  | c :: rest => c :: dropReturns rest

def read (text : String) : Except ReadError Value :=
  let cs := dropReturns text.toList
  match statements (cs.length + 1) .empty cs with
  | .error e => .error e
  | .ok d => .ok (.table d.root)

end CommandShell.Config.Toml
