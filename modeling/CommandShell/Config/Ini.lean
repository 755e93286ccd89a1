import CommandShell.Entries
import CommandShell.Failure
import CommandShell.Text.Blank
import CommandShell.Text.Lines

/-! Files of options in sections. An option goes on over the lines indented deeper than its first;
what the default section sets is inherited by every other one. Files that are not of this form are
refused with the line at fault. -/

namespace CommandShell.Config.Ini

inductive Error
  | undecodable (fault : Text.Utf8.Fault)
  | missingHeader (line : Nat) (text : String)
  | repeatedSection (line : Nat) (name : String)
  | repeatedOption (line : Nat) (sectionName option : String)
  | unreadable (lines : List (Nat × String))
  | brokenReference (rest : String)
  | strayPercent (rest : String)
  | unknownReference (sectionName option reference raw : String)
  | tooManyReferences (sectionName option raw : String)
  deriving DecidableEq, Repr

def referenceLimit : Nat := 10

namespace Error

def label : Error → String
  | undecodable _ => "UnicodeDecodeError"
  | missingHeader .. => "MissingSectionHeaderError"
  | repeatedSection .. => "DuplicateSectionError"
  | repeatedOption .. => "DuplicateOptionError"
  | unreadable _ => "ParsingError"
  | brokenReference _ | strayPercent _ => "InterpolationSyntaxError"
  | unknownReference .. => "InterpolationMissingOptionError"
  | tooManyReferences .. => "InterpolationDepthError"

def lineTag (line : Nat) : String :=
  "[line " ++ (if line < 10 then " " else "") ++ toString line ++ "]"

def fileTag (path : String) : String := "PosixPath(" ++ Text.quoted path ++ ")"

def message (path : String) : Error → String
  | undecodable f => f.message
  | missingHeader line text =>
    "File contains no section headers.\nfile: " ++ fileTag path ++ ", line: " ++ toString line ++
      "\n" ++ Text.quoted text
  | repeatedSection line name =>
    "While reading from " ++ fileTag path ++ " " ++ lineTag line ++ ": section " ++
      Text.quoted name ++ " already exists"
  | repeatedOption line sectionName option =>
    "While reading from " ++ fileTag path ++ " " ++ lineTag line ++ ": option " ++
      Text.quoted option ++ " in section " ++ Text.quoted sectionName ++ " already exists"
  | unreadable lines =>
    "Source contains parsing errors: " ++ fileTag path ++
      String.join (lines.map fun (line, text) => "\n\t" ++ lineTag line ++ ": " ++ Text.quoted text)
  | brokenReference rest => "bad interpolation variable reference " ++ Text.quoted rest
  | strayPercent rest => "'%' must be followed by '%' or '(', found: " ++ Text.quoted rest
  | unknownReference sectionName option reference raw =>
    "Bad value substitution: option " ++ Text.quoted option ++ " in section " ++
      Text.quoted sectionName ++ " contains an interpolation key " ++ Text.quoted reference ++
      " which is not a valid option name. Raw value: " ++ Text.quoted raw
  | tooManyReferences sectionName option raw =>
    "Recursion limit exceeded in value substitution: option " ++ Text.quoted option ++
      " in section " ++ Text.quoted sectionName ++
      " contains an interpolation key which cannot be substituted in " ++
      toString referenceLimit ++ " steps. Raw value: " ++ Text.quoted raw

def fault (path : String) : Error → Fault
  | undecodable f => .undecodable f
  | e => .named e.label (e.message path)

end Error

def defaultName : String := "DEFAULT"

/-- What has been read so far. Options hold the lines of their values; `current` names the section
being read, `option` the option that further lines may belong to, and `indent` is how far its
first line is indented. -/
structure Reading where
  defaults : Entries (List String)
  sections : Entries (Entries (List String))
  current : Option String
  option : Option String
  indent : Nat
  unreadable : List (Nat × String)
  deriving Repr

namespace Reading

def start : Reading := ⟨[], [], none, none, 0, []⟩

def options (r : Reading) (sectionName : String) : Entries (List String) :=
  if sectionName = defaultName then r.defaults
  else (Entries.find? r.sections sectionName).getD []

def setOption (r : Reading) (sectionName option : String) (lines : List String) : Reading :=
  let options := Entries.put (r.options sectionName) option lines
  if sectionName = defaultName then { r with defaults := options }
  else { r with sections := Entries.put r.sections sectionName options }

def continueValue (r : Reading) (line : String) : Reading :=
  match r.current, r.option with
  | some name, some option =>
    r.setOption name option (((Entries.find? (r.options name) option).getD []) ++ [line])
  | _, _ => r

/-- Begins a section; only the default one may be begun again. -/
def enter (r : Reading) (line : Nat) (name : String) : Except Error Reading :=
  if (Entries.find? r.sections name).isSome then .error (.repeatedSection line name)
  else if name = defaultName then .ok { r with current := some name, option := none }
  else .ok { r with
    sections := Entries.put r.sections name [], current := some name, option := none }

def reject (r : Reading) (line : Nat) (text : String) : Reading :=
  { r with unreadable := r.unreadable ++ [(line, text)] }

/-- Begins an option of a section. One without a name is noted as unreadable and set all the
same. -/
def assign (r : Reading) (line : Nat) (text sectionName option value : String) :
    Except Error Reading :=
  let r := if option = "" then r.reject line text else r
  if (Entries.find? (r.options sectionName) option).isSome then
    .error (.repeatedOption line sectionName option)
  else
    .ok { r.setOption sectionName option [value] with
      option := if option = "" then none else some option }

end Reading

/-- The name in brackets at the front; it ends at the last closing bracket. -/
def header? : List Char → Option (List Char)
  | '[' :: rest =>
    match rest.reverse.dropWhile (· != ']') with
    | _ :: c :: name => some (c :: name).reverse
    | _ => none
  | _ => none

def isDelimiter (c : Char) : Bool := c == '=' || c == ':'

def option? (content : List Char) : Option (List Char × List Char) :=
  match content.dropWhile (!isDelimiter ·) with
  | _ :: value => some (Text.trimRight (content.takeWhile (!isDelimiter ·)), Text.trim value)
  | [] => none

def isComment (content : List Char) : Bool :=
  content.head? == some '#' || content.head? == some ';'

def readDeclaration (r : Reading) (line : Nat) (text : String) (content : List Char) :
    Except Error Reading :=
  match header? content with
  | some name => r.enter line (String.ofList name)
  | none =>
    match r.current with
    | none => .error (.missingHeader line text)
    | some sectionName =>
      match option? content with
      | some (name, value) =>
        r.assign line text sectionName (Text.lower (String.ofList name)) (String.ofList value)
      | none => .ok (r.reject line text)

/-- Reads one line, its end included. Blank lines belong to the value before them. -/
def readLine (r : Reading) (line : Nat) (text : List Char) : Except Error Reading :=
  let content := Text.trim text
  let indent := (text.takeWhile Text.isBlank).length
  if isComment content then .ok r
  else if content.isEmpty then .ok (r.continueValue "")
  else if r.current.isSome && r.option.isSome && r.indent < indent then
    .ok (r.continueValue (String.ofList content))
  else readDeclaration { r with indent := indent } line (String.ofList text) content

def readLines (r : Reading) (number : Nat) : List (List Char) → Except Error Reading
  | [] => .ok r
  | text :: rest =>
    match readLine r number text with
    | .error e => .error e
    | .ok r => readLines r (number + 1) rest

def linesWithEnds : List Char → List (List Char)
  | [] => []
  | c :: rest =>
    if c = '\n' then ['\n'] :: linesWithEnds rest
    else match linesWithEnds rest with
      | [] => [[c]]
      | line :: lines => (c :: line) :: lines

def blockSize : Nat := 8192

/-- Text that is passed on, and whether a carriage return at its end is held back, which may be half
of a line end. -/
def heldBack (held : Bool) (cs : List Char) : List Char × Bool :=
  if cs.isEmpty then ([], held)
  else
    let whole := if held then '\r' :: cs else cs
    if whole.getLast? == some '\r' then (whole.dropLast, true) else (whole, false)

/-- Decodes block by block. The bytes of a character cut by the end of a block are carried over to
the next one, so that a fault comes with the text of the blocks before it, but for a carriage return
that is `held` back at their end. -/
def decodeBlocks (held : Bool) (carried bytes : List UInt8) : List Char × Option Text.Utf8.Fault :=
  if bytes.isEmpty then
    match Text.Utf8.decodePrefix carried with
    | (_, some fault) => ([], some fault)
    | (s, none) => (if held then '\r' :: s.toList else s.toList, none)
  else
    let block := carried ++ bytes.take blockSize
    match Text.Utf8.decodePrefix block with
    | (s, none) =>
      let (passed, held) := heldBack held s.toList
      let (rest, fault) := decodeBlocks held [] (bytes.drop blockSize)
      (passed ++ rest, fault)
    | (s, some fault) =>
      if fault.cause = .unexpectedEnd then
        let (passed, held) := heldBack held s.toList
        let (rest, fault') := decodeBlocks held (block.drop fault.position) (bytes.drop blockSize)
        (passed ++ rest, fault')
      else ([], some fault)
  termination_by bytes.length
  decreasing_by
    all_goals
      have h : bytes ≠ [] := by intro h; simp_all
      have := List.length_pos_iff.2 h
      simp only [List.length_drop, blockSize]
      omega

/-- The lines of a file; before a fault only those that end. -/
def linesOfFile (bytes : List UInt8) : List (List Char) × Option Text.Utf8.Fault :=
  let (cs, fault) := decodeBlocks false [] bytes
  let lines := linesWithEnds (Text.unifyLineEnds cs)
  (if fault.isSome then lines.filter (·.getLast? == some '\n') else lines, fault)

structure Document where
  defaults : Entries String
  sections : Entries (Entries String)
  deriving Repr

def joinLines (lines : List String) : String :=
  String.ofList (Text.trimRight ("\n".intercalate lines).toList)

def joinOptions (options : Entries (List String)) : Entries String :=
  options.map fun (option, lines) => (option, joinLines lines)

def Reading.document (r : Reading) : Document :=
  ⟨joinOptions r.defaults, r.sections.map fun (name, options) => (name, joinOptions options)⟩

def Document.ofBytes (bytes : List UInt8) : Except Error Document :=
  let (lines, fault) := linesOfFile bytes
  match readLines .start 1 lines with
  | .error e => .error e
  | .ok r =>
    match fault with
    | some f => .error (.undecodable f)
    | none => if r.unreadable.isEmpty then .ok r.document else .error (.unreadable r.unreadable)

inductive Piece
  | char (c : Char)
  | reference (name : String)
  | broken (error : Error)

/-- The name in a reference of which the opening bracket has been read, and the length of the
rest of the reference. -/
def reference? (cs : List Char) : Option (List Char × Nat) :=
  let name := cs.takeWhile (· != ')')
  match cs.dropWhile (· != ')') with
  | ')' :: 's' :: _ => if name.isEmpty then none else some (name, name.length + 2)
  | _ => none

/-- What a per cent sign begins, and how many characters after it that takes. -/
def pieceAt (rest : List Char) : Piece × Nat :=
  let shown := String.ofList ('%' :: rest)
  match rest with
  | '%' :: _ => (.char '%', 1)
  | '(' :: more =>
    match reference? more with
    | some (name, n) => (.reference (Text.lower (String.ofList name)), n + 1)
    | none => (.broken (.brokenReference shown), 0)
  | _ => (.broken (.strayPercent shown), 0)

/-- The pieces of a value. `skip` counts characters that belong to the piece just read. -/
def piecesFrom (skip : Nat) : List Char → List Piece
  | [] => []
  | c :: rest =>
    match skip with
    | skip + 1 => piecesFrom skip rest
    | 0 =>
      if c = '%' then
        let (piece, n) := pieceAt rest
        piece :: piecesFrom n rest
      else .char c :: piecesFrom 0 rest

/-- Replaces references by the values they lead to, `options` being what they may name and
`levels` how many of them may lead to one another. -/
def expandPieces (options : Entries String) (sectionName option raw : String) :
    (levels : Nat) → List Piece → Except Error (List Char)
  | 0, _ => .error (.tooManyReferences sectionName option raw)
  | levels + 1, pieces => do
    let texts ← pieces.mapM fun
      | .char c => .ok [c]
      | .broken e => .error e
      | .reference name =>
        match Entries.find? options name with
        | none => .error (.unknownReference sectionName option name raw)
        | some value =>
          if value.toList.contains '%' then
            expandPieces options sectionName option raw levels (piecesFrom 0 value.toList)
          else .ok value.toList
    .ok texts.flatten

def expand (options : Entries String) (sectionName option value : String) :
    Except Error String :=
  (expandPieces options sectionName option value referenceLimit
    (piecesFrom 0 value.toList)).map String.ofList

def Document.optionsOf (d : Document) (sectionOptions : Entries String) : Entries String :=
  Entries.merge d.defaults sectionOptions

def Document.valuesOf (d : Document) (sectionName : String) (sectionOptions : Entries String) :
    Except Error (Entries String) :=
  let options := d.optionsOf sectionOptions
  options.mapM fun (option, value) =>
    (expand options sectionName option value).map fun v => (option, v)

/-- All sections in one table under upper-case names; a later section wins. -/
def Document.values (d : Document) : Except Error (Entries String) := do
  let found ← d.sections.mapM fun (name, options) => d.valuesOf name options
  .ok (Entries.ofList (found.flatten.map fun (option, value) => (Text.upper option, value)))

def read (bytes : List UInt8) : Except Error (Entries String) := do
  (← Document.ofBytes bytes).values

end CommandShell.Config.Ini
