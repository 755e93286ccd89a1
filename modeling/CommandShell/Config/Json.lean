import CommandShell.Config.Numeral
import CommandShell.Value.Basic

/-! Reading JSON text. `NaN`, `Infinity` and `-Infinity` are read as numbers; of equal keys in one
object the last value stays, in the place of the first. -/

namespace CommandShell.Config.Json

abbrev Result (α : Type) := Except ReadError (α × List Char)

def isSpace (c : Char) : Bool := c == ' ' || c == '\t' || c == '\n' || c == '\r'

def skipSpace (cs : List Char) : List Char := cs.dropWhile isSpace

def after? (word : String) (cs : List Char) : Option (List Char) :=
  if word.toList.isPrefixOf cs then some (cs.drop word.length) else none

def isHigh (code : Nat) : Bool := 0xD800 ≤ code && code ≤ 0xDBFF

def isLow (code : Nat) : Bool := 0xDC00 ≤ code && code ≤ 0xDFFF

/-- The character of a code. Half of a surrogate pair is none, and no text can hold it: on its own it
is read as the replacement character. -/
def charOf (code : Nat) : Char := if isHigh code || isLow code then '\ufffd' else Char.ofNat code

def pending : Option Nat → List Char
  | some high => [charOf high]
  | none => []

def escapes : List (Char × Char) :=
  [('"', '"'), ('\\', '\\'), ('/', '/'), ('b', '\x08'), ('f', '\x0c'), ('n', '\n'), ('r', '\r'),
    ('t', '\t')]

/-- The rest of a string after its opening quote. `high` is the first half of a pair just read;
`done` is the text so far, last character first. -/
def stringFrom (high : Option Nat) (done : List Char) : List Char → Result String
  | '"' :: rest => .ok (String.ofList (pending high ++ done).reverse, rest)
  | '\\' :: 'u' :: a :: b :: c :: d :: rest =>
    match [a, b, c, d].mapM digitValue? with
    | none => .error .malformed
    | some ds =>
      let code := ds.foldl (fun n d => n * 16 + d) 0
      match high with
      | some h =>
        if isLow code then
          let both := 0x10000 + (h - 0xD800) * 0x400 + (code - 0xDC00)
          stringFrom none (Char.ofNat both :: done) rest
        else if isHigh code then stringFrom (some code) (charOf h :: done) rest
        else stringFrom none (charOf code :: charOf h :: done) rest
      | none =>
        if isHigh code then stringFrom (some code) done rest
        else stringFrom none (charOf code :: done) rest
  | '\\' :: c :: rest =>
    match escapes.lookup c with
    | some e => stringFrom none (e :: (pending high ++ done)) rest
    | none => .error .malformed
  | c :: rest =>
    if c.toNat < 32 || c == '\\' then .error .malformed
    else stringFrom none (c :: (pending high ++ done)) rest
  | [] => .error .malformed

/-- The digits of a whole number: a zero alone, or digits that start with none. -/
def wholeDigits : List Char → List Char × List Char
  | '0' :: rest => (['0'], rest)
  | cs => (cs.takeWhile isDigit, cs.dropWhile isDigit)

def fractionPart : List Char → Option (List Char) × List Char
  | '.' :: rest =>
    if rest.head?.any isDigit then (some (rest.takeWhile isDigit), rest.dropWhile isDigit)
    else (none, '.' :: rest)
  | cs => (none, cs)

def exponentPart (cs : List Char) : Option (Bool × List Char) × List Char :=
  match cs with
  | e :: rest =>
    if e == 'e' || e == 'E' then
      let (down, ds) := exponentSign rest
      if ds.head?.any isDigit then (some (down, ds.takeWhile isDigit), ds.dropWhile isDigit)
      else (none, cs)
    else (none, cs)
  | [] => (none, cs)

def number (negative : Bool) (cs : List Char) : Result Value :=
  let (whole, rest) := wholeDigits cs
  let (fraction, rest) := fractionPart rest
  let (exponent, rest) := exponentPart rest
  let numeral : Numeral := ⟨negative, whole, fraction, exponent⟩
  if whole.isEmpty then .error .malformed
  else if numeral.isInteger then numeral.toInt.map fun n => (.int n, rest)
  else .ok (.float numeral.toBinary64, rest)

def scalar (cs : List Char) : Result Value :=
  let words : List (String × Value) :=
    [("null", .null), ("true", .bool true), ("false", .bool false), ("NaN", .float .nan),
      ("Infinity", .float (.infinite false)), ("-Infinity", .float (.infinite true))]
  match words.findSome? fun (word, v) => (after? word cs).map fun rest => (v, rest) with
  | some found => .ok found
  | none =>
    match cs with
    | '-' :: rest => number true rest
    | cs => number false cs

mutual

/-- One value from the front. `fuel` bounds the number of values by the length of the text, and
`depth` says how many arrays and objects may still be opened inside one another. -/
def value : (fuel depth : Nat) → List Char → Result Value
  | 0, _, _ => .error .malformed
  | fuel + 1, depth, cs =>
    match cs with
    | '"' :: rest => (stringFrom none [] rest).map fun (s, rest) => (.text s, rest)
    | '[' :: rest =>
      match depth with
      | 0 => .error (.nestedTooDeep " while decoding a JSON array from a unicode string")
      | depth + 1 =>
        match skipSpace rest with
        | ']' :: rest => .ok (.list [], rest)
        | rest => (items fuel depth [] rest).map fun (vs, rest) => (.list vs, rest)
    | '\x7b' :: rest =>
      match depth with
      | 0 => .error (.nestedTooDeep " while decoding a JSON object from a unicode string")
      | depth + 1 =>
        match skipSpace rest with
        | '\x7d' :: rest => .ok (.table [], rest)
        | rest => (fields fuel depth [] rest).map fun (fs, rest) => (.table fs, rest)
    | cs => scalar cs

/-- Values parted by commas, up to the closing bracket; `done` holds them last first. -/
def items : (fuel depth : Nat) → (done : List Value) → List Char → Result (List Value)
  | 0, _, _, _ => .error .malformed
  | fuel + 1, depth, done, cs =>
    match value fuel depth cs with
    | .error e => .error e
    | .ok (v, rest) =>
      match skipSpace rest with
      | ']' :: rest => .ok ((v :: done).reverse, rest)
      | ',' :: rest => items fuel depth (v :: done) (skipSpace rest)
      | _ => .error .malformed

/-- Keys and values parted by commas, up to the closing brace. -/
def fields : (fuel depth : Nat) → (done : Entries Value) → List Char → Result (Entries Value)
  | 0, _, _, _ => .error .malformed
  | fuel + 1, depth, done, cs =>
    match cs with
    | '"' :: rest =>
      match stringFrom none [] rest with
      | .error e => .error e
      | .ok (key, rest) =>
        match skipSpace rest with
        | ':' :: rest =>
          match value fuel depth (skipSpace rest) with
          | .error e => .error e
          | .ok (v, rest) =>
            match skipSpace rest with
            | '\x7d' :: rest => .ok (Entries.put done key v, rest)
            | ',' :: rest => fields fuel depth (Entries.put done key v) (skipSpace rest)
            | _ => .error .malformed
        | _ => .error .malformed
    | _ => .error .malformed

end

/-- The value of a whole text whose arrays and objects are nested at most `depth` deep; a byte order
mark is not part of one. -/
def readWithin (depth : Nat) (text : String) : Except ReadError Value :=
  let cs := skipSpace text.toList
  match value (2 * cs.length + 2) depth cs with
  | .error e => .error e
  | .ok (v, rest) => if (skipSpace rest).isEmpty then .ok v else .error .malformed

def nestingLimit : Nat := 989

def read (text : String) : Except ReadError Value := readWithin nestingLimit text

end CommandShell.Config.Json
