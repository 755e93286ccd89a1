import CommandShell.Config.Numeral

/-! Blanks, comments and the four kinds of strings in TOML text. -/

namespace CommandShell.Config.Toml

abbrev Result (α : Type) := Except ReadError (α × List Char)

def isBlank (c : Char) : Bool := c == ' ' || c == '\t'

def skipBlanks (cs : List Char) : List Char := cs.dropWhile isBlank

def isIllegal (c : Char) : Bool := (c.toNat < 32 || c.toNat == 127) && c != '\t'

def skipComment : List Char → Except ReadError (List Char)
  | '#' :: rest =>
    if (rest.takeWhile (· != '\n')).any isIllegal then .error .malformed
    else .ok (rest.dropWhile (· != '\n'))
  | cs => .ok cs

def skipLines (inComment : Bool) : List Char → Except ReadError (List Char)
  | [] => .ok []
  | c :: rest =>
    if c = '\n' then skipLines false rest
    else if inComment then
      if isIllegal c then .error .malformed else skipLines true rest
    else if isBlank c then skipLines false rest
    else if c = '#' then skipLines true rest
    else .ok (c :: rest)

def literal (cs : List Char) : Result (List Char) :=
  let text := cs.takeWhile (· != '\'')
  match cs.dropWhile (· != '\'') with
  | _ :: rest => if text.any isIllegal then .error .malformed else .ok (text, rest)
  | [] => .error .malformed

def skipFirstEnd : List Char → List Char
  | '\n' :: rest => rest
  | cs => cs

/-- Up to two quotes more than the three that close a string belong to it. -/
def extraQuotes (quote : Char) (cs : List Char) : List Char × List Char :=
  let extra := (cs.take 2).takeWhile (· == quote)
  (extra, cs.drop extra.length)

/-- The text before three single quotes, `done` being what was read of it, last character first. -/
def literalLinesFrom (done : List Char) : List Char → Result (List Char)
  | '\'' :: '\'' :: '\'' :: rest =>
    let (extra, rest) := extraQuotes '\'' rest
    .ok (done.reverse ++ extra, rest)
  | c :: rest =>
    if isIllegal c && c != '\n' then .error .malformed else literalLinesFrom (c :: done) rest
  | [] => .error .malformed

def escapes : List (Char × Char) :=
  [('b', '\x08'), ('t', '\t'), ('n', '\n'), ('f', '\x0c'), ('r', '\r'), ('"', '"'), ('\\', '\\')]

def charOfDigits (ds : List Char) : Option Char :=
  match ds.mapM digitValue? with
  | none => none
  | some vs =>
    let code := vs.foldl (fun n v => n * 16 + v) 0
    if code < 0xD800 || (0xE000 ≤ code && code ≤ 0x10FFFF) then some (Char.ofNat code) else none

inductive Gap
  | closed
  | line
  | lines
  deriving DecidableEq, Repr

/-- The rest of a string in double quotes, `done` being what was read of it, last character
first. -/
def basicFrom (multiline : Bool) (gap : Gap) (done : List Char) : List Char → Result (List Char)
  | [] => .error .malformed
  | c :: rest =>
    if gap = .line then
      if isBlank c then basicFrom multiline .line done rest
      else if c = '\n' then basicFrom multiline .lines done rest
      else .error .malformed
    else if gap = .lines ∧ (isBlank c ∨ c = '\n') then basicFrom multiline .lines done rest
    else if c = '\\' then
      match rest with
      | 'u' :: a :: b :: d :: e :: rest =>
        match charOfDigits [a, b, d, e] with
        | some x => basicFrom multiline .closed (x :: done) rest
        | none => .error .malformed
      | 'U' :: a :: b :: d :: e :: f :: g :: h :: i :: rest =>
        match charOfDigits [a, b, d, e, f, g, h, i] with
        | some x => basicFrom multiline .closed (x :: done) rest
        | none => .error .malformed
      | e :: rest =>
        if multiline ∧ isBlank e then basicFrom multiline .line done rest
        else if multiline ∧ e = '\n' then basicFrom multiline .lines done rest
        else match escapes.lookup e with
          | some x => basicFrom multiline .closed (x :: done) rest
          | none => .error .malformed
      | [] => .error .malformed
    else if c = '"' then
      if multiline then
        match rest with
        | '"' :: '"' :: after =>
          let (extra, after) := extraQuotes '"' after
          .ok (done.reverse ++ extra, after)
        | _ => basicFrom multiline .closed (c :: done) rest
      else .ok (done.reverse, rest)
    else if isIllegal c ∧ ¬ (multiline ∧ c = '\n') then .error .malformed
    else basicFrom multiline .closed (c :: done) rest

/-- A string of one line in either kind of quotes; none if no quote stands here. -/
def lineString? : List Char → Option (Result (List Char))
  | '"' :: rest => some (basicFrom false .closed [] rest)
  | '\'' :: rest => some (literal rest)
  | _ => none

def string? : List Char → Option (Result (List Char))
  | '"' :: '"' :: '"' :: rest => some (basicFrom true .closed [] (skipFirstEnd rest))
  | '\'' :: '\'' :: '\'' :: rest => some (literalLinesFrom [] (skipFirstEnd rest))
  | cs => lineString? cs

end CommandShell.Config.Toml
