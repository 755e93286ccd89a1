import CommandShell.Config.Toml.Text
import CommandShell.Value.Basic

/-! Numbers, dates and times in TOML text. A reader answers with nothing where its kind of value
does not begin; a date that is on no calendar is a fault. -/

namespace CommandShell.Config.Toml

/-- Digits after the first one, single low lines between them left out, and what follows them. -/
def moreDigits (isDigitHere : Char → Bool) : List Char → List Char × List Char
  | '_' :: c :: rest =>
    if isDigitHere c then
      let (ds, after) := moreDigits isDigitHere rest
      (c :: ds, after)
    else ([], '_' :: c :: rest)
  | c :: rest =>
    if isDigitHere c then
      let (ds, after) := moreDigits isDigitHere rest
      (c :: ds, after)
    else ([], c :: rest)
  | [] => ([], [])

def digits? (isDigitHere : Char → Bool) : List Char → Option (List Char × List Char)
  | c :: rest =>
    if isDigitHere c then
      let (ds, after) := moreDigits isDigitHere rest
      some (c :: ds, after)
    else none
  | [] => none

def isDigitOf (base : Nat) (c : Char) : Bool := (digitValue? c).any (· < base)

/-- An integer in a base other than ten, after its leading zero. -/
def based? : List Char → Option (Nat × List Char)
  | 'x' :: rest => (digits? (isDigitOf 16) rest).map fun (ds, after) => (natOfDigits 16 ds, after)
  | 'o' :: rest => (digits? (isDigitOf 8) rest).map fun (ds, after) => (natOfDigits 8 ds, after)
  | 'b' :: rest => (digits? (isDigitOf 2) rest).map fun (ds, after) => (natOfDigits 2 ds, after)
  | _ => none

/-- A whole number: a zero alone, or digits that start with none. -/
def whole? : List Char → Option (List Char × List Char)
  | '0' :: rest => some (['0'], rest)
  | cs => digits? isDigit cs

def fraction : List Char → Option (List Char) × List Char
  | '.' :: rest =>
    match digits? isDigit rest with
    | some (ds, after) => (some ds, after)
    | none => (none, '.' :: rest)
  | cs => (none, cs)

def exponent (cs : List Char) : Option (Bool × List Char) × List Char :=
  match cs with
  | [] => (none, cs)
  | e :: rest =>
    if e == 'e' || e == 'E' then
      let (down, rest) := exponentSign rest
      match digits? isDigit rest with
      | some (ds, after) => (some (down, ds), after)
      | none => (none, cs)
    else (none, cs)

def decimal? (cs : List Char) : Option (Numeral × List Char) :=
  let (negative, unsigned) := exponentSign cs
  match whole? unsigned with
  | none => none
  | some (ds, rest) =>
    let (fractionDigits, rest) := fraction rest
    let (power, rest) := exponent rest
    some (⟨negative, ds, fractionDigits, power⟩, rest)

/-- A number without fraction and exponent is an integer. -/
def number? (cs : List Char) : Option (Result Value) :=
  let decimal := (decimal? cs).map fun (n, rest) =>
    if n.isInteger then n.toInt.map fun i => (Value.int i, rest)
    else .ok (.float n.toBinary64, rest)
  match cs with
  | '0' :: rest =>
    match based? rest with
    | some (n, after) => some (.ok (.int n, after))
    | none => decimal
  | _ => decimal

def special? (cs : List Char) : Option (Value × List Char) :=
  let (negative, rest) := exponentSign cs
  match rest with
  | 'i' :: 'n' :: 'f' :: after => some (.float (.infinite negative), after)
  | 'n' :: 'a' :: 'n' :: after => some (.float .nan, after)
  | _ => none

def fixed? (width : Nat) (cs : List Char) : Option (Nat × List Char) :=
  let ds := cs.take width
  if ds.length = width ∧ ds.all isDigit then some (natOfDigits 10 ds, cs.drop width) else none

def twoDigits? (least greatest : Nat) (cs : List Char) : Option (Nat × List Char) := do
  let (n, rest) ← fixed? 2 cs
  if least ≤ n ∧ n ≤ greatest then some (n, rest) else none

def after? (c : Char) : List Char → Option (List Char)
  | d :: rest => if d = c then some rest else none
  | [] => none

/-- A fraction of a second in millionths; digits beyond the sixth count for nothing. -/
def microseconds (cs : List Char) : Nat × List Char :=
  match cs with
  | '.' :: rest =>
    let ds := rest.takeWhile isDigit
    if ds.isEmpty then (0, cs)
    else (natOfDigits 10 ((ds ++ List.replicate 6 '0').take 6), rest.dropWhile isDigit)
  | _ => (0, cs)

def time? (cs : List Char) : Option (TimeOfDay × List Char) := do
  let (hour, rest) ← twoDigits? 0 23 cs
  let (minute, rest) ← twoDigits? 0 59 (← after? ':' rest)
  let (second, rest) ← twoDigits? 0 59 (← after? ':' rest)
  let (micro, rest) := microseconds rest
  some (⟨hour, minute, second, micro⟩, rest)

/-- The minutes that a clock is ahead; the letter Z stands for none. -/
def offset? : List Char → Option (Int × List Char)
  | [] => none
  | c :: rest =>
    if c == 'Z' || c == 'z' then some (0, rest)
    else if c == '+' || c == '-' then do
      let (hours, rest) ← twoDigits? 0 23 rest
      let (minutes, rest) ← twoDigits? 0 59 (← after? ':' rest)
      let total : Int := hours * 60 + minutes
      some (if c == '-' then -total else total, rest)
    else none

def date? (cs : List Char) : Option (Date × List Char) := do
  let (year, rest) ← fixed? 4 cs
  let (month, rest) ← twoDigits? 1 12 (← after? '-' rest)
  let (day, rest) ← twoDigits? 1 31 (← after? '-' rest)
  some (⟨year, month, day⟩, rest)

def timeAfterDate? : List Char → Option ((TimeOfDay × Option Int) × List Char)
  | [] => none
  | c :: rest =>
    if c == 'T' || c == 't' || c == ' ' then do
      let (t, rest) ← time? rest
      match offset? rest with
      | some (o, after) => some ((t, some o), after)
      | none => some ((t, none), rest)
    else none

def dateOrMoment? (cs : List Char) : Option (Result Value) :=
  (date? cs).map fun (d, rest) =>
    if d.isValid then
      match timeAfterDate? rest with
      | some ((t, o), after) => .ok (.moment ⟨d, t, o⟩, after)
      | none => .ok (.date d, rest)
    else .error .malformed

def clock? (cs : List Char) : Option (Result Value) :=
  (time? cs).map fun (t, rest) => .ok (.time t, rest)

def truth? : List Char → Option (Value × List Char)
  | 't' :: 'r' :: 'u' :: 'e' :: rest => some (.bool true, rest)
  | 'f' :: 'a' :: 'l' :: 's' :: 'e' :: rest => some (.bool false, rest)
  | _ => none

def scalar (cs : List Char) : Result Value :=
  match string? cs with
  | some r => r.map fun (text, rest) => (.text (String.ofList text), rest)
  | none =>
    match truth? cs, dateOrMoment? cs, clock? cs, number? cs, special? cs with
    | some r, _, _, _, _ => .ok r
    | none, some r, _, _, _ => r
    | none, none, some r, _, _ => r
    | none, none, none, some r, _ => r
    | none, none, none, none, some r => .ok r
    | none, none, none, none, none => .error .malformed

end CommandShell.Config.Toml
