import CommandShell.Decimal.Integer
import CommandShell.Failure
import CommandShell.Value.Basic

/-! The two texts of a value. Its plain text is what a table cell or a prompt shows; its shown form,
used inside lists and tables and in error messages, quotes texts and spells out dates. -/

namespace CommandShell

def padded (width n : Nat) : String :=
  let ds := Nat.toDigits 10 n
  String.ofList (List.replicate (width - ds.length) '0' ++ ds)

def commaSeparated (ns : List Nat) : String := ", ".intercalate (ns.map toString)

def Date.text (d : Date) : String :=
  padded 4 d.year ++ "-" ++ padded 2 d.month ++ "-" ++ padded 2 d.day

def TimeOfDay.text (t : TimeOfDay) : String :=
  padded 2 t.hour ++ ":" ++ padded 2 t.minute ++ ":" ++ padded 2 t.second ++
    if t.microsecond == 0 then "" else "." ++ padded 6 t.microsecond

def offsetText (minutes : Int) : String :=
  (if minutes < 0 then "-" else "+") ++ padded 2 (minutes.natAbs / 60) ++ ":" ++
    padded 2 (minutes.natAbs % 60)

def Moment.text (separator : String) (m : Moment) : String :=
  m.date.text ++ separator ++ m.time.text ++ (m.offset.map offsetText).getD ""

def Date.shown (d : Date) : String :=
  "datetime.date(" ++ commaSeparated [d.year, d.month, d.day] ++ ")"

def TimeOfDay.parts (t : TimeOfDay) : List Nat :=
  [t.hour, t.minute] ++
    if t.microsecond != 0 then [t.second, t.microsecond]
    else if t.second != 0 then [t.second] else []

def TimeOfDay.shown (t : TimeOfDay) : String :=
  "datetime.time(" ++ commaSeparated t.parts ++ ")"

/-- A negative offset is shown as a day back and the seconds of the rest. -/
def offsetShown (minutes : Int) : String :=
  if minutes == 0 then "datetime.timezone.utc"
  else
    let seconds := minutes * 60
    "datetime.timezone(datetime.timedelta(" ++
      (if seconds < 0 then "days=-1, seconds=" ++ toString (seconds + 86400)
       else "seconds=" ++ toString seconds) ++ "))"

def Moment.shown (m : Moment) : String :=
  "datetime.datetime(" ++
    commaSeparated ([m.date.year, m.date.month, m.date.day] ++ m.time.parts) ++
    (m.offset.map fun o => ", tzinfo=" ++ offsetShown o).getD "" ++ ")"

namespace Value

mutual

def shown : Value → String
  | .null => "None"
  | .bool b => if b then "True" else "False"
  | .int n => toString n
  | .float x => x.text
  | .text s => Text.quoted s
  | .date d => d.shown
  | .time t => t.shown
  | .moment m => m.shown
  | .list items => Text.bracketed (shownItems items)
  | .table fields => "\x7b" ++ ", ".intercalate (shownFields fields) ++ "\x7d"

def shownItems : List Value → List String
  | [] => []
  | v :: rest => shown v :: shownItems rest

def shownFields : List (String × Value) → List String
  | [] => []
  | (k, v) :: rest => (Text.quoted k ++ ": " ++ shown v) :: shownFields rest

end

mutual

/-- Whether a value has a text: none of its integers is too long. -/
def isWritable : Value → Bool
  | .int n => Decimal.isWritable n
  | .list items => areWritable items
  | .table fields => areWritableFields fields
  | _ => true

def areWritable : List Value → Bool
  | [] => true
  | v :: rest => isWritable v && areWritable rest

def areWritableFields : List (String × Value) → Bool
  | [] => true
  | (_, v) :: rest => isWritable v && areWritableFields rest

end

def plain : Value → String
  | .text s => s
  | .date d => d.text
  | .time t => t.text
  | .moment m => m.text " "
  | v => shown v

mutual

/-- What is raised instead of a text, if lists and tables may lie only so deep in each other. -/
def textFault? : Value → (room : Nat) → Option Fault
  | .int n, _ =>
    if Decimal.isWritable n then none else some (.value (Decimal.limitMessage ""))
  | .list _, 0 | .table _, 0 => some (.tooDeep " while getting the repr of an object")
  | .list items, room + 1 => firstFault? items room
  | .table fields, room + 1 => firstFaultIn? fields room
  | _, _ => none

def firstFault? : List Value → (room : Nat) → Option Fault
  | [], _ => none
  | v :: rest, room => (textFault? v room).or (firstFault? rest room)

def firstFaultIn? : List (String × Value) → (room : Nat) → Option Fault
  | [], _ => none
  | (_, v) :: rest, room => (textFault? v room).or (firstFaultIn? rest room)

end

/-- How deep lists and tables may lie in each other for what is passed to a command. What is left of
the depth of the interpreter, a thousand calls, is for the calls that lead there. -/
def nestingLimit : Nat := 900

end Value

/-- The failure to find a key, which is shown as the key. -/
def Raised.missingKey (key : Value) : Raised :=
  match key.textFault? Value.nestingLimit with
  | some f => .untold .other (.fault f)
  | none => .fault (.named "KeyError" key.shown)
end CommandShell
