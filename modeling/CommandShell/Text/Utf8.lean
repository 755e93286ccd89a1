/-! UTF-8 decoding that reports where and why a byte sequence is not a text. -/

namespace CommandShell.Text.Utf8

inductive Cause
  | invalidStart
  | invalidContinuation
  | unexpectedEnd
  deriving DecidableEq, Repr

structure Fault where
  position : Nat
  length : Nat
  first : UInt8
  cause : Cause
  deriving DecidableEq, Repr

def Cause.text : Cause → String
  | .invalidStart => "invalid start byte"
  | .invalidContinuation => "invalid continuation byte"
  | .unexpectedEnd => "unexpected end of data"

def hexByte (b : UInt8) : String :=
  String.ofList [Nat.digitChar (b.toNat / 16), Nat.digitChar (b.toNat % 16)]

def Fault.message (f : Fault) : String :=
  "'utf-8' codec can't decode " ++
    (if f.length == 1 then "byte 0x" ++ hexByte f.first ++ " in position " ++ toString f.position
     else "bytes in position " ++ toString f.position ++ "-" ++
       toString (f.position + f.length - 1)) ++
    ": " ++ f.cause.text

def isContinuation (b : UInt8) : Bool := 0x80 ≤ b && b ≤ 0xBF

/-- How many bytes a character with this first byte has; none if no character starts so. -/
def sequenceLength (b : UInt8) : Option Nat :=
  if b < 0x80 then some 1
  else if 0xC2 ≤ b && b ≤ 0xDF then some 2
  else if 0xE0 ≤ b && b ≤ 0xEF then some 3
  else if 0xF0 ≤ b && b ≤ 0xF4 then some 4
  else none

/-- The second byte also excludes overlong forms, surrogates and codes beyond U+10FFFF. -/
def fitsSecond (first second : UInt8) : Bool :=
  isContinuation second &&
    !((first == 0xE0 && second < 0xA0) || (first == 0xED && 0xA0 ≤ second) ||
      (first == 0xF0 && second < 0x90) || (first == 0xF4 && 0x90 ≤ second))

/-- How many of the bytes after the first may belong to its character, at most `wanted`. -/
def goodTail (first : UInt8) (wanted : Nat) (rest : List UInt8) : Nat :=
  match rest with
  | [] => 0
  | second :: more =>
    if wanted == 0 || !fitsSecond first second then 0
    else 1 + ((more.take (wanted - 1)).takeWhile isContinuation).length

/-- One character from the front, with the number of bytes it takes, or the fault there. -/
def step (first : UInt8) (rest : List UInt8) : Except (Nat × Cause) (Char × Nat) :=
  match sequenceLength first with
  | none => .error (1, .invalidStart)
  | some size =>
    let good := goodTail first (size - 1) rest
    if good == size - 1 then
      let lead := first.toNat % (if size == 1 then 128 else Nat.pow 2 (7 - size))
      let code := (rest.take good).foldl (fun n b => n * 64 + b.toNat % 64) lead
      .ok (Char.ofNat code, size)
    else if rest.length == good then .error (1 + good, .unexpectedEnd)
    else .error (1 + good, .invalidContinuation)

/-- Decodes from `position` on. `skip` counts bytes that belong to the character just read. -/
def decodeFrom (position skip : Nat) : List UInt8 → List Char × Option Fault
  | [] => ([], none)
  | b :: rest =>
    match skip with
    | skip + 1 => decodeFrom (position + 1) skip rest
    | 0 =>
      match step b rest with
      | .ok (c, size) =>
        let (cs, fault) := decodeFrom (position + 1) (size - 1) rest
        (c :: cs, fault)
      | .error (length, cause) => ([], some ⟨position, length, b, cause⟩)

def decodePrefix (bytes : List UInt8) : String × Option Fault :=
  let (cs, fault) := decodeFrom 0 0 bytes
  (String.ofList cs, fault)

def decode (bytes : List UInt8) : Except Fault String :=
  match decodePrefix bytes with
  | (s, none) => .ok s
  | (_, some fault) => .error fault

def encode (s : String) : List UInt8 := s.toUTF8.toList

end CommandShell.Text.Utf8
