import CommandShell.Decimal.Binary64
import CommandShell.Decimal.Integer
import CommandShell.Failure

/-! Numerals as configuration files write them: digits, a fraction and an exponent. -/

namespace CommandShell.Config

/-- Why a configuration text has no value. Only a malformed text counts as empty; an integer that is
too long and values nested too deep are faults. `doing` says what was being read. -/
inductive ReadError
  | malformed
  | integerTooLong (digits : Nat)
  | nestedTooDeep (doing : String)
  deriving DecidableEq, Repr

def ReadError.fault? : ReadError → Option Fault
  | malformed => none
  | integerTooLong digits =>
    some (.value (Decimal.limitMessage (": value has " ++ toString digits ++ " digits")))
  | nestedTooDeep doing => some (.tooDeep doing)

def digitValue? (c : Char) : Option Nat :=
  if '0' ≤ c ∧ c ≤ '9' then some (c.toNat - '0'.toNat)
  else if 'a' ≤ c ∧ c ≤ 'f' then some (c.toNat - 'a'.toNat + 10)
  else if 'A' ≤ c ∧ c ≤ 'F' then some (c.toNat - 'A'.toNat + 10)
  else none

def isDigit (c : Char) : Bool := '0' ≤ c && c ≤ '9'

/-- Reads digits in a base; other characters count for nothing. -/
def natOfDigits (base : Nat) (cs : List Char) : Nat :=
  (cs.filterMap digitValue?).foldl (fun n d => n * base + d) 0

structure Numeral where
  negative : Bool
  whole : List Char
  fraction : Option (List Char)
  exponent : Option (Bool × List Char)
  deriving DecidableEq, Repr

namespace Numeral

def isInteger (n : Numeral) : Bool := n.fraction.isNone && n.exponent.isNone

def toInt (n : Numeral) : Except ReadError Int :=
  if Decimal.integerLimit < n.whole.length then .error (.integerTooLong n.whole.length)
  else
    let magnitude : Int := natOfDigits 10 n.whole
    .ok (if n.negative then -magnitude else magnitude)

def toBinary64 (n : Numeral) : Binary64 :=
  let fraction := n.fraction.getD []
  let power : Int := match n.exponent with
    | none => 0
    | some (down, ds) => if down then -(natOfDigits 10 ds : Int) else natOfDigits 10 ds
  .ofDecimal n.negative (natOfDigits 10 (n.whole ++ fraction)) (power - fraction.length)

end Numeral

def exponentSign : List Char → Bool × List Char
  | '+' :: rest => (false, rest)
  | '-' :: rest => (true, rest)
  | rest => (false, rest)

end CommandShell.Config
