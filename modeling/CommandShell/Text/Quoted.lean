import CommandShell.Text.Case
import CommandShell.Text.PrintableTable

/-! The quoted form of a text, used where a message shows one. Single quotes are used unless the
text holds a single quote and no double one; the backslash, the quote in use and every character
without a visible form are escaped. -/

namespace CommandShell.Text

def isPrintable (c : Char) : Bool :=
  if c.toNat < 128 then 32 ≤ c.toNat && c.toNat < 127 else !inRanges unprintableRanges c.toNat

/-- The last `width` hexadecimal digits of a number, in lower case. -/
def hexDigits : (width : Nat) → Nat → List Char
  | 0, _ => []
  | width + 1, n => hexDigits width (n / 16) ++ [Nat.digitChar (n % 16)]

def escapeCode (c : Char) : List Char :=
  let n := c.toNat
  if n < 0x100 then '\\' :: 'x' :: hexDigits 2 n
  else if n < 0x10000 then '\\' :: 'u' :: hexDigits 4 n
  else '\\' :: 'U' :: hexDigits 8 n

def quoteFor (cs : List Char) : Char :=
  if cs.contains '\'' && !cs.contains '"' then '"' else '\''

def quoteChar (q c : Char) : List Char :=
  if c = '\\' || c = q then ['\\', c]
  else if c = '\n' then ['\\', 'n']
  else if c = '\r' then ['\\', 'r']
  else if c = '\t' then ['\\', 't']
  else if isPrintable c then [c]
  else escapeCode c

def quotedChars (cs : List Char) : List Char :=
  quoteFor cs :: (cs.flatMap (quoteChar (quoteFor cs)) ++ [quoteFor cs])

def quoted (s : String) : String := String.ofList (quotedChars s.toList)

/-- A bracketed enumeration of texts already in their shown form. -/
def bracketed (shown : List String) : String := "[" ++ ", ".intercalate shown ++ "]"

def parenthesised : List String → String
  | [one] => "(" ++ one ++ ",)"
  | shown => "(" ++ ", ".intercalate shown ++ ")"

/-- The shown form of a mapping: quoted keys and values in order. -/
def quotedPairs (pairs : List (String × String)) : String :=
  "\x7b" ++ ", ".intercalate (pairs.map fun (k, v) => quoted k ++ ": " ++ quoted v) ++ "\x7d"

end CommandShell.Text
