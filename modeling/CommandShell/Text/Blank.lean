/-! White space, and trimming a text by it. The set is the Unicode one together with the
separator controls U+001C to U+001F and the next-line control U+0085. -/

namespace CommandShell.Text

def isBlank (c : Char) : Bool :=
  let n := c.toNat
  (9 ≤ n && n ≤ 13) || (28 ≤ n && n ≤ 32) || n == 0x85 || n == 0xA0 || n == 0x1680 ||
    (0x2000 ≤ n && n ≤ 0x200A) || n == 0x2028 || n == 0x2029 || n == 0x202F || n == 0x205F ||
    n == 0x3000

def trimLeft (cs : List Char) : List Char := cs.dropWhile isBlank

def trimRight (cs : List Char) : List Char := (cs.reverse.dropWhile isBlank).reverse

def trim (cs : List Char) : List Char := trimRight (trimLeft cs)

def strip (s : String) : String := String.ofList (trim s.toList)

def stripLeft (s : String) : String := String.ofList (trimLeft s.toList)

def isBlankText (s : String) : Bool := s.toList.all isBlank

end CommandShell.Text
