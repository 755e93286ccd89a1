/-! How long the decimal text of an integer may be, for reading and for writing. -/

namespace CommandShell.Decimal

/-- Integers of more decimal digits are neither read nor written; a sign does not count. -/
def integerLimit : Nat := 4300

def isWritable (n : Int) : Bool := n.natAbs < Nat.pow 10 integerLimit

def limitMessage (detail : String) : String :=
  "Exceeds the limit (" ++ toString integerLimit ++ " digits) for integer string conversion" ++
    detail ++ "; use sys.set_int_max_str_digits() to increase the limit"

end CommandShell.Decimal
