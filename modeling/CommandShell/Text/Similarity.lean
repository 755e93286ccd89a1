/-! How alike two names are: twice the characters in common blocks over all characters. Blocks are
found by taking the longest common run, the earliest in the candidate and then in the name, and
going on with what stands left and right of it. -/

namespace CommandShell.Text

/-- In a name of 200 characters and more, a character that makes up over a hundredth of it does
not start a common run. -/
def isPopular (name : List Char) (c : Char) : Bool :=
  200 ≤ name.length && name.length / 100 + 1 < name.count c

structure Run where
  left : Nat
  right : Nat
  size : Nat
  deriving DecidableEq, Repr

/-- The lengths of the runs that end at `c` and at each character of `b`; `above` holds those for
the character before `c`, and `diagonal` the one before the first. -/
def runLengths (popular : Char → Bool) (c : Char) (diagonal : Nat) :
    (above : List Nat) → (b : List Char) → List Nat
  | up :: above, d :: b =>
    (if c = d && !popular d then diagonal + 1 else 0) :: runLengths popular c up above b
  | _, _ => []

/-- The better of the best run so far and the runs that end at position `i`; only a longer one
replaces it. -/
def improve (i : Nat) (best : Run) : (j : Nat) → List Nat → Run
  | _, [] => best
  | j, k :: lengths =>
    improve i (if best.size < k then ⟨i + 1 - k, j + 1 - k, k⟩ else best) (j + 1) lengths

def longestFrom (popular : Char → Bool) (b : List Char) (i : Nat) (above : List Nat)
    (best : Run) : List Char → Run
  | [] => best
  | c :: a =>
    let lengths := runLengths popular c 0 above b
    longestFrom popular b (i + 1) lengths (improve i best 0 lengths) a

def commonLength : List Char → List Char → Nat
  | x :: a, y :: b => if x = y then commonLength a b + 1 else 0
  | _, _ => 0

/-- The longest common run, made longer at both ends by any equal characters. -/
def longestRun (popular : Char → Bool) (a b : List Char) : Run :=
  let run := longestFrom popular b 0 (b.map fun _ => 0) ⟨0, 0, 0⟩ a
  let before := commonLength (a.take run.left).reverse (b.take run.right).reverse
  let after := commonLength (a.drop (run.left + run.size)) (b.drop (run.right + run.size))
  ⟨run.left - before, run.right - before, before + run.size + after⟩

/-- The characters in common blocks. `fuel` bounds the number of nested cuts by the length of the
first text. -/
def commonBlocks (popular : Char → Bool) : (fuel : Nat) → List Char → List Char → Nat
  | 0, _, _ => 0
  | fuel + 1, a, b =>
    let run := longestRun popular a b
    if run.size = 0 then 0
    else
      commonBlocks popular fuel (a.take run.left) (b.take run.right) + run.size +
        commonBlocks popular fuel (a.drop (run.left + run.size)) (b.drop (run.right + run.size))

structure Likeness where
  candidate : String
  common : Nat
  total : Nat

def likeness (name candidate : String) : Likeness :=
  let a := candidate.toList
  let b := name.toList
  ⟨candidate, commonBlocks (isPopular b) (a.length + 1) a b, a.length + b.length⟩

/-- At least six tenths of all characters are common; two empty texts are alike. -/
def Likeness.isClose (x : Likeness) : Bool := 3 * x.total ≤ 10 * x.common

def Likeness.precedes (x y : Likeness) : Bool :=
  if x.common * y.total == y.common * x.total then y.candidate ≤ x.candidate
  else y.common * x.total ≤ x.common * y.total

def closeMatches (name : String) (candidates : List String) : List String :=
  let close := (candidates.map (likeness name)).filter Likeness.isClose
  ((close.mergeSort Likeness.precedes).take 3).map Likeness.candidate

end CommandShell.Text
