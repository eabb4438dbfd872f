import ChatFlow.Pattern.Property

/-!
# Expressions of patterns

What a pattern means once its options are settled: classes of characters, assertions about a
place, and the ways to combine expressions.  Characters are given by their numbers.
-/

set_option autoImplicit false

namespace ChatFlow.Pattern

inductive SetOperator
  | intersection
  | difference
  | symmetricDifference
  deriving DecidableEq, Repr

/-- Whether a character is in the result, from whether it is in the operands. -/
def SetOperator.apply : SetOperator → Bool → Bool → Bool
  | .intersection, left, right => left && right
  | .difference, left, right => left && !right
  | .symmetricDifference, left, right => left != right

/-- A class of characters.  `folded` takes in everything that differs from a member in case only,
in all scripts or in ASCII alone. -/
inductive CharClass
  | chars (set : CharSet)
  | complement (inner : CharClass)
  | folded (everywhere : Bool) (inner : CharClass)
  | union (left right : CharClass)
  | operation (operator : SetOperator) (left right : CharClass)

/-- An ASCII letter in both cases; any other character alone. -/
def asciiVariants (n : Nat) : List Nat :=
  if 0x41 ≤ n ∧ n ≤ 0x5A then [n, n + 0x20]
  else if 0x61 ≤ n ∧ n ≤ 0x7A then [n - 0x20, n]
  else [n]

namespace CharClass

/-- Whether a character belongs to a class. -/
def contains : CharClass → Nat → Bool
  | .chars set, n => CharSet.contains set n
  | .complement inner, n => !inner.contains n
  | .folded everywhere inner, n =>
    (if everywhere then caseVariants n else asciiVariants n).any (fun m => inner.contains m)
  | .union left right, n => left.contains n || right.contains n
  | .operation operator left right, n => operator.apply (left.contains n) (right.contains n)

def nothing : CharClass := .chars []

/-- The class of the characters from `first` to `last`. -/
def between (first last : Nat) : CharClass := .chars [⟨first, last, 1⟩]

/-- How many ranges a class is made of. -/
def rangeCount : CharClass → Nat
  | .chars set => set.length
  | .complement inner => inner.rangeCount + 1
  | .folded _ inner => 2 * inner.rangeCount
  | .union left right => left.rangeCount + right.rangeCount
  | .operation _ left right => left.rangeCount + right.rangeCount

end CharClass

/-- Letters, digits and the other characters of words, in all scripts or in ASCII alone. -/
def isWordChar (everywhere : Bool) (n : Nat) : Bool :=
  if n < 0x80 then
    (0x30 ≤ n && n ≤ 0x39) || (0x41 ≤ n && n ≤ 0x5A) || n == 0x5F || (0x61 ≤ n && n ≤ 0x7A)
  else everywhere && CharSet.contains wordSet n

/-- Assertions about words on both sides of a place. -/
inductive WordLook
  | boundary
  | notBoundary
  | start
  | stop
  | startHalf
  | stopHalf
  deriving DecidableEq, Repr

/-- Whether an assertion holds between a character and the next; the arguments say which of them
belongs to a word. -/
def WordLook.holds : WordLook → (before after : Bool) → Bool
  | .boundary, before, after => before != after
  | .notBoundary, before, after => before == after
  | .start, before, after => !before && after
  | .stop, before, after => before && !after
  | .startHalf, before, _ => !before
  | .stopHalf, _, after => !after

/-- An assertion about a place in a text.  With `crlf` a line ends with a carriage return, a line
feed or both. -/
inductive Look
  | textStart
  | textStop
  | lineStart (crlf : Bool)
  | lineStop (crlf : Bool)
  | word (look : WordLook) (everywhere : Bool)
  deriving DecidableEq, Repr

/-- Whether an assertion holds between two characters; there is none at the ends of the text. -/
def Look.holds : Look → (before after : Option Nat) → Bool
  | .textStart, before, _ => before.isNone
  | .textStop, _, after => after.isNone
  | .lineStart crlf, before, after =>
    before.isNone || before == some 10 || (crlf && before == some 13 && after != some 10)
  | .lineStop crlf, before, after =>
    after.isNone || (crlf && after == some 13) ||
      (after == some 10 && !(crlf && before == some 13))
  | .word look everywhere, before, after =>
    look.holds (before.any (isWordChar everywhere)) (after.any (isWordChar everywhere))

inductive Expr
  | empty
  | char (accepted : CharClass)
  | look (look : Look)
  | concat (first second : Expr)
  | alternate (first second : Expr)
  | repeated (atLeast : Nat) (atMost : Option Nat) (body : Expr)

namespace Expr

/-- Whether an expression can consume a character. -/
def consumes : Expr → Bool
  | .empty | .look _ => false
  | .char _ => true
  | .concat first second | .alternate first second => first.consumes || second.consumes
  | .repeated _ atMost body => atMost != some 0 && body.consumes

/-- The size of the automaton that an expression stands for, in bytes: a state takes 32, a range
of characters 8.  Repetitions are unrolled, those of an expression that consumes nothing at most
once. -/
def size : Expr → Nat
  | .empty | .look _ => 32
  | .char accepted => 64 + 8 * accepted.rangeCount
  | .concat first second => first.size + second.size
  | .alternate first second => 32 + first.size + second.size
  | .repeated atLeast atMost body =>
    let count := match atMost with
      | some most => most
      | none => max atLeast 1
    let count := if body.consumes then count else min count 1
    32 + count * body.size

/-- The largest automaton that is built: ten mebibytes. -/
def sizeLimit : Nat := 10 * Nat.pow 2 20

end Expr

end ChatFlow.Pattern
