import ChatFlow.Pattern.Expr

/-!
# The parts of a written pattern

What a pattern says, before options such as caselessness are applied to it.
-/

set_option autoImplicit false

namespace ChatFlow.Pattern

/-- A character; `isByte` says that it was written as two hexadecimal digits. -/
structure Literal where
  char : Char
  isByte : Bool

inductive Shorthand
  | digit
  | blank
  | word
  deriving DecidableEq, Repr

/-- A property by name, alone or with one of its values. -/
inductive PropertyName
  | alone (name : String)
  | valued (property value : String)

/-- An assertion as written; which places it means depends on the options. -/
inductive Assertion
  | lineStart
  | lineStop
  | textStart
  | textStop
  | word (look : WordLook)
  deriving DecidableEq, Repr

/-- An option, which can be switched on and off within a pattern. -/
inductive PatternOption
  | caseless
  | multiline
  | dotMatchesNewline
  | swapGreed
  | unicode
  | crlf
  | spaced
  deriving DecidableEq, Repr

/-- Options with what they are switched to. -/
abbrev OptionChanges := List (PatternOption × Bool)

inductive Members
  | nothing
  | literal (literal : Literal)
  | range (first last : Literal)
  | named (set : CharSet) (negated : Bool)
  | shorthand (name : Shorthand) (negated : Bool)
  | property (name : PropertyName) (negated : Bool)
  | bracketed (negated : Bool) (inner : Members)
  | union (first second : Members)
  | operation (operator : SetOperator) (left right : Members)

inductive Syntax
  | empty
  | options (changes : OptionChanges)
  | literal (literal : Literal)
  | dot
  | assertion (assertion : Assertion)
  | shorthand (name : Shorthand) (negated : Bool)
  | property (name : PropertyName) (negated : Bool)
  | bracketed (negated : Bool) (members : Members)
  | repeated (atLeast : Nat) (atMost : Option Nat) (body : Syntax)
  | group (changes : OptionChanges) (body : Syntax)
  | concat (first second : Syntax)
  | alternate (first second : Syntax)

/-- How deeply brackets are nested.  A list of members counts as one level, however long. -/
def Members.levels (inList : Bool) : Members → Nat
  | .bracketed _ inner => inner.levels false + 1
  | .union first second =>
    max (first.levels true) (second.levels true) + (if inList then 0 else 1)
  | .operation _ left right => max (left.levels false) (right.levels false) + 1
  | _ => 0

/-- Where a part of a pattern stands: by itself, in a sequence or among alternatives. -/
inductive Surrounding
  | alone
  | sequence
  | alternatives
  deriving DecidableEq

/-- How deeply groups, brackets, repetitions, sequences and alternatives are nested.  A sequence
or a list of alternatives counts as one level, however long. -/
def Syntax.levels (surrounding : Surrounding) : Syntax → Nat
  | .bracketed _ members => members.levels false + 1
  | .repeated _ _ body => body.levels .alone + 1
  | .group _ body => body.levels .alone + 1
  | .concat first second =>
    max (first.levels .sequence) (second.levels .sequence) +
      (if surrounding = .sequence then 0 else 1)
  | .alternate first second =>
    max (first.levels .alternatives) (second.levels .alternatives) +
      (if surrounding = .alternatives then 0 else 1)
  | _ => 0

def levelLimit : Nat := 250

/-- One part of a list of members, or all of them as nested unions. -/
def Members.ofList : List Members → Members
  | [] => .nothing
  | [only] => only
  | first :: rest => .union first (ofList rest)

def Syntax.ofSequence : List Syntax → Syntax
  | [] => .empty
  | [only] => only
  | first :: rest => .concat first (ofSequence rest)

def Syntax.ofAlternatives : List Syntax → Syntax
  | [] => .empty
  | [only] => only
  | first :: rest => .alternate first (ofAlternatives rest)

end ChatFlow.Pattern
