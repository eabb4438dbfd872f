import ChatFlow.Pattern.Expr

/-!
# Matching

Whether an expression matches somewhere in a text.  The places of a text of `n` characters are
numbered from `0` to `n`, and a set of places is a natural number: place `i` belongs to it if bit
`i` is set.  An expression turns the set of places where it may start into the set of places
where it may end.

An expression never leads backwards, so `n + 1` rounds of a repetition stand for any larger
number of rounds: among that many, one consumes nothing and may be taken again or left out.
-/

set_option autoImplicit false

namespace ChatFlow.Pattern

/-- A set of places in a text. -/
abbrev Places := Nat

namespace Places

def upTo (n : Nat) : Places := Nat.pow 2 (n + 1) - 1

/-- The places at which a list has `true`, counted from the given one on. -/
def ofFlags : (place : Nat) → List Bool → Places
  | _, [] => 0
  | place, flag :: rest => (if flag then Nat.pow 2 place else 0) ||| ofFlags (place + 1) rest

end Places

/-- What an expression does on one text: a class has become the set of places before one of its
characters, and an assertion the set of places where it holds. -/
inductive Track
  | stay
  | step (places : Places)
  | check (places : Places)
  | concat (first second : Track)
  | alternate (first second : Track)
  | repeated (atLeast : Nat) (atMost : Option Nat) (body : Track)

/-- The characters on both sides of every place of a text, from its start to its end. -/
def surroundings : (before : Option Nat) → List Nat → List (Option Nat × Option Nat)
  | before, [] => [(before, none)]
  | before, c :: rest => (before, some c) :: surroundings (some c) rest

def Expr.track (text : List Nat) : Expr → Track
  | .empty => .stay
  | .char accepted => .step (Places.ofFlags 0 (text.map accepted.contains))
  | .look asserted =>
    .check (Places.ofFlags 0 ((surroundings none text).map fun (before, after) =>
      asserted.holds before after))
  | .concat first second => .concat (first.track text) (second.track text)
  | .alternate first second => .alternate (first.track text) (second.track text)
  | .repeated atLeast atMost body => .repeated atLeast atMost (body.track text)

/-- The places after a number of rounds; it stops when a round changes nothing. -/
def afterRounds (round : Places → Places) : (count : Nat) → Places → Places
  | 0, places => places
  | count + 1, places =>
    let next := round places
    if next = places then places else afterRounds round count next

/-- The places after at most a number of rounds; it stops when a round adds nothing. -/
def withinRounds (round : Places → Places) : (count : Nat) → Places → Places
  | 0, places => places
  | count + 1, places =>
    let next := places ||| round places
    if next = places then places else withinRounds round count next

/-- Where a track may end if it starts at one of some places; `rounds` is one more than the
length of the text. -/
def Track.ends (rounds : Nat) : Track → Places → Places
  | .stay, places => places
  | .step before, places => (places &&& before) * 2
  | .check holds, places => places &&& holds
  | .concat first second, places => second.ends rounds (first.ends rounds places)
  | .alternate first second, places => first.ends rounds places ||| second.ends rounds places
  | .repeated atLeast atMost body, places =>
    let more := match atMost with
      | none => rounds
      | some most => min (most - atLeast) rounds
    withinRounds (body.ends rounds) more (afterRounds (body.ends rounds) (min atLeast rounds) places)

/-- Whether an expression matches some part of a text. -/
def Expr.occursIn (expr : Expr) (text : List Nat) : Bool :=
  let rounds := text.length + 1
  (expr.track text).ends rounds (Places.upTo text.length) != 0

end ChatFlow.Pattern
