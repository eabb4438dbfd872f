import ChatFlow.Pattern.Grammar
import ChatFlow.Pattern.Matching

/-!
# The meaning of patterns

Applies the options to the parts of a pattern.  A change of options inside a group lasts until
the group ends, later alternatives included.

Without the option `unicode` only ASCII has classes and cases, and whatever could match a part of
a character beyond ASCII is refused.
-/

set_option autoImplicit false

namespace ChatFlow.Pattern

/-- The options in force at some place of a pattern. -/
structure Options where
  caseless : Bool := true
  multiline : Bool := false
  dotMatchesNewline : Bool := false
  unicode : Bool := true
  crlf : Bool := false

namespace Options

/-- Switches one option.  Greed and spacing have no meaning of their own. -/
def switch (options : Options) : PatternOption × Bool → Options
  | (.caseless, on) => { options with caseless := on }
  | (.multiline, on) => { options with multiline := on }
  | (.dotMatchesNewline, on) => { options with dotMatchesNewline := on }
  | (.unicode, on) => { options with unicode := on }
  | (.crlf, on) => { options with crlf := on }
  | (.swapGreed, _) | (.spaced, _) => options

def change (options : Options) (changes : OptionChanges) : Options :=
  changes.foldl switch options

/-- A class with what differs in case only, if case does not count. -/
def fold (options : Options) (members : CharClass) : CharClass :=
  if options.caseless then .folded options.unicode members else members

/-- A class or what is left without it. -/
def negate? (options : Options) (negated : Bool) (members : CharClass) : Option CharClass :=
  if !negated then some members
  else if options.unicode then some (.complement members)
  else none

/-- The class of a shorthand; shorthands are the same in all cases. -/
def shorthand? (options : Options) (name : Shorthand) (negated : Bool) : Option CharClass :=
  let set : CharSet := match options.unicode, name with
    | true, .digit => digitSet
    | true, .blank => blankSet
    | true, .word => wordSet
    | false, .digit => [⟨0x30, 0x39, 1⟩]
    | false, .blank => [⟨9, 13, 1⟩, ⟨32, 32, 1⟩]
    | false, .word => [⟨0x30, 0x39, 1⟩, ⟨0x41, 0x5A, 1⟩, ⟨0x5F, 0x5F, 1⟩, ⟨0x61, 0x7A, 1⟩]
  options.negate? negated (.chars set)

def property? (options : Options) (name : PropertyName) (negated : Bool) : Option CharClass :=
  if !options.unicode then none
  else
    let found := match name with
      | .alone name => namedSet? name
      | .valued property value => valuedSet? property value
    found.bind fun found =>
      let members := CharClass.chars found.set
      let members := if found.complement then .complement members else members
      options.negate? negated (options.fold members)

def memberChar? (options : Options) (literal : Literal) : Option Nat :=
  if options.unicode ∨ literal.char.toNat < 128 then some literal.char.toNat else none

/-- The class of what stands inside brackets. -/
def members? (options : Options) : Members → Option CharClass
  | .nothing => some .nothing
  | .literal only => (options.memberChar? only).map fun n => .between n n
  | .range first last =>
    match options.memberChar? first, options.memberChar? last with
    | some first, some last => some (.between first last)
    | _, _ => none
  | .named set negated => options.negate? negated (options.fold (.chars set))
  | .shorthand name negated => options.shorthand? name negated
  | .property name negated => options.property? name negated
  | .bracketed negated inner =>
    (options.members? inner).bind fun members => options.negate? negated (options.fold members)
  | .union first second =>
    match options.members? first, options.members? second with
    | some first, some second => some (.union first second)
    | _, _ => none
  | .operation operator left right =>
    match options.members? left, options.members? right with
    | some left, some right => some (.operation operator (options.fold left) (options.fold right))
    | _, _ => none

/-- A character outside brackets.  What two hexadecimal digits say about a byte beyond ASCII is
no character without the option `unicode`. -/
def literal? (options : Options) (literal : Literal) : Option Expr :=
  let n := literal.char.toNat
  if n < 128 ∨ options.unicode then
    let variants := if !options.caseless then [n]
      else if options.unicode then caseVariants n
      else asciiVariants n
    some (.char (.chars (variants.map fun m => ⟨m, m, 1⟩)))
  else if literal.isByte ∨ options.caseless then none
  else some (.char (.between n n))

/-- Any character, as far as the options let it be any. -/
def dot? (options : Options) : Option Expr :=
  if !options.unicode then none
  else if options.dotMatchesNewline then some (.char (.complement .nothing))
  else if options.crlf then some (.char (.complement (.chars [⟨10, 10, 1⟩, ⟨13, 13, 1⟩])))
  else some (.char (.complement (.between 10 10)))

def look (options : Options) : Assertion → Look
  | .lineStart => if options.multiline then .lineStart options.crlf else .textStart
  | .lineStop => if options.multiline then .lineStop options.crlf else .textStop
  | .textStart => .textStart
  | .textStop => .textStop
  | .word look => .word look options.unicode

end Options

/-- The expression of a part, and the options in force after it. -/
def Syntax.meaning? (options : Options) : Syntax → Option (Expr × Options)
  | .empty => some (.empty, options)
  | .options changes => some (.empty, options.change changes)
  | .literal only => (options.literal? only).map fun expr => (expr, options)
  | .dot => options.dot?.map fun expr => (expr, options)
  | .assertion asserted => some (.look (options.look asserted), options)
  | .shorthand name negated =>
    (options.shorthand? name negated).map fun members => (.char members, options)
  | .property name negated =>
    (options.property? name negated).map fun members => (.char members, options)
  | .bracketed negated members =>
    ((options.members? members).bind fun members =>
      options.negate? negated (options.fold members)).map fun members => (.char members, options)
  | .repeated atLeast atMost body =>
    (body.meaning? options).map fun (body, options) => (.repeated atLeast atMost body, options)
  | .group changes body =>
    (body.meaning? (options.change changes)).map fun (body, _) => (body, options)
  | .concat first second =>
    match first.meaning? options with
    | none => none
    | some (first, options) =>
      (second.meaning? options).map fun (second, options) => (.concat first second, options)
  | .alternate first second =>
    match first.meaning? options with
    | none => none
    | some (first, options) =>
      (second.meaning? options).map fun (second, options) => (.alternate first second, options)

end Pattern

/-- A pattern that may be searched for. -/
structure Pattern where
  expr : Pattern.Expr

namespace Pattern

/-- Reads a pattern.  Case does not count unless the pattern says so. -/
def ofText? (text : String) : Option Pattern :=
  match Syntax.parse text with
  | none => none
  | some read =>
    match read.meaning? {} with
    | none => none
    | some (expr, _) => if expr.size ≤ Expr.sizeLimit then some ⟨expr⟩ else none

/-- Whether a pattern matches some part of a text. -/
def occursIn (pattern : Pattern) (text : String) : Bool :=
  pattern.expr.occursIn (text.toList.map Char.toNat)

/-- Whether the pattern that is written somehow matches some part of a text; `none` if it is
malformed. -/
def search? (written text : String) : Option Bool :=
  (ofText? written).map fun pattern => pattern.occursIn text

end Pattern

end ChatFlow
