import ChatFlow.Text.Digits

/-!
# The grammar of JSON text

`Json.Syntax.parse` reads a text into a tree that keeps what the text says: numbers as their
digits, strings as characters and code units, fields in order and with repetitions.  Which of
these trees are values, and which value, is decided in `ChatFlow.Json.Reading`; a part of a text
that nobody asks for only has to follow the grammar.

Fuel is spent on every nested call.  A call that opens a bracket or follows a separator consumes
a character, so twice the length of the text always suffices.
-/

set_option autoImplicit false

namespace ChatFlow.Json

/-- A part of a string: a character, or a code unit given by four hexadecimal digits. -/
inductive Piece
  | char (c : Char)
  | unit (code : Nat)

/-- A number as written: sign, digits before and after the point, and the exponent with its sign
if there is one.  `fraction` is `none` if there is no point. -/
structure NumberText where
  negative : Bool
  whole : List Nat
  fraction : Option (List Nat)
  exponent : Option (Bool × List Nat)

inductive Syntax
  | null
  | bool (value : Bool)
  | number (text : NumberText)
  | string (pieces : List Piece)
  | array (items : List Syntax)
  | object (fields : List (List Piece × Syntax))
  deriving Inhabited

namespace Syntax

/-- The four characters that may stand between tokens. -/
def isBlank (c : Char) : Bool := c = ' ' || c = '\t' || c = '\n' || c = '\r'

def skipBlanks (text : List Char) : List Char := text.dropWhile isBlank

/-- The character that a one-letter escape stands for. -/
def escape? : Char → Option Char
  | '"' => some '"'
  | '\\' => some '\\'
  | '/' => some '/'
  | 'b' => some '\x08'
  | 'f' => some '\x0c'
  | 'n' => some '\n'
  | 'r' => some '\r'
  | 't' => some '\t'
  | _ => none

/-- Reads a string after its opening quote; `read` holds the pieces so far, last first. -/
def stringPieces (read : List Piece) : List Char → Option (List Piece × List Char)
  | [] => none
  | '"' :: rest => some (read.reverse, rest)
  | '\\' :: 'u' :: a :: b :: c :: d :: rest =>
    match Text.hexDigit? a, Text.hexDigit? b, Text.hexDigit? c, Text.hexDigit? d with
    | some a, some b, some c, some d =>
      stringPieces (.unit (((a * 16 + b) * 16 + c) * 16 + d) :: read) rest
    | _, _, _, _ => none
  | '\\' :: e :: rest =>
    match escape? e with
    | some c => stringPieces (.char c :: read) rest
    | none => none
  | c :: rest => if c = '\\' ∨ c.toNat < 32 then none else stringPieces (.char c :: read) rest

/-- The decimal digits at the start of a text, and the rest. -/
def digits (text : List Char) : List Nat × List Char :=
  ((text.takeWhile Char.isDigit).map (fun c => c.toNat - 48), text.dropWhile Char.isDigit)

/-- The digits after a point; at least one is needed. -/
def fraction? : List Char → Option (Option (List Nat) × List Char)
  | '.' :: rest =>
    match digits rest with
    | ([], _) => none
    | (read, rest) => some (some read, rest)
  | text => some (none, text)

/-- The digits of an exponent after its mark; at least one is needed. -/
def exponentDigits? (negative : Bool) (text : List Char) :
    Option (Option (Bool × List Nat) × List Char) :=
  match digits text with
  | ([], _) => none
  | (read, rest) => some (some (negative, read), rest)

def exponent? (text : List Char) : Option (Option (Bool × List Nat) × List Char) :=
  match text with
  | e :: rest =>
    if e = 'e' ∨ e = 'E' then
      match rest with
      | '+' :: rest => exponentDigits? false rest
      | '-' :: rest => exponentDigits? true rest
      | rest => exponentDigits? false rest
    else some (none, text)
  | [] => some (none, [])

/-- A number after its sign.  A leading zero stands alone. -/
def number? (negative : Bool) (text : List Char) : Option (NumberText × List Char) :=
  match digits text with
  | ([], _) => none
  | (0 :: _ :: _, _) => none
  | (whole, rest) =>
    match fraction? rest with
    | none => none
    | some (fraction, rest) =>
      match exponent? rest with
      | none => none
      | some (exponent, rest) => some (⟨negative, whole, fraction, exponent⟩, rest)

/-- The rest of a text after a word it must start with. -/
def word? : (word : List Char) → (text : List Char) → Option (List Char)
  | [], text => some text
  | _ :: _, [] => none
  | w :: word, c :: text => if w = c then word? word text else none

mutual

def value? : (fuel : Nat) → List Char → Option (Syntax × List Char)
  | 0, _ => none
  | fuel + 1, text =>
    match skipBlanks text with
    | '"' :: rest => (stringPieces [] rest).map (fun (pieces, rest) => (.string pieces, rest))
    | '[' :: rest =>
      match skipBlanks rest with
      | ']' :: rest => some (.array [], rest)
      | rest => (items? fuel [] rest).map (fun (items, rest) => (.array items, rest))
    | '\x7b' :: rest =>
      match skipBlanks rest with
      | '\x7d' :: rest => some (.object [], rest)
      | rest => (fields? fuel [] rest).map (fun (fields, rest) => (.object fields, rest))
    | 'n' :: rest => (word? ['u', 'l', 'l'] rest).map (fun rest => (.null, rest))
    | 't' :: rest => (word? ['r', 'u', 'e'] rest).map (fun rest => (.bool true, rest))
    | 'f' :: rest => (word? ['a', 'l', 's', 'e'] rest).map (fun rest => (.bool false, rest))
    | '-' :: rest => (number? true rest).map (fun (n, rest) => (.number n, rest))
    | rest => (number? false rest).map (fun (n, rest) => (.number n, rest))

/-- Reads the items of an array up to its closing bracket; `read` holds the items so far, last
first. -/
def items? : (fuel : Nat) → (read : List Syntax) → List Char → Option (List Syntax × List Char)
  | 0, _, _ => none
  | fuel + 1, read, text =>
    match value? fuel text with
    | none => none
    | some (item, rest) =>
      match skipBlanks rest with
      | ',' :: rest => items? fuel (item :: read) rest
      | ']' :: rest => some ((item :: read).reverse, rest)
      | _ => none

/-- Reads the fields of an object up to its closing bracket; `read` holds the fields so far, last
first. -/
def fields? : (fuel : Nat) → (read : List (List Piece × Syntax)) → List Char →
    Option (List (List Piece × Syntax) × List Char)
  | 0, _, _ => none
  | fuel + 1, read, text =>
    match skipBlanks text with
    | '"' :: rest =>
      match stringPieces [] rest with
      | none => none
      | some (name, rest) =>
        match skipBlanks rest with
        | ':' :: rest =>
          match value? fuel rest with
          | none => none
          | some (value, rest) =>
            match skipBlanks rest with
            | ',' :: rest => fields? fuel ((name, value) :: read) rest
            | '\x7d' :: rest => some (((name, value) :: read).reverse, rest)
            | _ => none
        | _ => none
    | _ => none

end

/-- Reads a whole text: one value, with blanks around it and nothing else. -/
def parse (text : String) : Option Syntax :=
  let characters := text.toList
  match value? (2 * characters.length + 2) characters with
  | some (value, rest) => if (skipBlanks rest).isEmpty then some value else none
  | none => none

end Syntax

end ChatFlow.Json
