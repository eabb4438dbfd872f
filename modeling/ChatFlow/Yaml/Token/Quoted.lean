import ChatFlow.Yaml.Token.Property

/-!
# Quoted scalars

Between single quotes a quote is written twice and everything else stands for itself; between
double quotes a backslash starts an escape.  In both, a gap with line breaks is folded.  A quoted
scalar may not contain a marker between documents at the start of a line.
-/

set_option autoImplicit false

namespace ChatFlow.Yaml.Token

/-- The character that a one-letter escape stands for. -/
def escaped? : Char → Option Char
  | '0' => some '\x00'
  | 'a' => some '\x07'
  | 'b' => some '\x08'
  | 't' => some '\t'
  | '\t' => some '\t'
  | 'n' => some '\n'
  | 'v' => some '\x0b'
  | 'f' => some '\x0c'
  | 'r' => some '\r'
  | 'e' => some '\x1b'
  | ' ' => some ' '
  | '"' => some '"'
  | '/' => some '/'
  | '\\' => some '\\'
  | 'N' => some '\x85'
  | '_' => some '\xa0'
  | 'L' => some '\u2028'
  | 'P' => some '\u2029'
  | _ => none

/-- How many hexadecimal digits follow the letter of an escape. -/
def escapeDigits? : Char → Option Nat
  | 'x' => some 2
  | 'u' => some 4
  | 'U' => some 8
  | _ => none

/-- The character whose number is given in hexadecimal digits.  Surrogates are none. -/
def numbered? (digits : List Char) : Option Char :=
  match Text.natural? 16 digits with
  | none => none
  | some number =>
    if (0xD800 ≤ number ∧ number ≤ 0xDFFF) ∨ 0x10FFFF < number then none
    else some (Char.ofNat number)

/-- The character of an escape, from behind its backslash, and how many characters it is written
with. -/
def escape? : List Char → Option (Char × Nat)
  | [] => none
  | letter :: rest =>
    match escapeDigits? letter with
    | none => (escaped? letter).map (·, 1)
    | some count =>
      if (rest.take count).length = count then
        (numbered? (rest.take count)).map (·, count + 1)
      else none

/-- Reads the rest of a quoted scalar; `read` holds its text so far, last character first. -/
def quotedRest? (single : Bool) :
    (fuel : Nat) → (read : List Char) → Cursor → Option (String × Cursor)
  | 0, _, _ => none
  | fuel + 1, read, cursor =>
    if cursor.atDocumentMarker then none
    else
      match cursor.rest with
      | [] => none
      | '\'' :: rest =>
        if single then
          if rest.head? = some '\'' then quotedRest? single fuel ('\'' :: read) (cursor.skip 2)
          else some (String.ofList read.reverse, cursor.skip 1)
        else quotedRest? single fuel ('\'' :: read) (cursor.skip 1)
      | '"' :: _ =>
        if single then quotedRest? single fuel ('"' :: read) (cursor.skip 1)
        else some (String.ofList read.reverse, cursor.skip 1)
      | c :: rest =>
        if isGap c then
          let (gap, cursor) := cursor.gap
          quotedRest? single fuel ((gapText gap).reverse ++ read) cursor
        else if c = '\\' ∧ !single then
          if rest.head?.any isBreak then
            let (gap, cursor) := (cursor.skip 1).skipBreak.gap
            quotedRest? single fuel ((breakTexts gap).reverse ++ read) cursor
          else
            match escape? rest with
            | none => none
            | some (c, count) => quotedRest? single fuel (c :: read) (cursor.skip (count + 1))
        else quotedRest? single fuel (c :: read) (cursor.skip 1)

/-- A quoted scalar, from behind its opening quote. -/
def quoted? (single : Bool) (cursor : Cursor) : Option (Token × Cursor) :=
  (quotedRest? single (cursor.rest.length + 1) [] cursor).map fun (text, cursor) =>
    (.scalar false text, cursor)

end ChatFlow.Yaml.Token
