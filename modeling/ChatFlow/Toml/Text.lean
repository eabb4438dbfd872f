import ChatFlow.Text.Digits

/-!
# The words of TOML

Blanks, comments, names and quoted texts.  Each function answers what it read and the text after
it, or `none` if the text does not fit.
-/

set_option autoImplicit false

namespace ChatFlow.Toml

def isBlank (c : Char) : Bool := c = ' ' || c = '\t'

/-- A character of comments and texts: a tab or any character that is not an ASCII control. -/
def isTextChar (c : Char) : Bool := c = '\t' || (0x20 ≤ c.toNat && c.toNat ≠ 0x7F)

def skipBlanks (text : List Char) : List Char := text.dropWhile isBlank

def lineBreak? : List Char → Option (List Char)
  | '\n' :: rest => some rest
  | '\r' :: '\n' :: rest => some rest
  | _ => none

/-- The text after a comment, if there is one. -/
def skipComment : List Char → List Char
  | '#' :: rest => rest.dropWhile isTextChar
  | text => text

/-- The text after a line on which only blanks and a comment are left. -/
def endOfLine? (text : List Char) : Option (List Char) :=
  match skipComment (skipBlanks text) with
  | [] => some []
  | rest => lineBreak? rest

/-- The text after blanks, comments and line breaks; `fuel` bounds the lines. -/
def skipSpace : (fuel : Nat) → List Char → List Char
  | 0, text => text
  | fuel + 1, text =>
    let rest := skipComment (skipBlanks text)
    match lineBreak? rest with
    | some rest => skipSpace fuel rest
    | none => rest

/-- The text after blanks and line breaks. -/
def skipLines : (fuel : Nat) → List Char → List Char
  | 0, text => text
  | fuel + 1, text =>
    match lineBreak? (skipBlanks text) with
    | some rest => skipLines fuel rest
    | none => skipBlanks text

/-- The character with a number given by a count of hexadecimal digits, and the text after them.
Surrogates are none. -/
def numbered? (count : Nat) (text : List Char) : Option (Char × List Char) :=
  if (text.take count).length = count then
    match Text.natural? 16 (text.take count) with
    | none => none
    | some number =>
      if number < 0xD800 ∨ (0xDFFF < number ∧ number ≤ 0x10FFFF) then
        some (Char.ofNat number, text.drop count)
      else none
  else none

/-- The character of an escape, from behind its backslash. -/
def escape? : List Char → Option (Char × List Char)
  | 'b' :: rest => some ('\x08', rest)
  | 't' :: rest => some ('\t', rest)
  | 'n' :: rest => some ('\n', rest)
  | 'f' :: rest => some ('\x0c', rest)
  | 'r' :: rest => some ('\r', rest)
  | '"' :: rest => some ('"', rest)
  | '\\' :: rest => some ('\\', rest)
  | 'u' :: rest => numbered? 4 rest
  | 'U' :: rest => numbered? 8 rest
  | _ => none

/-- Reads a text on one line up to its closing quote; `read` holds its characters so far, last
first.  Between double quotes there are escapes. -/
def lineText? (quote : Char) : (fuel : Nat) → (read : List Char) → List Char →
    Option (String × List Char)
  | 0, _, _ => none
  | _, _, [] => none
  | fuel + 1, read, c :: rest =>
    if c = quote then some (String.ofList read.reverse, rest)
    else if c = '\\' ∧ quote = '"' then
      match escape? rest with
      | none => none
      | some (c, rest) => lineText? quote fuel (c :: read) rest
    else if isTextChar c then lineText? quote fuel (c :: read) rest
    else none

/-- Reads a text on several lines up to its three closing quotes.  Up to two more quotes before
them belong to the text.  Between double quotes a backslash at the end of a line removes the break
and the blanks and breaks after it. -/
def linesText? (quote : Char) : (fuel : Nat) → (read : List Char) → List Char →
    Option (String × List Char)
  | 0, _, _ => none
  | _, _, [] => none
  | fuel + 1, read, c :: rest =>
    if c = quote then
      let quotes := 1 + (rest.takeWhile (· = quote)).length
      let rest := (c :: rest).drop quotes
      if quotes < 3 then linesText? quote fuel (List.replicate quotes quote ++ read) rest
      else if quotes ≤ 5 then
        some (String.ofList (List.replicate (quotes - 3) quote ++ read).reverse, rest)
      else none
    else if c = '\\' ∧ quote = '"' then
      match lineBreak? (skipBlanks rest) with
      | some after => linesText? quote fuel read (skipLines fuel after)
      | none =>
        match escape? rest with
        | none => none
        | some (c, rest) => linesText? quote fuel (c :: read) rest
    else
      match lineBreak? (c :: rest) with
      | some rest => linesText? quote fuel ('\n' :: read) rest
      | none => if isTextChar c then linesText? quote fuel (c :: read) rest else none

/-- A quoted text.  A line break right after three opening quotes does not count. -/
def text? (text : List Char) : Option (String × List Char) :=
  let read (quote : Char) (rest : List Char) : Option (String × List Char) :=
    match rest with
    | second :: third :: lines =>
      if second = quote ∧ third = quote then
        linesText? quote lines.length.succ [] ((lineBreak? lines).getD lines)
      else lineText? quote rest.length.succ [] rest
    | rest => lineText? quote rest.length.succ [] rest
  match text with
  | '"' :: rest => read '"' rest
  | '\'' :: rest => read '\'' rest
  | _ => none

def isNameChar (c : Char) : Bool := c.isAlphanum || c = '_' || c = '-'

/-- A name, quoted on one line or not. -/
def name? : List Char → Option (String × List Char)
  | '"' :: rest => lineText? '"' rest.length.succ [] rest
  | '\'' :: rest => lineText? '\'' rest.length.succ [] rest
  | text =>
    if (text.takeWhile isNameChar).isEmpty then none
    else some (String.ofList (text.takeWhile isNameChar), text.dropWhile isNameChar)

/-- How many steps a dotted name may have. -/
def longestPath : Nat := 79

/-- Reads a dotted name with blanks around its steps; `read` holds the steps so far, last
first. -/
def dottedName? : (fuel : Nat) → (read : List String) → List Char →
    Option ((List String × String) × List Char)
  | 0, _, _ => none
  | fuel + 1, read, text =>
    match name? (skipBlanks text) with
    | none => none
    | some (name, rest) =>
      match skipBlanks rest with
      | '.' :: rest => dottedName? fuel (name :: read) rest
      | rest => some ((read.reverse, name), rest)

/-- A dotted name: the steps to a table and the name in it. -/
def path? (text : List Char) : Option ((List String × String) × List Char) :=
  dottedName? longestPath [] text

end ChatFlow.Toml
