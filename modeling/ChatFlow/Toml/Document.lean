import ChatFlow.Toml.Scalar

/-!
# TOML documents

`Toml.ofText?` reads a text line by line into the table it describes.

Fuel is spent on every nested call.  A call that opens a bracket or follows a separator consumes a
character, so twice the length of the text always suffices.
-/

set_option autoImplicit false

namespace ChatFlow.Toml

/-- How many arrays and inline tables may be open at once. -/
def levelLimit : Nat := 79

mutual

/-- Reads a value in which at most `levels` more arrays and inline tables may be open. -/
def value? : (fuel levels : Nat) → List Char → Option (Toml × List Char)
  | 0, _, _ => none
  | fuel + 1, levels, text =>
    match text with
    | '[' :: rest =>
      if levels = 0 then none
      else (items? fuel (levels - 1) [] rest).map fun (items, rest) => (.array items, rest)
    | '\x7b' :: rest =>
      if levels = 0 then none
      else
        match pairs? fuel (levels - 1) [] rest with
        | none => none
        | some (pairs, rest) => (inlineTable pairs).map (·, rest)
    | 't' :: 'r' :: 'u' :: 'e' :: rest => some (.truth true, rest)
    | 'f' :: 'a' :: 'l' :: 's' :: 'e' :: rest => some (.truth false, rest)
    | '"' :: _ => (text? text).map fun (read, rest) => (.string read, rest)
    | '\'' :: _ => (text? text).map fun (read, rest) => (.string read, rest)
    | text => (moment? text).or (number? text)

/-- Reads the items of an array up to its closing bracket; `read` holds the items so far, last
first.  A comma may follow the last item. -/
def items? : (fuel levels : Nat) → (read : List Toml) → List Char →
    Option (List Toml × List Char)
  | 0, _, _, _ => none
  | fuel + 1, levels, read, text =>
    match skipSpace fuel text with
    | ']' :: rest => some (read.reverse, rest)
    | rest =>
      match value? fuel levels rest with
      | none => none
      | some (item, rest) =>
        match skipSpace fuel rest with
        | ',' :: rest => items? fuel levels (item :: read) rest
        | ']' :: rest => some ((item :: read).reverse, rest)
        | _ => none

/-- Reads the names and values of an inline table up to its closing brace; `read` holds those so
far, last first.  They stand on one line, and no comma may follow the last one. -/
def pairs? : (fuel levels : Nat) → (read : List (KeyPath × String × Toml)) → List Char →
    Option (List (KeyPath × String × Toml) × List Char)
  | 0, _, _, _ => none
  | fuel + 1, levels, read, text =>
    match skipBlanks text with
    | '\x7d' :: rest => if read.isEmpty then some ([], rest) else none
    | rest =>
      match path? rest with
      | some ((path, name), '=' :: rest) =>
        match value? fuel levels (skipBlanks rest) with
        | none => none
        | some (value, rest) =>
          match skipBlanks rest with
          | ',' :: rest => pairs? fuel levels ((path, name, value) :: read) rest
          | '\x7d' :: rest => some (((path, name, value) :: read).reverse, rest)
          | _ => none
      | _ => none

end

/-- A table in the middle of being read, and the path of the table to which the next lines
belong. -/
structure Reading where
  root : Keyed Toml := []
  path : KeyPath := []

def header? (reading : Reading) (text : List Char) : Option (Reading × List Char) :=
  let line (add : KeyPath → String → Keyed Toml → Option (Keyed Toml)) (path : KeyPath)
      (name : String) (rest : List Char) : Option (Reading × List Char) :=
    match add path name reading.root, endOfLine? rest with
    | some root, some rest => some (⟨root, path ++ [name]⟩, rest)
    | _, _ => none
  match text with
  | '[' :: rest =>
    match path? rest with
    | some ((path, name), ']' :: ']' :: rest) => line openMember path name rest
    | _ => none
  | text =>
    match path? text with
    | some ((path, name), ']' :: rest) => line openTable path name rest
    | _ => none

/-- Reads the line of a name and a value.  They belong to the table of the last header. -/
def entry? (fuel : Nat) (reading : Reading) (text : List Char) : Option (Reading × List Char) :=
  match path? text with
  | some ((path, name), '=' :: rest) =>
    match value? fuel levelLimit (skipBlanks rest) with
    | none => none
    | some (value, rest) =>
      let added := changeAt .implied (fun _ entries => addAt path name value .header entries)
        reading.path .header reading.root
      match added, endOfLine? rest with
      | some root, some rest => some (⟨root, reading.path⟩, rest)
      | _, _ => none
  | _ => none

/-- Reads lines to the end of the text. -/
def lines? : (fuel : Nat) → Reading → List Char → Option Reading
  | 0, _, _ => none
  | fuel + 1, reading, text =>
    let line :=
      match skipBlanks text with
      | '[' :: rest => header? reading rest
      | rest =>
        match endOfLine? rest with
        | some rest => some (reading, rest)
        | none => entry? (2 * fuel + 2) reading rest
    match line with
    | none => none
    | some (reading, rest) => if rest.isEmpty then some reading else lines? fuel reading rest

/-- The table that a text describes.  A byte order mark at the start is passed over. -/
def ofText? (text : String) : Option (Keyed Toml) :=
  let characters := text.toList
  let characters := if characters.head? = some '\ufeff' then characters.drop 1 else characters
  (lines? (characters.length + 1) {} characters).map Reading.root

end ChatFlow.Toml
