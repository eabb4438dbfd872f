import ChatFlow.Text.Digits
import ChatFlow.Yaml.Cursor
import ChatFlow.Yaml.Token

/-!
# Anchors, aliases, tags and directives

The tokens that say something about a node or about the document.  Each reader starts behind the
character that announces its token, and answers what it read and the place after it, or `none` if
the text is not well formed.
-/

set_option autoImplicit false

namespace ChatFlow.Yaml.Token

/-- The name of an anchor or alias.  It must be followed by a gap or by a mark. -/
def anchorName? (cursor : Cursor) : Option (String × Cursor) :=
  let (name, cursor) := cursor.run isNameChar
  let ends := cursor.gapAfter 0 ||
    ['?', ':', ',', ']', '\x7d', '%', '@', '\x60'].any (fun c => cursor.next? = some c)
  if name.isEmpty || !ends then none else some (String.ofList name, cursor)

/-- A character of tags besides those of names.  Between angle brackets commas and square brackets
belong to the tag. -/
def isTagMark (bracketed : Bool) (c : Char) : Bool :=
  [';', '/', '?', ':', '@', '&', '=', '+', '$', '.', '%', '!', '~', '*', '\'', '(', ')'].contains c
    || (bracketed && [',', '[', ']'].contains c)

/-- The byte of an escape such as `%2C`, and what follows. -/
def escapedByte? : List Char → Option (Nat × List Char)
  | '%' :: high :: low :: rest =>
    match Text.hexDigit? high, Text.hexDigit? low with
    | some high, some low => some (high * 16 + low, rest)
    | _, _ => none
  | _ => none

/-- The bytes that continue an escaped character, and what follows. -/
def followingBytes? : (count : Nat) → List Char → Option (TagText × List Char)
  | 0, text => some ([], text)
  | count + 1, text =>
    match escapedByte? text with
    | none => none
    | some (byte, rest) =>
      if byte / 64 = 2 then
        (followingBytes? count rest).map (fun (bytes, rest) => (byte.toUInt8 :: bytes, rest))
      else none

/-- How many bytes follow the first byte of a character. -/
def followers? (byte : Nat) : Option Nat :=
  if byte < 0x80 then some 0
  else if byte / 32 = 6 then some 1
  else if byte / 16 = 14 then some 2
  else if byte / 8 = 30 then some 3
  else none

/-- The bytes of a tag, in which a character may be written as the escapes of its bytes. -/
def tagBytes? : (fuel : Nat) → List Char → Option TagText
  | _, [] => some []
  | 0, _ => none
  | fuel + 1, '%' :: rest =>
    match escapedByte? ('%' :: rest) with
    | none => none
    | some (first, rest) =>
      match followers? first with
      | none => none
      | some count =>
        match followingBytes? count rest with
        | none => none
        | some (others, rest) =>
          (tagBytes? fuel rest).map (fun bytes => first.toUInt8 :: (others ++ bytes))
  | fuel + 1, c :: rest => (tagBytes? fuel rest).map (c.toNat.toUInt8 :: ·)

/-- The text of a tag after what has been read of it.  Together they must not be empty.  A zero
byte ends the text. -/
def tagText? (bracketed : Bool) (read : List Char) (cursor : Cursor) :
    Option (TagText × Cursor) :=
  let (taken, cursor) := cursor.run (fun c => isNameChar c || isTagMark bracketed c)
  if read.isEmpty && taken.isEmpty then none
  else
    (tagBytes? taken.length taken).map fun bytes =>
      ((read.drop 1).map (fun c => c.toNat.toUInt8) ++ bytes |>.takeWhile (· ≠ 0), cursor)

/-- A handle: an exclamation mark, a name which may be empty, and a second mark if there is
one. -/
def tagHandle? (cursor : Cursor) : Option (List Char × Cursor) :=
  match cursor.rest with
  | '!' :: _ =>
    let (name, cursor) := (cursor.skip 1).run isNameChar
    if cursor.next? = some '!' then some ('!' :: name ++ ['!'], cursor.skip 1)
    else some ('!' :: name, cursor)
  | _ => none

/-- A tag, from its exclamation mark on, without a check of what follows. -/
def tagName? (cursor : Cursor) : Option (TagName × Cursor) :=
  match cursor.rest with
  | '!' :: '<' :: _ =>
    match tagText? true [] (cursor.skip 2) with
    | none => none
    | some (text, cursor) =>
      if cursor.next? = some '>' then some (⟨"", text⟩, cursor.skip 1) else none
  | _ =>
    match tagHandle? cursor with
    | none => none
    | some (handle, cursor) =>
      if handle.length > 1 ∧ handle.getLast? = some '!' then
        (tagText? false [] cursor).map fun (suffix, cursor) =>
          (⟨String.ofList handle, suffix⟩, cursor)
      else
        (tagText? false handle cursor).map fun (suffix, cursor) =>
          if suffix.isEmpty then (⟨"", [33]⟩, cursor) else (⟨"!", suffix⟩, cursor)

/-- A tag.  It must be followed by a gap; in a flow collection a comma will do. -/
def tag? (inFlow : Bool) (cursor : Cursor) : Option (Token × Cursor) :=
  match tagName? cursor with
  | none => none
  | some (name, cursor) =>
    if cursor.gapAfter 0 || (inFlow && cursor.next? = some ',') then some (.tag name, cursor)
    else none

/-- A number of a version; at most nine digits. -/
def versionNumber? (cursor : Cursor) : Option (Nat × Cursor) :=
  let (digits, cursor) := cursor.run Char.isDigit
  if digits.length > 9 then none else (Text.natural? 10 digits).map (·, cursor)

def version? (cursor : Cursor) : Option (Token × Cursor) :=
  match versionNumber? (cursor.skipRun isBlank) with
  | none => none
  | some (major, cursor) =>
    if cursor.next? = some '.' then
      (versionNumber? (cursor.skip 1)).map fun (minor, cursor) => (.version major minor, cursor)
    else none

/-- The value of a directive that gives a handle its beginning. -/
def handleMeaning? (cursor : Cursor) : Option (Token × Cursor) :=
  match tagHandle? (cursor.skipRun isBlank) with
  | none => none
  | some (handle, cursor) =>
    if handle.getLast? ≠ some '!' ∨ !(cursor.next?.any isBlank) then none
    else
      match tagText? true [] (cursor.skipRun isBlank) with
      | none => none
      | some (beginning, cursor) =>
        if cursor.gapAfter 0 then some (.tagHandle (String.ofList handle) beginning, cursor)
        else none

/-- A directive and the rest of its line. -/
def directive? (cursor : Cursor) : Option (Token × Cursor) :=
  let (name, cursor) := cursor.run isNameChar
  if !cursor.gapAfter 0 then none
  else
    let read :=
      match String.ofList name with
      | "YAML" => version? cursor
      | "TAG" => handleMeaning? cursor
      | _ => none
    match read with
    | none => none
    | some (token, cursor) => cursor.endOfLine?.map (fun cursor => (token, cursor))

end ChatFlow.Yaml.Token
