import ChatFlow.Pattern.Property
import ChatFlow.Text.Blank

/-!
# Quoted arguments

Arguments between double quotes, as they are shown in messages.  What has no shape of its own on
paper is written by its number.
-/

set_option autoImplicit false

namespace ChatFlow.CommandLine

/-- The categories of characters that take up room on a line and show something. -/
def shownCategories : List String :=
  ["Lu", "Ll", "Lt", "Lm", "Lo", "Mn", "Mc", "Me", "Nd", "Nl", "No", "Pc", "Pd", "Ps", "Pe", "Pi",
    "Pf", "Po", "Sm", "Sc", "Sk", "So"]

def shownSet : Pattern.CharSet := shownCategories.flatMap Pattern.categorySet

/-- Marks that are drawn onto the character before them. -/
def attachedSet : Pattern.CharSet :=
  (Pattern.binary? "graphemeextend").elim [] Pattern.PropertySet.set

/-- Whether a character is shown as itself. -/
def isShown (c : Char) : Bool :=
  c = ' ' ||
    (Pattern.CharSet.contains shownSet c.toNat && !Pattern.CharSet.contains attachedSet c.toNat)

def quotedChar (c : Char) : List Char :=
  if c = '"' then ['\\', '"']
  else if c = '\\' then ['\\', '\\']
  else if c = '\n' then ['\\', 'n']
  else if c = '\r' then ['\\', 'r']
  else if c = '\t' then ['\\', 't']
  else if c = '\x00' then ['\\', '0']
  else if isShown c then [c]
  else ['\\', 'u', '\x7b'] ++ Nat.toDigits 16 c.toNat ++ ['\x7d']

def quoted (text : String) : String :=
  String.ofList ('"' :: text.toList.flatMap quotedChar ++ ['"'])

def quotedList (texts : List String) : String :=
  "[" ++ Text.joined ", " (texts.map quoted) ++ "]"

end ChatFlow.CommandLine
