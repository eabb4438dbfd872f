/-!
# Tokens of YAML

What a YAML text says once indentation has become structure: blocks are opened and closed by
tokens of their own, and each key is announced before its first word.
-/

set_option autoImplicit false

namespace ChatFlow.Yaml

/-- The text of a tag, as bytes: an escape in a tag may give bytes that are not text. -/
abbrev TagText := List UInt8

/-- A tag as written: a handle that stands for a beginning, and the rest.  An empty handle stands
for nothing. -/
structure TagName where
  handle : String
  suffix : TagText

inductive Token
  | streamEnd
  | version (major minor : Nat)
  | tagHandle (handle : String) (beginning : TagText)
  | documentStart
  | documentEnd
  | blockSequenceStart
  | blockMappingStart
  | blockEnd
  | flowSequenceStart
  | flowSequenceEnd
  | flowMappingStart
  | flowMappingEnd
  | blockEntry
  | flowEntry
  | key
  | value
  | alias (name : String)
  | anchor (name : String)
  | tag (name : TagName)
  | scalar (plain : Bool) (text : String)

end ChatFlow.Yaml
