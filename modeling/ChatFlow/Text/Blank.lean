/-!
# Blank characters and trimming

The 25 characters of the Unicode property `White_Space`, and trimming of texts at both ends.
-/

set_option autoImplicit false

namespace ChatFlow.Text

def isBlank (c : Char) : Bool :=
  let n := c.toNat
  (9 ≤ n && n ≤ 13) || n == 0x20 || n == 0x85 || n == 0xA0 || n == 0x1680 ||
    (0x2000 ≤ n && n ≤ 0x200A) || n == 0x2028 || n == 0x2029 || n == 0x202F || n == 0x205F ||
    n == 0x3000

/-- A text without the blanks at its start. -/
def trimStart (text : List Char) : List Char := text.dropWhile isBlank

/-- A text without the blanks at its end. -/
def trimEnd (text : List Char) : List Char := (text.reverse.dropWhile isBlank).reverse

/-- A text without the blanks at both ends. -/
def trimmed (text : List Char) : List Char := trimEnd (trimStart text)

/-- A text without the blanks at both ends. -/
def trim (text : String) : String := String.ofList (trimmed text.toList)

def joined (separator : String) (parts : List String) : String :=
  String.intercalate separator parts

end ChatFlow.Text
