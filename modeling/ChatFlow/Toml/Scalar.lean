import ChatFlow.Decimal.Numeral
import ChatFlow.Toml.Basic
import ChatFlow.Toml.Text

/-!
# Numbers, dates and times in TOML

Digits may be grouped by single low lines between digits.  Integers have 64 bits with a sign.  Of
dates and times only the form and the ranges of the parts are checked.
-/

set_option autoImplicit false

namespace ChatFlow.Toml

/-- Digits after the first, grouped or not; `read` holds the digits so far, last first.  `none` if
a low line is not followed by a digit. -/
def moreDigits? (base : Nat) (read : List Nat) : List Char → Option (List Nat × List Char)
  | [] => some (read.reverse, [])
  | '_' :: c :: rest =>
    match Text.digit? base c with
    | some d => moreDigits? base (d :: read) rest
    | none => none
  | c :: rest =>
    match Text.digit? base c with
    | some d => moreDigits? base (d :: read) rest
    | none => if c = '_' then none else some (read.reverse, c :: rest)

/-- One or more digits, grouped or not. -/
def digits? (base : Nat) : List Char → Option (List Nat × List Char)
  | [] => none
  | c :: rest =>
    match Text.digit? base c with
    | some d => moreDigits? base [d] rest
    | none => none

/-- The digits before a point.  A leading zero stands alone. -/
def wholeDigits? : List Char → Option (List Nat × List Char)
  | '0' :: rest => some ([0], rest)
  | text => digits? 10 text

/-- The digits after a point; without a point there are none. -/
def fraction? : List Char → Option (List Nat × List Char)
  | '.' :: rest => digits? 10 rest
  | text => some ([], text)

/-- An exponent; without a mark there is none. -/
def exponent? (text : List Char) : Option (Option Int × List Char) :=
  let read (negative : Bool) (text : List Char) : Option (Option Int × List Char) :=
    (digits? 10 text).map fun (digits, rest) =>
      let n : Int := Text.ofDigits 10 digits
      (some (if negative then -n else n), rest)
  match text with
  | mark :: rest =>
    if mark = 'e' ∨ mark = 'E' then
      match rest with
      | '-' :: rest => read true rest
      | '+' :: rest => read false rest
      | rest => read false rest
    else some (none, text)
  | [] => some (none, [])

def integer? (n : Int) : Option Toml :=
  let limit : Int := Nat.pow 2 63
  if -limit ≤ n ∧ n < limit then some (.integer n) else none

/-- A decimal number behind its sign.  With a point or an exponent it is a float, and a positive
one must not be beyond the largest float. -/
def decimal? (negative : Bool) (text : List Char) : Option (Toml × List Char) :=
  match wholeDigits? text with
  | none => none
  | some (whole, afterWhole) =>
    match fraction? afterWhole with
    | none => none
    | some (fraction, afterFraction) =>
      match exponent? afterFraction with
      | none => none
      | some (exponent, rest) =>
        if fraction.isEmpty && exponent.isNone then
          let n : Int := Text.ofDigits 10 whole
          (integer? (if negative then -n else n)).map (·, rest)
        else
          let size := (Decimal.Numeral.mk whole fraction (exponent.getD 0)).toFloat
          if negative then some (.float (-size), rest)
          else if size.isInf then none
          else some (.float size, rest)

def signed? (negative : Bool) : List Char → Option (Toml × List Char)
  | 'i' :: 'n' :: 'f' :: rest =>
    some (.float (if negative then -1.0 / 0.0 else 1.0 / 0.0), rest)
  | 'n' :: 'a' :: 'n' :: rest => some (.float (0.0 / 0.0), rest)
  | text => decimal? negative text

/-- A number.  Hexadecimal, octal and binary integers have no sign. -/
def number? : List Char → Option (Toml × List Char)
  | '+' :: rest => signed? false rest
  | '-' :: rest => signed? true rest
  | '0' :: 'x' :: rest => whole 16 rest
  | '0' :: 'o' :: rest => whole 8 rest
  | '0' :: 'b' :: rest => whole 2 rest
  | text => signed? false text
where
  /-- An integer in another base. -/
  whole (base : Nat) (text : List Char) : Option (Toml × List Char) :=
    match digits? base text with
    | none => none
    | some (digits, rest) => (integer? (Text.ofDigits base digits)).map (·, rest)

/-- A number of exactly `count` digits within bounds. -/
def part? (count least most : Nat) (text : List Char) : Option (Nat × List Char) :=
  if (text.take count).length = count then
    match Text.natural? 10 (text.take count) with
    | some n => if least ≤ n ∧ n ≤ most then some (n, text.drop count) else none
    | none => none
  else none

/-- The text after a character it must start with. -/
def mark? (mark : Char) : List Char → Option (List Char)
  | c :: rest => if c = mark then some rest else none
  | [] => none

def daysIn (year month : Nat) : Nat :=
  if month = 2 then
    if year % 4 = 0 ∧ (year % 100 ≠ 0 ∨ year % 400 = 0) then 29 else 28
  else if month = 4 ∨ month = 6 ∨ month = 9 ∨ month = 11 then 30 else 31

def date? (text : List Char) : Option (List Char) := do
  let (year, rest) ← part? 4 0 9999 text
  let (month, rest) ← part? 2 1 12 (← mark? '-' rest)
  let (_, rest) ← part? 2 1 (daysIn year month) (← mark? '-' rest)
  return rest

/-- The text after a time.  Parts of a second may have any number of digits. -/
def time? (text : List Char) : Option (List Char) := do
  let (_, rest) ← part? 2 0 23 text
  let (_, rest) ← part? 2 0 59 (← mark? ':' rest)
  let (_, rest) ← part? 2 0 60 (← mark? ':' rest)
  match rest with
  | '.' :: d :: more => return if d.isDigit then more.dropWhile Char.isDigit else rest
  | rest => return rest

/-- The text after the distance from universal time, if it is given. -/
def skipZone (text : List Char) : List Char :=
  match text with
  | c :: rest =>
    if c = 'Z' ∨ c = 'z' then rest
    else if c = '+' ∨ c = '-' then
      (do
        let (_, rest) ← part? 2 0 23 rest
        let (_, rest) ← part? 2 0 59 (← mark? ':' rest)
        return rest : Option (List Char)).getD text
    else text
  | [] => []

/-- A date, a time, or a date and a time with or without a zone. -/
def moment? (text : List Char) : Option (Toml × List Char) :=
  match date? text with
  | none => (time? text).map (.moment, ·)
  | some rest =>
    match rest with
    | c :: afterMark =>
      if c = 'T' ∨ c = 't' ∨ c = ' ' then
        match time? afterMark with
        | some rest => some (.moment, skipZone rest)
        | none => some (.moment, rest)
      else some (.moment, rest)
    | [] => some (.moment, [])

end ChatFlow.Toml
