/-!
# Paths

Steps of a path are separated by slashes; empty steps and `.` lead nowhere.
-/

set_option autoImplicit false

namespace ChatFlow.Path

/-- Splits a list of characters at slashes; `step` holds the step being read, last first. -/
def splitAtSlashes (step : List Char) : List Char → List (List Char)
  | [] => [step.reverse]
  | c :: rest =>
    if c = '/' then step.reverse :: splitAtSlashes [] rest else splitAtSlashes (c :: step) rest

/-- The steps of a path that lead somewhere. -/
def steps (path : String) : List String :=
  ((splitAtSlashes [] path.toList).map String.ofList).filter (fun step => step ≠ "" ∧ step ≠ ".")

/-- Whether a path can only lead to a directory, because it ends with a slash or with `.`. -/
def wantsFolder (path : String) : Bool :=
  match (splitAtSlashes [] path.toList).getLast? with
  | some last => last.isEmpty || last == ['.']
  | none => true

/-- Whether a path starts at the root. -/
def isAbsolute (path : String) : Bool := path.toList.head? == some '/'

/-- The last step of a path, if it names something. -/
def name? (path : String) : Option String :=
  match (steps path).getLast? with
  | some ".." => none
  | last => last

/-- A name before and after its last dot. -/
def splitAtLastDot? (name : List Char) : Option (List Char × List Char) :=
  match name.reverse.dropWhile (· ≠ '.') with
  | _ :: before => some (before.reverse, (name.reverse.takeWhile (· ≠ '.')).reverse)
  | [] => none

/-- What stands after the last dot of the last step; a dot at its start does not count. -/
def extension? (path : String) : Option String :=
  match (name? path).bind (fun name => splitAtLastDot? name.toList) with
  | some (_ :: _, extension) => some (String.ofList extension)
  | _ => none

def join (directory name : String) : String :=
  if directory = "" ∨ directory.toList.getLast? = some '/' then directory ++ name
  else directory ++ "/" ++ name

end ChatFlow.Path
