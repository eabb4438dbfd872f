import ChatFlow.Files.Path
import ChatFlow.Keyed

/-!
# Files

A tree of files as a value, with the directory from which relative paths start.  Reading goes step
by step; every step but the last has to lead to a directory.
-/

set_option autoImplicit false

namespace ChatFlow

inductive FileEntry
  | folder
  | file (bytes : ByteArray)

/-- Files and directories by the steps that lead to them from the root, the last added first.
`working` leads to the working directory.  What is `locked` may be passed through but not read. -/
structure Files where
  working : List String
  entries : List (List String × FileEntry)
  locked : List (List String)

inductive FileError
  | notFound
  | notADirectory
  | isADirectory
  | permissionDenied
  | nameTooLong
  | nulInName
  | notText
  deriving DecidableEq, Repr

def FileError.message : FileError → String
  | .notFound => "No such file or directory (os error 2)"
  | .notADirectory => "Not a directory (os error 20)"
  | .isADirectory => "Is a directory (os error 21)"
  | .permissionDenied => "Permission denied (os error 13)"
  | .nameTooLong => "File name too long (os error 36)"
  | .nulInName => "file name contained an unexpected NUL byte"
  | .notText => "stream did not contain valid UTF-8"

namespace Files

def empty (working : List String) : Files := ⟨working, [], []⟩

/-- The steps of a path from the root, without following them. -/
def stepsOf (files : Files) (path : String) : List String :=
  if Path.isAbsolute path then Path.steps path else files.working ++ Path.steps path

/-- Adds an entry in place of the one that may be there; the directories on the way to it come
into being. -/
def add (files : Files) (path : String) (entry : FileEntry) : Files :=
  { files with entries := (files.stepsOf path, entry) :: files.entries }

/-- Keeps what stands at a path from being read. -/
def lock (files : Files) (path : String) : Files :=
  { files with locked := files.stepsOf path :: files.locked }

/-- Whether some steps lead to a directory on the way to something else. -/
def isOnTheWay (files : Files) (steps : List String) : Bool :=
  steps.isPrefixOf files.working || files.entries.any (fun entry => steps.isPrefixOf entry.1)

/-- What stands at the end of some steps. -/
def entry? (files : Files) (steps : List String) : Option FileEntry :=
  match files.entries.find? (fun entry => entry.1 = steps) with
  | some entry => some entry.2
  | none => if files.isOnTheWay steps then some .folder else none

/-- The longest name of a step, in bytes. -/
def longestName : Nat := 255

/-- Follows steps from some place.  Nothing lies above the root. -/
def follow (files : Files) (place : List String) : List String → Except FileError (List String)
  | [] => .ok place
  | step :: rest =>
    match files.entry? place with
    | some .folder =>
      if step = ".." then follow files place.dropLast rest
      else if longestName < step.utf8ByteSize then .error .nameTooLong
      else
        match files.entry? (place ++ [step]) with
        | some _ => follow files (place ++ [step]) rest
        | none => .error .notFound
    | _ => .error .notADirectory

/-- Where a path leads, and what stands there. -/
def locate (files : Files) (path : String) : Except FileError (List String × FileEntry) :=
  if path.toList.contains '\x00' then .error .nulInName
  else if path = "" then .error .notFound
  else
    match files.follow (if Path.isAbsolute path then [] else files.working) (Path.steps path) with
    | .error e => .error e
    | .ok place =>
      match files.entry? place with
      | none => .error .notFound
      | some .folder => .ok (place, .folder)
      | some entry =>
        if Path.wantsFolder path then .error .notADirectory else .ok (place, entry)

def readText (files : Files) (path : String) : Except FileError String :=
  match files.locate path with
  | .error e => .error e
  | .ok (place, entry) =>
    if place ∈ files.locked then .error .permissionDenied
    else
      match entry with
      | .folder => .error .isADirectory
      | .file bytes =>
        match String.fromUTF8? bytes with
        | some text => .ok text
        | none => .error .notText

def folder? (files : Files) (path : String) : Option (List String) :=
  match files.locate path with
  | .ok (place, .folder) => some place
  | _ => none

/-- The names of the files, but not the directories, in a directory, in byte order. -/
def namesIn (files : Files) (place : List String) : List String :=
  let names := files.entries.filterMap fun entry =>
    match entry with
    | (steps, .file _) =>
      if steps.dropLast = place then steps.getLast? else none
    | _ => none
  names.eraseDups.mergeSort (fun a b => decide (a ≤ b))

/-- Reads a directory. -/
def list (files : Files) (place : List String) : Except FileError (List String) :=
  if place ∈ files.locked then .error .permissionDenied else .ok (files.namesIn place)

end Files

end ChatFlow
