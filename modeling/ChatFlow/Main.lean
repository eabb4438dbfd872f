import ChatFlow.CommandLine.Basic

/-!
# The program

Reads the files that a command may need, and prints what the command says.
-/

set_option autoImplicit false

open ChatFlow

/-- Adds what stands at a path on disk, if anything does. -/
def addFromDisk (files : Files) (path : String) : IO Files := do
  let place := (← IO.currentDir) / path
  if ← place.isDir then
    return files.add path .folder
  try
    return files.add path (.file (← IO.FS.readBinFile place))
  catch _ =>
    if ← place.pathExists then
      return (files.add path (.file .empty)).lock path
    return files

/-- Adds a directory on disk and the files in it. -/
def addFolderFromDisk (files : Files) (path : String) : IO Files := do
  let place := (← IO.currentDir) / path
  if ← place.isDir then
    let mut files := files.add path .folder
    try
      for entry in ← place.readDir do
        files ← addFromDisk files (Path.join path entry.fileName)
      return files
    catch _ =>
      return files.lock path
  return files

def main (arguments : List String) : IO UInt32 := do
  let working := Path.steps (← IO.currentDir).toString
  let mut files := Files.empty working
  for path in CommandLine.namedFiles arguments do
    files ← addFromDisk files path
  for path in CommandLine.documentFolders files arguments do
    files ← addFolderFromDisk files path
  let output := CommandLine.perform files arguments
  IO.print output.out
  IO.eprint output.err
  return output.exit.toUInt32
