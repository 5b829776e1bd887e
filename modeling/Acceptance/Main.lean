import Acceptance.Command.Program

/-!
# The program at work

Reads the arguments, the environment and the files that the arguments name, runs the program on them, and
writes what it leaves: its text on the standard output, the log and the reason of a failure on the standard
error.
-/

set_option autoImplicit false

namespace Acceptance.Console

/-- The fault that a number of the system stands for. The number may come with a minus sign, as a word
of 32 bits. -/
def systemFault (details : String) (code : UInt32) : FileFault :=
  match min code.toNat (-code).toNat with
  | 2 => .notFound
  | 20 => .notDirectory
  | 36 => .nameTooLong
  | number => .other (details ++ " (os error " ++ toString number ++ ")")

/-- What a failed access to a path means. -/
def fileFault : IO.Error → FileFault
  | .noFileOrDirectory _ code details | .permissionDenied _ code details
  | .inappropriateType _ code details | .invalidArgument _ code details
  | .resourceExhausted _ code details | .otherError code details => systemFault details code
  | error => .other (toString error)

/-- What is found at a path: the bytes that can be read there, or else the names in a directory, or else
why neither can be had. -/
def readEntry (path : String) : IO (Except FileFault FileEntry) := do
  if path.toList.contains '\x00' then return .error .zeroInPath
  try
    return .ok (.file (← IO.FS.readBinFile path).toList)
  catch error =>
    try
      return .ok (.directory ((← (← IO.FS.realPath path).readDir).toList.map (·.fileName)))
    catch _ => return .error (fileFault error)

/-- What is found at paths. -/
def readEntries (paths : List String) : IO (List (String × Except FileFault FileEntry)) :=
  paths.mapM fun path => return (path, ← readEntry path)

/-- The part of the file system that a command line asks for: what its paths lead to, and the files in
the directories among them. -/
def readFiles (arguments : List String) : IO FileSystem := do
  match readArguments arguments with
  | .ok (.run _ (.check _ paths)) =>
    let named ← readEntries paths
    let inside ← readEntries (paths.flatMap (Check.filesAt (FileSystem.ofEntries named)))
    return FileSystem.ofEntries (named ++ inside)
  | _ => return FileSystem.ofEntries []

end Acceptance.Console

open Acceptance in
/-- Run the program on the files at hand. The exit code is that of its end. -/
def main (arguments : List String) : IO UInt32 := do
  let fs ← Console.readFiles arguments
  let ran := Program.run arguments (← IO.getEnv "WISHES_LOG_LEVEL") fs
  for record in ran.log do
    IO.eprintln (record.level.label ++ " " ++ record.text)
  IO.print ran.stdout
  if let some message := ran.ending.message? then
    IO.eprintln message
  return ran.ending.code.toUInt32
