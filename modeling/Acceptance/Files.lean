import Acceptance.Document.Source

/-!
# Files

What the library needs to know of a file system: what is found at a path. `FileTree` is a file system that
is a value, a list of the files and directories below the current directory.
-/

set_option autoImplicit false

namespace Acceptance

/-- Why there is nothing to be had at a path. -/
inductive FileFault where
  | notFound
  | notDirectory
  | isDirectory
  | nameTooLong
  | zeroInPath
  /-- Anything else, as the system says it. -/
  | other (text : String)
  deriving DecidableEq, Repr

/-- What the system says about the fault. -/
def FileFault.message : FileFault → String
  | notFound => "No such file or directory (os error 2)"
  | notDirectory => "Not a directory (os error 20)"
  | isDirectory => "Is a directory (os error 21)"
  | nameTooLong => "File name too long (os error 36)"
  | zeroInPath => "file name contained an unexpected NUL byte"
  | other text => text

/-- What is found at a path: the bytes of a file, or the names in a directory. -/
inductive FileEntry where
  | file (bytes : List UInt8)
  | directory (names : List String)
  deriving Repr

/-- A file system. -/
structure FileSystem where
  entry : String → Except FileFault FileEntry

namespace FileSystem

/-- The file system of which only what is found at some paths is known. Nothing is found elsewhere. -/
def ofEntries (entries : List (String × Except FileFault FileEntry)) : FileSystem :=
  ⟨fun path => (entries.lookup path).getD (.error .notFound)⟩

/-- Whether there is a directory at the path. -/
def isDirectory (fs : FileSystem) (path : String) : Bool :=
  match fs.entry path with
  | .ok (.directory _) => true
  | _ => false

/-- The stream of the file at a path. A directory can be opened and cannot be read. -/
def openStream (fs : FileSystem) (path : String) : Except FileFault Stream :=
  match fs.entry path with
  | .ok (.file bytes) => .ok ⟨bytes, none⟩
  | .ok (.directory _) => .ok ⟨[], some FileFault.isDirectory.message⟩
  | .error fault => .error fault

end FileSystem

/-- The path of a name in a directory. -/
def joinPath (directory name : String) : String :=
  if directory.isEmpty then name
  else if directory.toList.getLast? == some '/' then directory ++ name
  else directory ++ "/" ++ name

/-- The names that a path goes through. Empty names and single points lead nowhere. -/
def pathNames (path : String) : List String :=
  ((Text.cutAt (· == '/') path.toList).map String.ofList).filter fun name => name != "" && name != "."

/-- Whether a path has to lead to a directory: it ends with a slash or with a single point. -/
def wantsDirectory (path : String) : Bool :=
  match (Text.cutAt (· == '/') path.toList).getLast? with
  | some last => last == [] || last == ['.']
  | none => false

/-- The files and directories below the current directory: the names that lead to each, and the bytes of
the files. The directories on the way to a file need not be listed. -/
structure FileTree where
  items : List (List String × Option (List UInt8))

namespace FileTree

/-- The names in a directory, each once. -/
def namesBelow (t : FileTree) (directory : List String) : List String :=
  (t.items.filterMap fun (names, _) =>
    if directory.isPrefixOf names then (names.drop directory.length).head? else none).eraseDups

/-- What the names lead to from the current directory. -/
def entryAt? (t : FileTree) (names : List String) : Option FileEntry :=
  match t.items.find? (fun item => item.1 == names) with
  | some (_, some bytes) => some (.file bytes)
  | some (_, none) => some (.directory (t.namesBelow names))
  | none =>
    if names.isEmpty || t.items.any (fun item => names.isPrefixOf item.1) then
      some (.directory (t.namesBelow names))
    else none

/-- The greatest number of bytes in a name. -/
def maxNameBytes : Nat := 255

/-- Go on from a directory by the names of a path. -/
def walk (t : FileTree) (directory : List String) : List String → Except FileFault (List String)
  | [] => .ok directory
  | name :: names =>
    if name.utf8ByteSize > maxNameBytes then .error .nameTooLong
    else
      let next := if name == ".." then directory.dropLast else directory ++ [name]
      match t.entryAt? next with
      | some (.directory _) => t.walk next names
      | some (.file _) => if names.isEmpty then .ok next else .error .notDirectory
      | none => .error .notFound

/-- What is found at a path. -/
def entry (t : FileTree) (path : String) : Except FileFault FileEntry :=
  if path.toList.contains '\x00' then .error .zeroInPath
  else if path.isEmpty || path.toList.head? == some '/' then .error .notFound
  else
    match t.walk [] (pathNames path) with
    | .error fault => .error fault
    | .ok names =>
      match t.entryAt? names with
      | some (.file bytes) => if wantsDirectory path then .error .notDirectory else .ok (.file bytes)
      | some directory => .ok directory
      | none => .error .notFound

/-- The tree as a file system. -/
def fileSystem (t : FileTree) : FileSystem :=
  ⟨t.entry⟩

end FileTree

end Acceptance
