import Acceptance.Load

/-!
# The command that checks features

`check` loads every feature at the given paths and lists the test cases that the tag expressions select,
one on a line. It writes nothing unless everything could be loaded.
-/

set_option autoImplicit false

namespace Acceptance

/-- Why a command failed: what it was doing, and then the causes behind, the nearest first. -/
abbrev Report : Type := List String

namespace Check

/-- The extension of a file name: what follows its last point, unless the name begins with that. -/
def extension? (name : String) : Option String :=
  match Text.cutAt (· == '.') name.toList with
  | [] | [_] | [[], _] => none
  | pieces => pieces.getLast?.map String.ofList

/-- Put a name at its place in an ascending list. -/
def insertSorted (name : String) : List String → List String
  | [] => [name]
  | n :: ns => if name < n then name :: n :: ns else n :: insertSorted name ns

/-- The names in ascending order. -/
def sortNames (names : List String) : List String :=
  names.foldr insertSorted []

/-- The files that a path stands for: a directory stands for what it holds with the extension of
features, by name, and anything else for itself. -/
def filesAt (fs : FileSystem) (path : String) : List String :=
  match fs.entry path with
  | .ok (.directory names) =>
    (sortNames (names.filter fun name => extension? name == some "feature")).map (joinPath path)
  | _ => [path]

/-- The test cases of the feature at a path. -/
def loadFile (fs : FileSystem) (path : String) : Logged Report (Suite Unit) :=
  let loader : Loader Unit := { registry := Registry.empty }
  ((loader.loadPath fs path).mapError fun fault => ("failed to load " ++ path) :: fault.chain).bind
    fun suite =>
      ⟨[⟨.info, "loaded feature path=" ++ path ++ " cases=" ++ toString suite.length⟩], .ok suite⟩

/-- A test case on one line: its identity, its tags, and the number of its own steps. -/
def caseLine (c : TestCase Unit) : String :=
  let tags := if c.info.tags.isEmpty then "-" else c.info.tags.display
  let steps := match c.scenario with
    | some scenario => scenario.steps.length
    | none => 0
  c.info.id ++ "  " ++ tags ++ "  " ++ toString steps ++ " step(s)"

/-- The lines of the test cases at the paths that all tag expressions select. -/
def lines (fs : FileSystem) (paths tags : List String) : Logged Report (List String) :=
  match TagExpression.all tags with
  | .error fault => .fail ["invalid --tags expression", fault.message]
  | .ok e =>
    (Logged.traverse (loadFile fs) (paths.flatMap (filesAt fs))).bind fun suites =>
      .pure ((Suite.select suites.flatten e).map caseLine)

/-- What the command writes. -/
def run (fs : FileSystem) (paths tags : List String) : Logged Report String :=
  (lines fs paths tags).bind fun lines => .pure (String.join (lines.map (· ++ "\n")))

end Check

end Acceptance
