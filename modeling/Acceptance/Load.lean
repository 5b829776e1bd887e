import Acceptance.Files
import Acceptance.Load.Draft

/-!
# Loading documents

A loader reads documents against a registry of step definitions and gives the test cases of each as a
suite, or the first fault.
-/

set_option autoImplicit false

namespace Acceptance

/-- Step definitions, and what generated names begin with. -/
structure Loader (W : Type) where
  registry : Registry W
  config : NamingConfig := {}

namespace Loader

variable {W : Type}

/-- A loader with the given configuration, if every setting of that can begin an identifier. -/
def withConfig (registry : Registry W) (config : NamingConfig) : Except LoadFault (Loader W) :=
  match config.invalidSetting? with
  | some (setting, value) => .error (.invalidConfig setting value)
  | none => .ok ⟨registry, config⟩

/-- The suite that a session has built, or why there is none. -/
def result (ended : Session (Draft W) × ReadOutcome LoadFault) : Logged LoadFault (Suite W) :=
  match ended with
  | (s, .ok ()) => ⟨s.log, .ok s.state.suite⟩
  | (s, .error (.fault fault)) => ⟨s.log, .error (.parse fault)⟩
  | (s, .error (.refused fault)) => ⟨s.log, .error fault⟩

/-- The test cases of a text. -/
def loadText (l : Loader W) (text : String) : Logged LoadFault (Suite W) :=
  result (Session.parseText (Draft.builder l.config l.registry) { state := {} } text)

/-- The test cases of a stream. -/
def loadStream (l : Loader W) (source : String) (stream : Stream) : Logged LoadFault (Suite W) :=
  result (Session.parseStream (Draft.builder l.config l.registry) { state := {} } source stream)

/-- The test cases of the file at a path. -/
def loadPath (l : Loader W) (fs : FileSystem) (path : String) : Logged LoadFault (Suite W) :=
  match fs.openStream path with
  | .ok stream => l.loadStream path stream
  | .error fault => .fail (.cannotOpen path fault.message)

end Loader

end Acceptance
