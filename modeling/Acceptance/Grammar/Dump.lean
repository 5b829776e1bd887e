import Acceptance.Grammar.Declaration
import Acceptance.Json

/-!
# Showing a grammar

The rows of a table and the pairs of states that it leaves unconnected, as lines for people and as JSON for
programs.
-/

set_option autoImplicit false

namespace Acceptance.Grammar

/-- A row on one line. Actions go by the name of what they report. -/
def Transition.display (s : State) (row : Transition) : String :=
  s.name ++ " --" ++ row.matcher.name ++ "--> " ++ row.next.name ++ " [" ++
    ", ".intercalate (row.actions.map Action.reported) ++ "]"

/-- A pair of states on one line. -/
def displayPair (pair : State × State) : String :=
  pair.1.name ++ " -> " ++ pair.2.name

/-- A row as JSON. Actions go by their own names. -/
def Transition.toJson (s : State) (row : Transition) : String :=
  Json.object [("state", Json.string s.name), ("matcher", Json.string row.matcher.name),
    ("actions", Json.array (row.actions.map fun a => Json.string a.name)),
    ("next", Json.string row.next.name)]

/-- Pairs of states as JSON. -/
def pairsToJson (pairs : List (State × State)) : String :=
  Json.array (pairs.map fun (source, target) =>
    Json.array [Json.string source.name, Json.string target.name])

namespace TransitionTable

/-- The rows of all states, one on a line, in the order of the states. -/
def rowLines (t : TransitionTable) : List String :=
  State.all.flatMap fun s => (t.rows s).map (Transition.display s)

/-- The unconnected pairs of states, one on a line. -/
def unreachableLines (t : TransitionTable) : List String :=
  t.unreachableTransitions.map displayPair

/-- The declaration as JSON, with what it leaves unconnected. -/
def dump (t : TransitionTable) : String :=
  Json.object
    [("rows", Json.array (t.declared.flatMap fun e => e.rows.map (Transition.toJson e.state))),
      ("unreachable_transitions", pairsToJson t.unreachableTransitions),
      ("unreachable_states", Json.array (t.unreachableStates.map fun s => Json.string s.name))]

end TransitionTable

end Acceptance.Grammar
