import NumScript.Automaton.Run

/-!
# Parsing a script

A script is scanned into tokens and the automaton is run on them. The same run, seen by what it looks
up in its table, is the trace of the script.
-/

namespace NumScript

open Automaton (Lookup ParseError Stage)

/-- The program that the tokens of a script make up. -/
def parseScan (scan : Scan) : Except ParseError Program := do
  let stage ← Stage.start scan
  stage.run

/-- What is looked up while the tokens of a script are parsed. -/
def traceScan (scan : Scan) : List Lookup :=
  match Stage.start scan with
  | .ok stage => stage.lookups
  | .error _ => []

/-- The program that a script says. -/
def parse (source : String) : Except ParseError Program := parseScan (scan source)

/-- What is looked up while a script is parsed. -/
def trace (source : String) : List Lookup := traceScan (scan source)

end NumScript
