/-!
# Logs

What a command says about its work, from details up to warnings.
-/

namespace Phrasebook.Project

/-- How important a record is. -/
inductive Level where
  | debug
  | info
  | warning
deriving DecidableEq, Repr, Inhabited

namespace Level

def rank : Level → Nat
  | debug => 0
  | info => 1
  | warning => 2

def name : Level → String
  | debug => "DEBUG"
  | info => "INFO"
  | warning => "WARNING"

end Level

/-- Something that a part of the library says. -/
structure Record where
  level : Level
  /-- The part of the library that says it. -/
  topic : String
  message : String
deriving DecidableEq, Repr

/-- The line of a record for a reader at a terminal. -/
def Record.line (record : Record) : String :=
  "[jsxlate] " ++ record.level.name ++ " " ++ record.message ++ "\n"

/-- The line of a record in a file, which tells the time and the topic as well. -/
def Record.timedLine (time : String) (record : Record) : String :=
  time ++ " " ++ record.level.name ++ " jsxlate." ++ record.topic ++ ": " ++ record.message ++
    "\n"

/-- The lines of the records that are important enough. -/
def linesFrom (level : Level) (records : List Record) : String :=
  String.join ((records.filter fun record => level.rank ≤ record.level.rank).map Record.line)

end Phrasebook.Project
