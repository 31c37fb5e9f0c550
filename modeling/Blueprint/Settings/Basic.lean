/-!
# Interpreter settings

Two switches: whether each step of a run is traced, and whether the arguments of a
call are checked against the parameter types of the function's entry. Both are off
unless set.
-/

namespace Blueprint

/-- The switches of an interpreter. -/
structure Settings where
  /-- trace every node step, sub-flow opening and resumption -/
  logSteps : Bool := false
  /-- check arguments against the entry's parameter types -/
  validateArguments : Bool := false
deriving Repr, DecidableEq, Inhabited

/-- Why settings could not be had. -/
inductive SettingsError where
  /-- the settings file could not be read -/
  | io
  /-- the text is not settings in the notation -/
  | parse
deriving Repr, DecidableEq

end Blueprint
