/-!
# Settings

What may be chosen before anything runs.
-/

namespace FunctionObjects

/-- The choices, with their defaults. -/
structure Settings : Type where
  /-- Whether top-level code is strict. -/
  scriptStrict : Bool := false
  /-- Which log messages are wanted when the environment does not say. -/
  logFilter : String := "warn"
deriving DecidableEq, Inhabited

namespace Settings

def withScriptStrict (s : Settings) (scriptStrict : Bool) : Settings := { s with scriptStrict }

def withLogFilter (s : Settings) (logFilter : String) : Settings := { s with logFilter }

end Settings

end FunctionObjects
