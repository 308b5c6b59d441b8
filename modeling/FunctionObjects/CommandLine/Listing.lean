import FunctionObjects.CommandLine.Request
import FunctionObjects.Evaluation.Agent
import FunctionObjects.Text.Quoted

/-!
# The listing

The command evaluates one function expression as often as asked for, and writes a line about each
function that results: its handle and its name, what was derived from the definition, and the
objects it is connected with.
-/

namespace FunctionObjects.CommandLine

/-- A handle, or a hyphen where there is none. -/
def handle : Option ObjectId → String
  | some id => "#" ++ toString id
  | none => "-"

def truth (b : Bool) : String := if b then "true" else "false"

/-- The line about a function. Its length is written as number values are. The functions that the
command makes have a count for their length, and a count shows its decimal digits and nothing else,
as long as there are no more of them than `Decimal.positionalTo`. -/
def line (s : Store) (h : HeapId) (c : Closure) (o : Object) (slots : FunctionSlots) : String :=
  let about :=
    [handle (some c.id),
      Quoted.quote o.functionName.toText,
      "length=" ++ o.functionLength.toText,
      "species=" ++ slots.species.label,
      "this=" ++ slots.thisMode.label,
      "strict=" ++ truth slots.strict,
      "constructor=" ++ truth slots.isConstructor,
      "prototype=" ++ handle o.instancePrototype?,
      "[[Prototype]]=" ++ handle (s.prototypeId? o)]
  let instances := (o.instancePrototype?.bind (s.get? h)).bind s.object?
  let aboutInstances :=
    instances.toList.map fun i => "prototype.[[Prototype]]=" ++ handle (s.prototypeId? i)
  String.intercalate " " (about ++ aboutInstances)

/-- Make one more function and write its line. -/
def nextLine (d : FunctionDefinition) : Evaluation String := do
  let c ← Evaluation.instantiate d
  let f ← Evaluation.slots c
  let a ← get
  match a.store.object? c.ref with
  | some o => return line a.store a.heap c o f
  | none => throw (.refused (.danglingObject c.id))

/-- Make `count` functions and add their lines to those that are written already. -/
def linesAfter (d : FunctionDefinition) (lines : Array String) :
    (count : Nat) → Evaluation (Array String)
  | 0 => return lines
  | count + 1 => do
    let next ← nextLine d
    linesAfter d (lines.push next) count

/-- How a run of the command ends. -/
inductive Outcome : Type where
  /-- The listing is complete. -/
  | listed (lines : List String)
  /-- The request cannot be met. -/
  | refused (message : String)
  /-- The arguments cannot be understood. -/
  | misused (cause : UsageError)
deriving DecidableEq

/-- The status with which the command ends. -/
def Outcome.status : Outcome → UInt32
  | .listed _ => 0
  | .refused _ => 1
  | .misused _ => 2

/-- What the command reports as an error, if anything. -/
def Outcome.report? : Outcome → Option String
  | .listed _ => none
  | .refused message => some ("Error: " ++ message)
  | .misused cause => some ("error: " ++ cause.message)

/-- The lines that arguments ask for. -/
def Arguments.listing (a : Arguments) : Except String (List String) := do
  let d ← a.definition.mapError RequestError.message
  let agent ← (Agent.start a.settings).mapError Error.message
  match linesAfter d #[] a.repetitions agent with
  | .ok lines _ => return lines.toList
  | .error e _ => throw e.message

/-- How a run with given arguments ends. -/
def Arguments.outcome (a : Arguments) : Outcome :=
  match a.listing with
  | .ok lines => .listed lines
  | .error message => .refused message

/-- A run of the command. -/
def run (args : List String) : Outcome :=
  match Arguments.parse args with
  | .error cause => .misused cause
  | .ok a => a.outcome

end FunctionObjects.CommandLine
