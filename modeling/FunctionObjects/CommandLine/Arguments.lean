import FunctionObjects.Syntax.Tree

/-!
# Arguments of the command line

The command takes options only. An option is written with its long name, and its value follows
after `=` or as the next argument; the short ones are one letter, and there the value may also
follow at once. An argument that begins with a hyphen is never the value of the one before it,
unless it is the hyphen alone. Every option but `--param` may occur once.
-/

namespace FunctionObjects.CommandLine

/-- What the arguments ask for. -/
structure Arguments : Type where
  name : Option String := none
  species : Option Species := none
  params : List String := []
  strict : Bool := false
  scriptStrict : Bool := false
  count : Option Nat := none
  logFilter : Option String := none
deriving Inhabited

/-- Why the arguments cannot be understood. -/
inductive UsageError : Type where
  | unknownOption (text : String)
  | unexpectedArgument (text : String)
  | missingValue (option : String)
  | unexpectedValue (option : String)
  | repeated (option : String)
  | invalidValue (option value : String)
deriving DecidableEq

def UsageError.message : UsageError → String
  | .unknownOption text => "unknown option '" ++ text ++ "'"
  | .unexpectedArgument text => "unexpected argument '" ++ text ++ "'"
  | .missingValue option => "a value is required for '" ++ option ++ "'"
  | .unexpectedValue option => "no value is allowed for '" ++ option ++ "'"
  | .repeated option => "'" ++ option ++ "' cannot be used more than once"
  | .invalidValue option value => "invalid value '" ++ value ++ "' for '" ++ option ++ "'"

/-- The options that take a value. -/
inductive ValueOption : Type where
  | name
  | kind
  | param
  | count
  | log
deriving DecidableEq

/-- The options that do not. -/
inductive Flag : Type where
  | strict
  | scriptStrict
deriving DecidableEq

namespace ValueOption

def longName : ValueOption → String
  | .name => "name"
  | .kind => "kind"
  | .param => "param"
  | .count => "count"
  | .log => "log"

/-- The letter, if there is one. -/
def letter? : ValueOption → Option Char
  | .name => some 'n'
  | .kind => some 'k'
  | .param => some 'p'
  | .count => some 'c'
  | .log => none

def all : List ValueOption := [.name, .kind, .param, .count, .log]

end ValueOption

namespace Flag

def longName : Flag → String
  | .strict => "strict"
  | .scriptStrict => "script-strict"

def all : List Flag := [.strict, .scriptStrict]

end Flag

/-! ### Reading values -/

/-- The species that a word names. -/
def species? : String → Option Species
  | "ordinary" => some .ordinary
  | "async" => some .async
  | "generator" => some .generator
  | "async-generator" => some .asyncGenerator
  | _ => none

/-- The number that decimal digits denote; there must be one at least. -/
def digits? : List Char → Option Nat
  | [] => none
  | cs => cs.foldl (fun n c => do
      let n ← n
      if c.isDigit then some (10 * n + (c.toNat - '0'.toNat)) else none) (some 0)

/-- A count is written in decimal digits, after a plus sign if one likes, and fits 64 bits. -/
def count? (text : String) : Option Nat :=
  let number? :=
    match text.toList with
    | '+' :: rest => digits? rest
    | cs => digits? cs
  number?.filter fun n => n < 0x10000000000000000

/-! ### Taking options -/

namespace Arguments

/-- The arguments with a value taken for an option. -/
def take (a : Arguments) (option : ValueOption) (value : String) : Except UsageError Arguments :=
  let once (taken : Bool) (result : Option Arguments) : Except UsageError Arguments :=
    if taken then .error (.repeated option.longName)
    else result.elim (.error (.invalidValue option.longName value)) .ok
  match option with
  | .name => once a.name.isSome (some { a with name := some value })
  | .kind => once a.species.isSome ((species? value).map fun s => { a with species := some s })
  | .param => .ok { a with params := a.params ++ [value] }
  | .count => once a.count.isSome ((count? value).map fun n => { a with count := some n })
  | .log => once a.logFilter.isSome (some { a with logFilter := some value })

def set (a : Arguments) : Flag → Except UsageError Arguments
  | .strict =>
    if a.strict then .error (.repeated Flag.strict.longName) else .ok { a with strict := true }
  | .scriptStrict =>
    if a.scriptStrict then .error (.repeated Flag.scriptStrict.longName)
    else .ok { a with scriptStrict := true }

end Arguments

/-- The parts of an argument before and after its first `=`. -/
def splitValue (cs : List Char) : List Char × Option (List Char) :=
  match cs.dropWhile fun c => c != '=' with
  | [] => (cs, none)
  | _ :: value => (cs.takeWhile fun c => c != '=', some value)

/-- What an argument is, taken by itself. -/
inductive Word : Type where
  /-- The end of the options: two hyphens. -/
  | endOfOptions
  | flag (f : Flag)
  /-- An option with the value that is written in the same argument, if there is one. -/
  | option (o : ValueOption) (value : Option String)
deriving DecidableEq

/-- A long option, without its hyphens. -/
def longWord (text : List Char) : Except UsageError Word :=
  let (name, value) := splitValue text
  let name := String.ofList name
  match ValueOption.all.find? fun o => o.longName == name with
  | some o => .ok (.option o (value.map String.ofList))
  | none =>
    match Flag.all.find? fun f => f.longName == name with
    | some f => if value.isSome then .error (.unexpectedValue name) else .ok (.flag f)
    | none => .error (.unknownOption name)

/-- A short option, from its letter on. -/
def shortWord (letter : Char) (rest : List Char) : Except UsageError Word :=
  match ValueOption.all.find? fun o => o.letter? == some letter with
  | none => .error (.unknownOption letter.toString)
  | some o =>
    match rest with
    | [] => .ok (.option o none)
    | '=' :: value => .ok (.option o (some (String.ofList value)))
    | value => .ok (.option o (some (String.ofList value)))

/-- What an argument is, taken by itself. -/
def word (text : String) : Except UsageError Word :=
  match text.toList with
  | ['-', '-'] => .ok .endOfOptions
  | '-' :: '-' :: rest => longWord rest
  | '-' :: letter :: rest => shortWord letter rest
  | _ => .error (.unexpectedArgument text)

/-- Whether an argument can be the value of the option before it. -/
def isValue (text : String) : Bool :=
  match text.toList with
  | '-' :: _ :: _ => false
  | _ => true

/-- Read the arguments one after the other. -/
def readArguments (a : Arguments) : List String → Except UsageError Arguments
  | [] => .ok a
  | text :: rest => do
    match ← word text with
    | .endOfOptions =>
      match rest with
      | [] => .ok a
      | extra :: _ => .error (.unexpectedArgument extra)
    | .flag f => readArguments (← a.set f) rest
    | .option o (some value) => readArguments (← a.take o value) rest
    | .option o none =>
      match rest with
      | value :: rest =>
        if isValue value then readArguments (← a.take o value) rest
        else .error (.missingValue o.longName)
      | [] => .error (.missingValue o.longName)

/-- What a command line asks for. -/
def Arguments.parse (args : List String) : Except UsageError Arguments := readArguments {} args

end FunctionObjects.CommandLine
