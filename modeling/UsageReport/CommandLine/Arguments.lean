import UsageReport.CommandLine.Path
import UsageReport.Decimal.Numeral

/-! The arguments of the program: options of the program itself, a command, and the options and the
input of that command. The options of the program may also stand behind the command. Arguments are
read from left to right, and the first fault or request for information ends the reading. -/

namespace UsageReport.CommandLine

inductive Key where
  | config
  | verbose
  | help
  | version
  | output
  | topN
  | start
  | stop
  | taskName
deriving DecidableEq, Repr

/-- What an option takes. -/
inductive Kind where
  /-- Nothing. -/
  | flag
  /-- A path, which is not empty. -/
  | path
  /-- A whole number from zero. -/
  | number
  | text
deriving DecidableEq, Repr

structure OptionSpec where
  key : Key
  kind : Kind
  long : String
  short : Option Char := none

def sharedOptions : List OptionSpec :=
  [{ key := .config, kind := .path, long := "config", short := some 'c' },
    { key := .verbose, kind := .flag, long := "verbose", short := some 'v' },
    { key := .help, kind := .flag, long := "help", short := some 'h' }]

def programOptions : List OptionSpec :=
  sharedOptions ++ [{ key := .version, kind := .flag, long := "version", short := some 'V' }]

def outputOption : OptionSpec :=
  { key := .output, kind := .path, long := "output", short := some 'o' }

inductive Action where
  | chart
  | stats
  | filter
deriving DecidableEq, Repr

namespace Action

/-- The action that a word names. -/
def ofName? : String → Option Action
  | "chart" => some chart
  | "stats" => some stats
  | "filter" => some filter
  | _ => none

def options : Action → List OptionSpec
  | chart => sharedOptions ++ [outputOption,
      { key := .topN, kind := .number, long := "top-n", short := some 't' }]
  | stats => sharedOptions ++ [outputOption]
  | filter => sharedOptions ++ [outputOption, { key := .start, kind := .text, long := "start" },
      { key := .stop, kind := .text, long := "end" },
      { key := .taskName, kind := .text, long := "task-name" }]

end Action

/-- Why there is nothing to run. -/
inductive Stop where
  /-- The arguments are wrong. -/
  | usage
  | help
  | version
deriving DecidableEq, Repr

/-- What is read of the arguments before the command, or of those behind it. -/
structure Level where
  /-- The options and their values; those of flags are empty. -/
  options : List (Key × String) := []
  /-- The arguments that belong to no option. -/
  inputs : List String := []

namespace Level

def get? (l : Level) (key : Key) : Option String := l.options.lookup key

def has (l : Level) (key : Key) : Bool := (l.get? key).isSome

def numberLimit : Nat := UInt64.size - 1

def accepts (kind : Kind) (value : String) : Bool :=
  match kind with
  | .flag => true
  | .path => value ≠ ""
  | .number => (Decimal.natural? numberLimit value.toList).isSome
  | .text => true

/-- Gives a value to an option. Each option stands only once. -/
def set (l : Level) (spec : OptionSpec) (value : String) : Except Stop Level :=
  if spec.key = .help then .error .help
  else if spec.key = .version then .error .version
  else if l.has spec.key ∨ ¬ accepts spec.kind value then .error .usage
  else .ok { l with options := l.options ++ [(spec.key, value)] }

def addInput (l : Level) (value : String) : Except Stop Level :=
  if l.inputs ≠ [] ∨ ¬ accepts .path value then .error .usage
  else .ok { l with inputs := l.inputs ++ [value] }

end Level

/-- An argument that is an option rather than a value. A minus alone is a value. -/
def isOption (argument : String) : Bool := argument.startsWith "-" && argument ≠ "-"

/-- Reads the letters of short options, of which one that takes a value uses the rest. Also gives
the option whose value is the next argument. -/
def shortOptions (specs : List OptionSpec) (l : Level) :
    List Char → Except Stop (Level × Option OptionSpec)
  | [] => .ok (l, none)
  | c :: rest =>
    match specs.find? (·.short = some c) with
    | none => .error .usage
    | some spec =>
      if spec.kind = .flag then do shortOptions specs (← l.set spec "") rest
      else
        match rest with
        | [] => .ok (l, some spec)
        | '=' :: value => do return (← l.set spec (String.ofList value), none)
        | value => do return (← l.set spec (String.ofList value), none)

/-- Reads a long option, possibly with its value behind an equals sign. -/
def longOption (specs : List OptionSpec) (l : Level) (body : List Char) :
    Except Stop (Level × Option OptionSpec) :=
  let name := String.ofList (body.takeWhile (· ≠ '='))
  match specs.find? (·.long = name), body.dropWhile (· ≠ '=') with
  | none, _ => .error .usage
  | some spec, [] => do
    if spec.kind = .flag then return (← l.set spec "", none) else return (l, some spec)
  | some spec, _ :: value => do
    if spec.kind = .flag then throw .usage
    return (← l.set spec (String.ofList value), none)

def onlyInputs (l : Level) (arguments : List String) : Except Stop Level :=
  arguments.foldlM Level.addInput l

/-- Reads the options and inputs of a command. `pending` is an option whose value comes next. -/
def commandLevel (specs : List OptionSpec) (l : Level) (pending : Option OptionSpec) :
    List String → Except Stop Level
  | [] => if pending.isSome then .error .usage else .ok l
  | argument :: rest =>
    match pending with
    | some spec =>
      if isOption argument then .error .usage
      else do commandLevel specs (← l.set spec argument) none rest
    | none =>
      match argument.toList with
      | ['-', '-'] => onlyInputs l rest
      | '-' :: '-' :: body => do
        let (l, pending) ← longOption specs l body
        commandLevel specs l pending rest
      | '-' :: c :: cs => do
        let (l, pending) ← shortOptions specs l (c :: cs)
        commandLevel specs l pending rest
      | _ => do commandLevel specs (← l.addInput argument) none rest

/-- A request for help, possibly on one command. -/
def helpRequest (topics : List String) : Stop :=
  match topics with
  | [] => .help
  | [topic] => if topic = "help" ∨ (Action.ofName? topic).isSome then .help else .usage
  | _ => .usage

/-- Reads the options before the command. Also gives the command and the arguments behind it. -/
def programLevel (l : Level) (pending : Option OptionSpec) :
    List String → Except Stop (Level × Action × List String)
  | [] => .error .usage
  | argument :: rest =>
    match pending with
    | some spec =>
      if isOption argument then .error .usage
      else do programLevel (← l.set spec argument) none rest
    | none =>
      match argument.toList with
      | ['-', '-'] => .error .usage
      | '-' :: '-' :: body => do
        let (l, pending) ← longOption programOptions l body
        programLevel l pending rest
      | '-' :: c :: cs => do
        let (l, pending) ← shortOptions programOptions l (c :: cs)
        programLevel l pending rest
      | _ =>
        if argument = "help" then .error (helpRequest rest)
        else
          match Action.ofName? argument with
          | some action => .ok (l, action, rest)
          | none => .error .usage

inductive Command where
  | chart (topN : Option Nat)
  | stats
  | filter (start stop taskName : Option String)

structure Invocation where
  config : Option String
  verbose : Bool
  input : String
  output : Option String
  command : Command

/-- The path of the settings at one level: the option's value, or else the value of the
environment, which is not empty. -/
def configOf (environment : Option String) (l : Level) : Except Stop (Option String) :=
  match l.get? .config, environment with
  | some path, _ => .ok (some path)
  | none, some path => if path = "" then .error .usage else .ok (some path)
  | none, none => .ok none

/-- Reads the arguments of a run. `environment` is the path of the settings in the environment. A
path among the arguments goes before it, and one behind the command goes first. -/
def Invocation.parse (environment : Option String) (arguments : List String) :
    Except Stop Invocation := do
  let (outer, action, rest) ← programLevel {} none arguments
  let inner ← commandLevel action.options {} none rest
  let some input := inner.inputs.head? | throw .usage
  let innerConfig ← configOf environment inner
  let outerConfig ← configOf environment outer
  let topN := (inner.get? .topN).bind fun text => Decimal.natural? Level.numberLimit text.toList
  return {
    config := if inner.has .config then innerConfig else outerConfig
    verbose := outer.has .verbose || inner.has .verbose
    input
    output := inner.get? .output
    command := match action with
      | .chart => .chart topN
      | .stats => .stats
      | .filter => .filter (inner.get? .start) (inner.get? .stop) (inner.get? .taskName) }

end UsageReport.CommandLine
