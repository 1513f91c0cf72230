import CursorQuery.Query.Leaf

/-!
This module contains the arguments of the program: the commands, their options, and what can be wrong
with the way they are written.

An option that takes a value is complete only when the next argument is known, so it waits for it.
Whether its value makes sense is checked when the next known option comes or at the end; an unknown
option is reported first.
-/

namespace CursorQuery

inductive UsageError where
  | noArguments
  | noCommand
  | unknownCommand (argument : String)
  | unknownArgument (argument : String)
  | missingArgument
  | missingValue (option : String)
  | unwantedValue (option value : String)
  | repeatedOption (option : String)
  | invalidValue (option value : String) (reason : UnknownName)
  deriving Repr, DecidableEq

namespace UsageError

def message : UsageError → String
  | noArguments => "Query C++ sources with composable predicates"
  | noCommand => "error: 'glud' requires a subcommand but one was not provided"
  | unknownCommand argument => "error: unrecognized subcommand '" ++ argument ++ "'"
  | unknownArgument argument => "error: unexpected argument '" ++ argument ++ "' found"
  | missingArgument => "error: the following required arguments were not provided:"
  | missingValue option =>
    "error: a value is required for '" ++ option ++ "' but none was supplied"
  | unwantedValue option value =>
    "error: unexpected value '" ++ value ++ "' for '" ++ option ++ "' found; no more were expected"
  | repeatedOption option =>
    "error: the argument '" ++ option ++ "' cannot be used multiple times"
  | invalidValue option value reason =>
    "error: invalid value '" ++ value ++ "' for '" ++ option ++ "': " ++ reason.message

end UsageError

structure FindArgs where
  paths : List String := []
  queryFile : Option String := none
  categories : List Category := []
  kind : Option CursorKind := none
  name : Option String := none
  typename : Option String := none
  access : Option Access := none
  within : Option String := none
  detailed : Bool := false
  json : Bool := false
  deriving Repr, DecidableEq

inductive Command where
  | find (args : FindArgs)
  | dump (file : String) (detailed : Bool)
  | kinds
  deriving Repr, DecidableEq

inductive Invocation where
  | help
  | version
  | run (verbosity : Nat) (command : Command)
  deriving Repr, DecidableEq

namespace Arguments

inductive Opt where
  | verbose
  | help
  | version
  | query
  | category
  | kind
  | name
  | typename
  | access
  | within
  | detailed
  | json
  deriving Repr, DecidableEq

namespace Opt

def long : Opt → String
  | verbose => "verbose"
  | help => "help"
  | version => "version"
  | query => "query"
  | category => "is"
  | kind => "kind"
  | name => "name"
  | typename => "typename"
  | access => "access"
  | within => "within"
  | detailed => "detailed"
  | json => "json"

def short? : Opt → Option Char
  | verbose => some 'v'
  | help => some 'h'
  | version => some 'V'
  | query => some 'q'
  | _ => none

def valueName? : Opt → Option String
  | query => some "QUERY"
  | category => some "CATEGORY"
  | kind => some "KIND"
  | name => some "REGEX"
  | typename => some "TYPE"
  | access => some "ACCESS"
  | within => some "NAME"
  | _ => none

def display (opt : Opt) : String :=
  match opt, opt.valueName? with
  | _, some value => "--" ++ opt.long ++ " <" ++ value ++ ">"
  | verbose, none => "--verbose..."
  | _, none => "--" ++ opt.long

def repeats : Opt → Bool
  | verbose | category => true
  | _ => false

end Opt

structure Spec where
  options : List Opt
  positional? : Option String
  many : Bool

def topSpec : Spec where
  options := [.verbose, .help, .version]
  positional? := none
  many := false

def findSpec : Spec where
  options := [.verbose, .help, .query, .category, .kind, .name, .typename, .access, .within,
    .detailed, .json]
  positional? := some "<PATHS>..."
  many := true

def dumpSpec : Spec where
  options := [.verbose, .help, .detailed]
  positional? := some "<FILE>"
  many := false

def kindsSpec : Spec where
  options := [.verbose, .help]
  positional? := none
  many := false

inductive Pending where
  | nothing
  | option (opt : Opt) (value? : Option String)
  | positional (values : List String)

structure State where
  args : FindArgs := {}
  verbosity : Nat := 0
  used : List Opt := []
  pending : Pending := .nothing
  onlyPositional : Bool := false
  help : Bool := false
  version : Bool := false

namespace State

def setValue (state : State) (opt : Opt) (value : String) : Except UsageError State :=
  let invalid (reason : UnknownName) : UsageError := .invalidValue opt.display value reason
  let args := state.args
  match opt with
  | .query =>
    if value.isEmpty then .error (.missingValue opt.display)
    else .ok { state with args := { args with queryFile := some value } }
  | .category =>
    match Category.parse value with
    | .ok family => .ok { state with args := { args with categories := args.categories ++ [family] } }
    | .error reason => .error (invalid reason)
  | .kind =>
    match CursorKind.parse value with
    | .ok kind => .ok { state with args := { args with kind := some kind } }
    | .error reason => .error (invalid reason)
  | .access =>
    match Access.parse value with
    | .ok level => .ok { state with args := { args with access := some level } }
    | .error reason => .error (invalid reason)
  | .name => .ok { state with args := { args with name := some value } }
  | .typename => .ok { state with args := { args with typename := some value } }
  | .within => .ok { state with args := { args with within := some value } }
  | _ => .ok state

def use (state : State) (opt : Opt) : Except UsageError State :=
  if opt.repeats then .ok state
  else if state.used.contains opt then .error (.repeatedOption opt.display)
  else .ok { state with used := opt :: state.used }

def takeOption (state : State) (opt : Opt) (value? : Option String) : Except UsageError State :=
  match value? with
  | none => .error (.missingValue opt.display)
  | some value => do (← state.use opt).setValue opt value

def takeFlag (state : State) (opt : Opt) : Except UsageError State :=
  match opt with
  | .verbose => .ok { state with verbosity := state.verbosity + 1 }
  | .help => .ok { state with help := true }
  | .version => .ok { state with version := true }
  | .detailed => do
    let state ← state.use opt
    return { state with args := { state.args with detailed := true } }
  | .json => do
    let state ← state.use opt
    return { state with args := { state.args with json := true } }
  | _ => .ok state

def settle (spec : Spec) (state : State) : Except UsageError State :=
  let settled := { state with pending := .nothing }
  match state.pending with
  | .nothing => .ok settled
  | .option opt value? => settled.takeOption opt value?
  | .positional values =>
    if values.any (·.isEmpty) then .error (.missingValue (spec.positional?.getD ""))
    else .ok { settled with args := { state.args with paths := state.args.paths ++ values } }

def isAnswered (state : State) : Bool :=
  state.help || state.version

end State

def readOption (spec : Spec) (state : State) (opt : Opt) (value? : Option String) :
    Except UsageError State := do
  let state ← state.settle spec
  match opt.valueName?, value? with
  | some _, some value => state.takeOption opt (some value)
  | some _, none => return { state with pending := .option opt none }
  | none, some value => throw (.unwantedValue opt.display value)
  | none, none => state.takeFlag opt

def readLong (spec : Spec) (state : State) (chars : List Char) : Except UsageError State :=
  let name := String.ofList (chars.takeWhile (· != '='))
  let value? := (chars.dropWhile (· != '=')).tail?.map String.ofList
  match spec.options.find? fun opt => opt.long == name with
  | some opt => readOption spec state opt value?
  | none => .error (.unknownArgument ("--" ++ name))

def readShort (spec : Spec) (state : State) : List Char → Except UsageError State
  | [] => .ok state
  | letter :: rest =>
    match spec.options.find? fun opt => opt.short? == some letter with
    | none => .error (.unknownArgument (String.ofList ['-', letter]))
    | some opt =>
      if opt.valueName?.isSome then
        let value :=
          match rest with
          | '=' :: value => value
          | _ => rest
        readOption spec state opt (if rest.isEmpty then none else some (String.ofList value))
      else
        match readOption spec state opt none with
        | .error e => .error e
        | .ok state => if state.isAnswered then .ok state else readShort spec state rest

def readPlain (spec : Spec) (state : State) (argument : String) : Except UsageError State :=
  match state.pending, state.onlyPositional with
  | .option opt none, false => .ok { state with pending := .option opt (some argument) }
  | _, _ =>
    match spec.positional?, state.pending with
    | none, _ => .error (.unknownArgument argument)
    | some _, .positional values =>
      if spec.many then .ok { state with pending := .positional (values ++ [argument]) }
      else .error (.unknownArgument argument)
    | some _, _ =>
      if spec.many || state.args.paths.isEmpty then
        (state.settle spec).map fun state => { state with pending := .positional [argument] }
      else .error (.unknownArgument argument)

def readAll (spec : Spec) (state : State) : List String → Except UsageError State
  | [] => state.settle spec
  | argument :: rest =>
    let read : Except UsageError State :=
      match argument.toList, state.onlyPositional with
      | '-' :: '-' :: [], false => .ok { state with onlyPositional := true }
      | '-' :: '-' :: chars, false => readLong spec state chars
      | '-' :: letter :: letters, false => readShort spec state (letter :: letters)
      | _, _ => readPlain spec state argument
    match read with
    | .error e => .error e
    | .ok state => if state.isAnswered then .ok state else readAll spec state rest

def command? (name : String) : Option (Spec × (FindArgs → Except UsageError Command)) :=
  match name with
  | "find" =>
    some (findSpec, fun args =>
      if args.paths.isEmpty then .error .missingArgument else .ok (.find args))
  | "dump" =>
    some (dumpSpec, fun args =>
      match args.paths with
      | [] => .error .missingArgument
      | file :: _ => .ok (.dump file args.detailed))
  | "kinds" => some (kindsSpec, fun _ => .ok .kinds)
  | _ => none

/-- Reads what follows the name of a command. The verbosity asked for there wins over the one before
it. -/
def readCommand (outer : Nat) (spec : Spec) (make : FindArgs → Except UsageError Command)
    (arguments : List String) : Except UsageError Invocation :=
  match readAll spec {} arguments with
  | .error e => .error e
  | .ok state =>
    if state.help then .ok .help
    else
      (make state.args).map fun command =>
        .run (if state.verbosity = 0 then outer else state.verbosity) command

def readTop (state : State) : List String → Except UsageError Invocation
  | [] => .error .noCommand
  | argument :: rest =>
    let continueWith (read : Except UsageError State) : Except UsageError Invocation :=
      match read with
      | .error e => .error e
      | .ok state =>
        if state.help then .ok .help
        else if state.version then .ok .version
        else readTop state rest
    match argument.toList, state.onlyPositional with
    | '-' :: '-' :: [], false => continueWith (.ok { state with onlyPositional := true })
    | '-' :: '-' :: chars, false => continueWith (readLong topSpec state chars)
    | '-' :: letter :: letters, false => continueWith (readShort topSpec state (letter :: letters))
    | _, onlyPositional =>
      match command? argument with
      | some (spec, make) =>
        if onlyPositional then .error (.unknownArgument argument)
        else readCommand state.verbosity spec make rest
      | none => if argument == "help" then .ok .help else .error (.unknownCommand argument)

def read (arguments : List String) : Except UsageError Invocation :=
  if arguments.isEmpty then .error .noArguments else readTop {} arguments

end Arguments
end CursorQuery
