import CursorQuery.CommandLine.Find

/-!
This module contains the program: what it prints, logs and exits with for given arguments and files.
-/

namespace CursorQuery

structure Outcome where
  code : Nat
  stdout : String := ""
  stderr : String := ""
  log : List Event := []

namespace Outcome

def logLines (verbosity : Nat) (log : List Event) : List Event :=
  log.filter (Event.isShown verbosity)

end Outcome

namespace CommandLine

variable [Pattern.Engine]

def unlines (lines : List String) : String :=
  String.join (lines.map fun line => line ++ "\n")

def failed (message : String) (log : List Event) : Outcome where
  code := 1
  stderr := "Error: " ++ message ++ "\n"
  log := log

/-- The outcome of a search. Without a match it is a failure, which only plain output mentions. -/
def findOutcome (fs : FileSystem) (args : FindArgs) : Outcome :=
  let session := find fs args
  match session.result with
  | .error message => failed message session.log
  | .ok lines =>
    { code := if lines.isEmpty then 1 else 0
      stdout := unlines lines
      stderr := if lines.isEmpty && !args.json then "No matches.\n" else ""
      log := session.log }

def dumpOutcome (fs : FileSystem) (path : String) (detailed : Bool) : Outcome :=
  let session := parseFile fs { detailed } path
  match session.result with
  | .error message => failed message session.log
  | .ok unit =>
    { code := 0
      stdout :=
        match unit.node? Cursor.root with
        | some v => unit.model.dump v
        | none => ""
      stderr := unlines (unit.diagnostics.map fun diagnostic => "warning: " ++ diagnostic.display)
      log := session.log }

def kindsOutcome : Outcome where
  code := 0
  stdout := unlines (["Categories (--is):"] ++ Category.all.map (fun family => "  " ++ family.name)
    ++ ["Cursor kinds (--kind):"] ++ CursorKind.all.map fun kind => "  " ++ kind.name)

def commandOutcome (fs : FileSystem) : Command → Outcome
  | .find args => findOutcome fs args
  | .dump file detailed => dumpOutcome fs file detailed
  | .kinds => kindsOutcome

def run (fs : FileSystem) (arguments : List String) : Outcome :=
  match Arguments.read arguments with
  | .error error => { code := 2, stderr := error.message ++ "\n" }
  | .ok .help => { code := 0, stdout := "Query C++ sources with composable predicates\n" }
  | .ok .version => { code := 0, stdout := "glud 0.1.0\n" }
  | .ok (.run verbosity command) =>
    let outcome := commandOutcome fs command
    { outcome with log := Outcome.logLines verbosity outcome.log }

end CommandLine
end CursorQuery
