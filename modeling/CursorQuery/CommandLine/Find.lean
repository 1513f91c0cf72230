import CursorQuery.CommandLine.Arguments
import CursorQuery.CommandLine.FileSystem
import CursorQuery.CommandLine.Session
import CursorQuery.Query.File
import CursorQuery.Text.JsonText

/-!
This module contains the search command: the query that its arguments and its query file ask for, the
search itself, and the lines that report what was found.
-/

namespace CursorQuery

inductive BuildError where
  | noQuery
  | invalid (issues : List Issue)
  deriving Repr, DecidableEq

namespace BuildError

def message : BuildError → String
  | noQuery => "No query given.\nPass --query FILE or at least one filter such as --is class"
  | invalid issues => Issue.messages issues

end BuildError

namespace FindArgs

variable [Pattern.Engine]

def filters (args : FindArgs) : List Query :=
  args.categories.map (fun family => .leaf (.isA family))
    ++ (args.kind.map fun kind => .leaf (.kind kind)).toList
    ++ (args.name.map fun pattern => .leaf (.name pattern)).toList
    ++ (args.typename.map fun spelling => .leaf (.typename spelling)).toList
    ++ (args.access.map fun level => .leaf (.access level)).toList
    ++ (args.within.map fun pattern => .anyPredecessor .semanticParent (.leaf (.name pattern))).toList

def combine (args : FindArgs) (file? : Option QueryFile) : Except BuildError QueryFile :=
  let filters := args.filters
  let query? : Option Query :=
    match file?, filters with
    | none, [] => none
    | some file, [] => some file.query
    | none, filters => some (.all filters)
    | some file, filters => some (.all (file.query :: filters))
  match query? with
  | none => .error .noQuery
  | some query =>
    match Query.issues query with
    | [] =>
      let base := file?.getD { query }
      let detailed := base.options.detailed || args.detailed
      .ok { base with query, options := { base.options with detailed } }
    | issues => .error (.invalid issues)

end FindArgs

namespace CommandLine

variable [Pattern.Engine]

def progress (text : String) : Event where
  level := .info
  target := "glud"
  text := text

def loading (text : String) : Event where
  level := .debug
  target := "glud::config::loader"
  text := text

def lowering (text : String) : Event where
  level := .debug
  target := "glud::cpp::lower"
  text := text

def loadQuery (fs : FileSystem) (path : String) : Session QueryFile := do
  let (_, contents) ←
    Session.ofExcept (fun reason => "failed to read query file " ++ path ++ ": " ++ reason.message)
      (fs.read path)
  Session.note [loading ("reading query file path=" ++ path)]
  let file ← Session.ofExcept (LoadError.message (some path)) (QueryFile.load contents.document?)
  Session.note [loading ("loaded query name=" ++ file.name)]
  return file

def buildQuery (fs : FileSystem) (args : FindArgs) : Session QueryFile :=
  match args.queryFile with
  | none => Session.ofExcept BuildError.message (args.combine none)
  | some path => do
    let file ← loadQuery fs path
    Session.ofExcept BuildError.message (args.combine (some file))

def unitEvents (unit : TranslationUnit) : List Event :=
  unit.diagnostics.map (fun diagnostic =>
    lowering ("syntax error in source location=" ++ diagnostic.location.display ++ " "
      ++ diagnostic.message))
  ++ [lowering ("lowered translation unit file=" ++ unit.source.path ++ " cursors="
      ++ Nat.repr unit.size ++ " errors=" ++ Nat.repr unit.diagnostics.length)]

def parseFile (fs : FileSystem) (options : Options) (path : String) : Session TranslationUnit := do
  let (text, contents) ←
    Session.ofExcept (fun reason => (FrontendError.unreadable path reason).message) (fs.read path)
  let unit := TranslationUnit.ofParseTree { path, text } contents.tree options
  Session.note (unitEvents unit)
  return unit

def parseFiles (fs : FileSystem) (options : Options) : List String → Session (List TranslationUnit)
  | [] => return []
  | path :: paths => do
    let unit ← parseFile fs options path
    return unit :: (← parseFiles fs options paths)

def matchesIn (query : CompiledQuery) (unit : TranslationUnit) : List Cursor :=
  match unit.node? Cursor.root with
  | none => []
  | some root => (unit.model.search (query.holds unit.model) root).map unit.cursor

def position (unit : TranslationUnit) (cursor : Cursor) : String :=
  match cursor.location with
  | some location => location.display
  | none => unit.source.path

/-- A match as `file:line:column KIND name [type]`. -/
def plainLine (unit : TranslationUnit) (cursor : Cursor) : String :=
  let name := if cursor.displayName.isEmpty then cursor.spelling else cursor.displayName
  let type :=
    match cursor.type with
    | some type => " [" ++ type.spelling ++ "]"
    | none => ""
  position unit cursor ++ " " ++ cursor.kind.display ++ " " ++ name ++ type

def jsonLine (unit : TranslationUnit) (cursor : Cursor) : String :=
  let type := (cursor.type.map fun type => ("type", JsonText.string type.spelling)).toList
  JsonText.object
    ([("file", JsonText.string ((cursor.location.map (·.file)).getD unit.source.path)),
      ("line", JsonText.nat? (cursor.location.map (·.line))),
      ("column", JsonText.nat? (cursor.location.map (·.column))),
      ("kind", JsonText.string cursor.kind.name),
      ("spelling", JsonText.string cursor.spelling),
      ("displayname", JsonText.string cursor.displayName),
      ("qualified_name", JsonText.string cursor.qualifiedName)]
    ++ type
    ++ [("access", JsonText.string cursor.access.name),
      ("is_definition", JsonText.bool cursor.isDefinition)])

def unitLines (json : Bool) (query : CompiledQuery) (unit : TranslationUnit) : List String :=
  (matchesIn query unit).map (if json then jsonLine unit else plainLine unit)

def searchEvents (units : List TranslationUnit) (count : Nat) : List Event :=
  units.flatMap (fun unit =>
    unit.diagnostics.map fun diagnostic =>
      progress ("syntax error diagnostic=" ++ diagnostic.display))
  ++ [progress ("search finished files=" ++ Nat.repr units.length ++ " matches=" ++ Nat.repr count)]

def find (fs : FileSystem) (args : FindArgs) : Session (List String) := do
  let file ← buildQuery fs args
  let paths ← Session.ofExcept (fun path => path ++ " does not exist") (fs.collect args.paths)
  let units ← parseFiles fs file.options paths
  let query ←
    Session.ofExcept (fun error => error.summary ++ ": regex parse error:") (Query.compile file.query)
  let lines := units.flatMap (unitLines args.json query)
  Session.note (searchEvents units lines.length)
  return lines

end CommandLine
end CursorQuery
