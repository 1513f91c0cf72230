import CursorQuery.Query.Document
import CursorQuery.Query.Issue
import CursorQuery.Unit.Options

/-!
This module contains query files: a query with a name, a description, and the options with which
sources are read for it.
-/

namespace CursorQuery

structure QueryFile where
  name : String := ""
  description : Option String := none
  options : Options := {}
  query : Query

namespace QueryFile

def optional {α : Type} (read : Document → Option α) (value? : Option Document) :
    Option (Option α) :=
  match value? with
  | none => some none
  | some value => (read value).map some

def fields? (first second : String) (record? : Option Document) :
    Option (Option Document × Option Document) :=
  match record? with
  | none => some (none, none)
  | some (.table entries) => some (Document.get? entries first, Document.get? entries second)
  | some (.list items) => some (items[0]?, items[1]?)
  | some _ => none

def ofDocument? (format : Format) (document : Document) : Option QueryFile := do
  let .table entries := document | none
  let (name?, description?) ← fields? "name" "description" (Document.get? entries "meta")
  let name ← optional Document.text? name?
  let description ← optional Document.text? description?
  let (detailed?, skipBodies?) ←
    fields? "detailed_preprocessing_record" "skip_function_bodies" (Document.get? entries "parse")
  let detailed ← optional Document.bool? detailed?
  let skipBodies ← optional Document.bool? skipBodies?
  let query ← Document.query? format (← Document.get? entries "query")
  return {
    name := name.getD ""
    description
    options := { detailed := detailed.getD false, skipBodies := skipBodies.getD false }
    query
  }

end QueryFile

inductive LoadError where
  | malformed
  | invalid (issues : List Issue)
  deriving Repr, DecidableEq

namespace LoadError

def origin (path? : Option String) : String :=
  match path? with
  | some path => " (" ++ path ++ ")"
  | none => ""

def message (path? : Option String) : LoadError → String
  | malformed => "failed to parse query TOML" ++ origin path?
  | invalid issues => "invalid query" ++ origin path? ++ ": " ++ Issue.messages issues

end LoadError

namespace QueryFile

variable [Pattern.Engine]

def load (document? : Option Document) : Except LoadError QueryFile :=
  match document?.bind (ofDocument? .toml) with
  | none => .error .malformed
  | some file =>
    match Query.issues file.query with
    | [] => .ok file
    | issues => .error (.invalid issues)

end QueryFile
end CursorQuery
