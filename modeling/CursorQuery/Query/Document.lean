import CursorQuery.Document.Basic
import CursorQuery.Query.Basic

/-!
This module contains how queries are read from documents and written to them.

A query is a table with a single key, the name of its constructor; an ancestor query holds a table
with the keys `step` and `matches`.
-/

namespace CursorQuery
namespace Document

def leaf? (format : Format) (key : String) (value : Document) : Option (Leaf String) :=
  match key with
  | "is" => do return .isA (← Category.ofName? (← value.constant? format))
  | "kind" => do return .kind (← CursorKind.ofName? (← value.constant? format))
  | "access" => do return .access (← Access.ofName? (← value.constant? format))
  | "name" => do return .name (← value.text?)
  | "typename" => do return .typename (← value.text?)
  | "in_file" => do return .inFile (← value.texts?)
  | _ => none

def step? (format : Format) (entries : List (String × Document)) : Option Step :=
  match get? entries "step" with
  | none => some .semanticParent
  | some value => (value.constant? format).bind Step.ofName?

/-- Whether a record of two fields may be written as a list with `extra` entries more. -/
def allowsExtra (format : Format) (extra : List Document) : Bool :=
  format == .toml || extra.isEmpty

mutual

def query? (format : Format) : Document → Option Query
  | table [(key, value)] =>
    match key with
    | "all" => (queries? format value).map .all
    | "any" => (queries? format value).map .any
    | "not" => (query? format value).map .not
    | "any_child" => (query? format value).map .anyChild
    | "all_children" => (query? format value).map .allChildren
    | "any_predecessor" => (ancestorPart? format value).map fun (step, part) => .anyPredecessor step part
    | "all_predecessors" =>
      (ancestorPart? format value).map fun (step, part) => .allPredecessors step part
    | _ => (leaf? format key value).map .leaf
  | _ => none

def queries? (format : Format) : Document → Option (List Query)
  | list items => queryList? format items
  | _ => none

def queryList? (format : Format) : List Document → Option (List Query)
  | [] => some []
  | item :: items =>
    match query? format item with
    | none => none
    | some query => (queryList? format items).map (query :: ·)

def ancestorPart? (format : Format) : Document → Option (Step × Query)
  | table entries =>
    match step? format entries, matches? format entries with
    | some step, some query => some (step, query)
    | _, _ => none
  | list (step :: part :: extra) =>
    match (step.constant? format).bind Step.ofName?, query? format part with
    | some step, some query => if allowsExtra format extra then some (step, query) else none
    | _, _ => none
  | _ => none

def matches? (format : Format) : List (String × Document) → Option Query
  | [] => none
  | (key, value) :: entries =>
    if key == "matches" then query? format value else matches? format entries

end

def single (key : String) (value : Document) : Document :=
  table [(key, value)]

def ofLeaf : Leaf String → Document
  | .isA family => single "is" (string family.name)
  | .kind kind => single "kind" (string kind.name)
  | .access level => single "access" (string level.name)
  | .name pattern => single "name" (string pattern)
  | .typename spelling => single "typename" (string spelling)
  | .inFile files => single "in_file" (list (files.map string))

def ofAncestry (step : Step) (part : Document) : Document :=
  table [("step", string step.name), ("matches", part)]

mutual

def ofQuery : Formula Step (Leaf String) → Document
  | .leaf leaf => ofLeaf leaf
  | .all parts => single "all" (list (ofQueries parts))
  | .any parts => single "any" (list (ofQueries parts))
  | .not part => single "not" (ofQuery part)
  | .anyChild part => single "any_child" (ofQuery part)
  | .allChildren part => single "all_children" (ofQuery part)
  | .anyPredecessor step part => single "any_predecessor" (ofAncestry step (ofQuery part))
  | .allPredecessors step part => single "all_predecessors" (ofAncestry step (ofQuery part))

def ofQueries : List (Formula Step (Leaf String)) → List Document
  | [] => []
  | part :: parts => ofQuery part :: ofQueries parts

end

end Document
end CursorQuery
