/-!
This module contains documents: the structured values that query files and parse trees are stored as.
-/

namespace CursorQuery

inductive Document where
  | null
  | bool (value : Bool)
  | number (text : String)
  | string (text : String)
  | list (items : List Document)
  | table (entries : List (String × Document))

/-- The notation that a document is written in. The two differ in what they take for a constant that
is written as a table, and in whether a record that is written as a list may be too long. -/
inductive Format where
  | json
  | toml
  deriving Repr, DecidableEq

namespace Document

def text? : Document → Option String
  | string text => some text
  | _ => none

def bool? : Document → Option Bool
  | bool value => some value
  | _ => none

def texts? : Document → Option (List String)
  | list items => items.mapM text?
  | _ => none

def get? (entries : List (String × Document)) (key : String) : Option Document :=
  entries.lookup key

def constant? (format : Format) : Document → Option String
  | string text => some text
  | table [(name, value)] =>
    match format, value with
    | .json, null => some name
    | .toml, table [] => some name
    | .toml, list [] => some name
    | _, _ => none
  | _ => none

def nat? : Document → Option Nat
  | number text =>
    if !text.isEmpty && text.toList.all Char.isDigit then
      some (text.toList.foldl (fun n c => 10 * n + (c.toNat - '0'.toNat)) 0)
    else none
  | _ => none

end Document
end CursorQuery
