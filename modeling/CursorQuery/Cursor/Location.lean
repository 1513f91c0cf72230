import CursorQuery.Text.Path

/-!
This module contains places in source files.
-/

namespace CursorQuery

/-- A byte range of a source text, its end exclusive. -/
structure Span where
  start : Nat
  stop : Nat
  deriving Repr, DecidableEq, Inhabited

/-- A place in a file. Lines and columns count from one, columns and offsets count bytes. -/
structure Location where
  file : String
  line : Nat
  column : Nat
  offset : Nat
  deriving Repr, DecidableEq, Inhabited

namespace Location

def fileName? (location : Location) : Option String :=
  Path.fileName? location.file

def display (location : Location) : String :=
  location.file ++ ":" ++ Nat.repr location.line ++ ":" ++ Nat.repr location.column

end Location
end CursorQuery
