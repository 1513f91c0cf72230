import CursorQuery.Source.ParseTree

/-!
This module contains diagnostics: the places where a source text does not follow the grammar.
-/

namespace CursorQuery

structure Diagnostic where
  location : Location
  span : Span
  message : String
  deriving Repr, DecidableEq

namespace Diagnostic

def display (diagnostic : Diagnostic) : String :=
  diagnostic.location.display ++ ": " ++ diagnostic.message

end Diagnostic

namespace NodeInfo

def isError (info : NodeInfo) : Bool :=
  info.label == "ERROR"

def diagnostic? (source : Source) (info : NodeInfo) : Option Diagnostic :=
  if info.isError || info.isMissing then
    some {
      location := source.location info.span.start
      span := info.span
      message := if info.isMissing then "missing " ++ info.label else "syntax error"
    }
  else none

end NodeInfo

namespace ParseTree

mutual

/-- The diagnostics of a tree in pre-order. Only nodes that are marked are searched further. -/
def diagnostics (source : Source) : ParseTree → List Diagnostic
  | node info children =>
    (info.diagnostic? source).toList
      ++ (if info.hasError then forestDiagnostics source children else [])

def forestDiagnostics (source : Source) : List ParseTree → List Diagnostic
  | [] => []
  | tree :: trees => diagnostics source tree ++ forestDiagnostics source trees

end

end ParseTree
end CursorQuery
