import CursorQuery.Document.Basic
import CursorQuery.Source.ParseTree

/-!
This module contains how parse trees are stored: as the list of their nodes in pre-order. Every node is
a list of its depth, its name, its flags, the name of the part that it plays, and its byte range.
-/

namespace CursorQuery
namespace ParseTree

def nodeOfDocument? (document : Document) : Option (Nat × NodeInfo) := do
  let .list [depth, label, flags, field, start, stop] := document | none
  let flags ← flags.nat?
  return (← depth.nat?, {
    label := ← label.text?
    isNamed := flags % 2 == 1
    isMissing := flags / 2 % 2 == 1
    hasError := flags / 4 % 2 == 1
    field := Field.ofLabel? (← field.text?)
    span := { start := ← start.nat?, stop := ← stop.nat? }
  })

def ofDocument? (document : Document) : Option ParseTree := do
  let .list nodes := document | none
  ofPreorder? (← nodes.mapM nodeOfDocument?)

def empty : ParseTree :=
  node { label := "translation_unit", span := { start := 0, stop := 0 } } []

end ParseTree
end CursorQuery
