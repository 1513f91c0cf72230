import CursorQuery.Cursor.Kind
import CursorQuery.Cursor.Access
import CursorQuery.Cursor.Type
import CursorQuery.Cursor.Location

/-!
This module contains the attributes of a node that predicates can ask for.
-/

namespace CursorQuery

structure Entity where
  kind : CursorKind
  spelling : String
  displayName : String := spelling
  type : Option CType := none
  resultType : Option CType := none
  access : Access := .noAccess
  location : Option Location := none
  isDefinition : Bool := false
  deriving Repr, DecidableEq, Inhabited

namespace Entity

def fileName? (entity : Entity) : Option String :=
  entity.location.bind Location.fileName?

/-- `KIND name`, with the display name for an entity without a spelling, and without blanks at the
end. -/
def label (entity : Entity) : String :=
  let name := if entity.spelling.isEmpty then entity.displayName else entity.spelling
  Text.trimEnd (entity.kind.display ++ " " ++ name)

end Entity
end CursorQuery
