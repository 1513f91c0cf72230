import CursorQuery.Cursor.Entity

/-!
This module contains cursors, the nodes of a translation unit. A cursor is known by its number, and
the cursors of a unit are stored in the order of their numbers.
-/

namespace CursorQuery

structure Cursor extends Entity where
  qualifiedName : String := spelling
  span : Option Span := none
  semanticParent : Option Nat := none
  lexicalParent : Option Nat := none
  deriving Repr, DecidableEq, Inhabited

namespace Cursor

def root : Nat := 0

end Cursor
end CursorQuery
