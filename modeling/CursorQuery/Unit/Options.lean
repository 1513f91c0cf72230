/-!
This module contains the options that say which cursors a translation unit gets.
-/

namespace CursorQuery

structure Options where
  detailed : Bool := false
  skipBodies : Bool := false
  deriving Repr, DecidableEq, Inhabited

end CursorQuery
