import CursorQuery.Text.Split

/-!
This module contains the error for a name that none of a vocabulary's members has.
-/

namespace CursorQuery

structure UnknownName where
  vocabulary : String
  name : String
  deriving Repr, DecidableEq

namespace UnknownName

def message (error : UnknownName) : String :=
  "unknown " ++ error.vocabulary ++ " '" ++ error.name ++ "'"

end UnknownName
end CursorQuery
