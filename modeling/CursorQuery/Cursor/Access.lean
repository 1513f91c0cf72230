import CursorQuery.Cursor.Name

/-!
This module contains the access levels of declarations.
-/

namespace CursorQuery

inductive Access where
  | noAccess
  | publicAccess
  | protectedAccess
  | privateAccess
  deriving Repr, DecidableEq, Inhabited

namespace Access

def all : List Access :=
  [noAccess, publicAccess, protectedAccess, privateAccess]

def name : Access → String
  | noAccess => "none"
  | publicAccess => "public"
  | protectedAccess => "protected"
  | privateAccess => "private"

def ofName? (s : String) : Option Access :=
  all.find? fun level => level.name == s

/--
The level that a label stands for. White space and any number of colons at its end are ignored.
-/
def ofLabel? (s : String) : Option Access :=
  let bare := (Text.trimChars s.toList).reverse.dropWhile (· == ':')
  ofName? (String.ofList (Text.trimChars bare.reverse))

def parse (s : String) : Except UnknownName Access :=
  match ofLabel? s with
  | some level => .ok level
  | none => .error ⟨"access specifier", s⟩

end Access
end CursorQuery
