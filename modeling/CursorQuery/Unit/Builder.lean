import CursorQuery.Text.Split
import CursorQuery.Unit.Cursor

/-!
This module contains the state in which a translation unit is built: the cursors made so far, their
child lists and a table of the names that can be looked up. Cursors are only ever added at the end.
-/

namespace CursorQuery

structure Builder where
  cursors : Array Cursor
  childLists : Array (List Nat)
  names : List (String × Nat)
  deriving Repr, DecidableEq

structure Scope where
  lexical : Nat
  semantic : Nat
  inRecord : Bool
  deriving Repr, DecidableEq

namespace Scope

def inside (id : Nat) : Scope where
  lexical := id
  semantic := id
  inRecord := false

def membersOf (id : Nat) : Scope where
  lexical := id
  semantic := id
  inRecord := true

def memberAccess (scope : Scope) (level : Access) : Access :=
  if scope.inRecord then level else .noAccess

end Scope

def qualifiedIn (outer name : String) : String :=
  if outer.isEmpty then name else outer ++ "::" ++ name

/--
The prefixes that are left when a reversed prefix loses its last part again and again, down to the
empty one.
-/
def outerPrefixes : List Char → List (List Char)
  | [] => [[]]
  | ':' :: ':' :: rest => rest :: outerPrefixes rest
  | _ :: rest => outerPrefixes rest

def enclosingPrefixes (inner : String) : List String :=
  inner :: (outerPrefixes inner.toList.reverse).map fun cs => String.ofList cs.reverse

namespace Builder

def nextId (b : Builder) : Nat :=
  b.cursors.size

def cursor (b : Builder) (id : Nat) : Cursor :=
  b.cursors[id]?.getD default

def childrenOf (b : Builder) (id : Nat) : List Nat :=
  b.childLists[id]?.getD []

def push (b : Builder) (scope : Scope) (cursor : Cursor) : Builder :=
  let placed := { cursor with
    lexicalParent := some scope.lexical
    semanticParent := some (cursor.semanticParent.getD scope.semantic) }
  { b with
    cursors := b.cursors.push placed
    childLists := (b.childLists.modify scope.lexical (· ++ [b.nextId])).push [] }

def isDefined (b : Builder) (name : String) : Bool :=
  match b.names.lookup name with
  | some id => (b.cursor id).isDefinition
  | none => false

/--
Enters a cursor into the table under its qualified name. A definition is not replaced by a mere
declaration, and a cursor without a name is not entered.
-/
def register (b : Builder) (id : Nat) : Builder :=
  let cursor := b.cursor id
  if cursor.spelling.isEmpty || (b.isDefined cursor.qualifiedName && !cursor.isDefinition) then b
  else { b with names := (cursor.qualifiedName, id) :: b.names }

/--
The prefix of the names in a scope: the qualified name of the innermost cursor that counts. Semantic
parents have lower numbers, so the search for it ends.
-/
def scopePrefix (b : Builder) (id : Nat) : String :=
  let cursor := b.cursor id
  match cursor.semanticParent with
  | some parent =>
    if cursor.kind.isTransparent && parent < id then b.scopePrefix parent
    else cursor.qualifiedName
  | none => cursor.qualifiedName
termination_by id
decreasing_by simp_all

def qualify (b : Builder) (scope : Nat) (name : String) : String :=
  qualifiedIn (b.scopePrefix scope) name

/-- Looks a name up from a scope outwards. A leading `::` asks for the global scope only. -/
def resolve (b : Builder) (name : String) (scope : Nat) : Option Nat :=
  if "::".toList.isPrefixOf name.toList then
    b.names.lookup (String.ofList (name.toList.drop 2))
  else
    (enclosingPrefixes (b.scopePrefix scope)).findSome? fun outer =>
      b.names.lookup (qualifiedIn outer name)

/-- The scope that a declaration with written scopes belongs to: the one that they name, or the
current one if they name nothing. -/
def resolveScope (b : Builder) (scopes : List String) (scope : Scope) : Nat :=
  if scopes.isEmpty then scope.semantic
  else (b.resolve (Text.joinScoped scopes) scope.semantic).getD scope.semantic

def declares (b : Builder) (spelling : String) (id : Nat) : Bool :=
  let cursor := b.cursor id
  cursor.spelling == spelling && cursor.kind != .accessSpecifier

/-- The access level of the member of a record with the given spelling, as its first declaration has
it. -/
def declaredAccess (b : Builder) (owner : Nat) (spelling : String) : Access :=
  match (b.childrenOf owner).find? (b.declares spelling) with
  | some id => (b.cursor id).access
  | none => .noAccess

end Builder
end CursorQuery
