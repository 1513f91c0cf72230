import CursorQuery.Cursor.Kind
import CursorQuery.Declaration.Name
import CursorQuery.Declaration.Type

/-!
This module contains declarators: the part of a declaration that names one entity and says how its
type is derived from the one that the specifiers write.
-/

namespace CursorQuery

/-- Where something is written: the place that stands for it, and all of its text. -/
structure Site where
  location : Location
  span : Span
  deriving Repr, DecidableEq

inductive ParameterKind where
  | function
  | templateType
  | templateNonType
  | templateTemplate
  deriving Repr, DecidableEq

namespace ParameterKind

def cursorKind : ParameterKind → CursorKind
  | function => .parmDecl
  | templateType => .templateTypeParameter
  | templateNonType => .templateNonTypeParameter
  | templateTemplate => .templateTemplateParameter

end ParameterKind

structure Parameter where
  kind : ParameterKind
  name : String
  type : Option TypeUse
  site : Site
  deriving Repr, DecidableEq

structure FunctionDeclarator where
  name : ScopedName
  location : Location
  parameters : List Parameter
  isVariadic : Bool
  isConst : Bool
  deriving Repr, DecidableEq

inductive Declared where
  | object
  | function (declarator : FunctionDeclarator)
  | functionPointer (parameters : String)
  deriving Repr, DecidableEq

structure Declarator where
  derivations : List CType.Derivation
  name : ScopedName
  location : Location
  declared : Declared
  deriving Repr, DecidableEq

namespace Declaration

open ParseTree

def site (source : Source) (tree : ParseTree) : Site where
  location := source.locationOf tree
  span := tree.span

def derivation? (source : Source) (tree : ParseTree) : Option CType.Derivation :=
  match tree.kind with
  | .pointerDeclarator => some .pointer
  | .referenceDeclarator =>
    let text := (source.textOf tree).toList.dropWhile Character.isBlank
    some (if "&&".toList.isPrefixOf text then .rvalueReference else .lvalueReference)
  | .arrayDeclarator => some (.array ((tree.field? .size).map source.textOf))
  | _ => none

def wrapped? (tree : ParseTree) : Option ParseTree :=
  match tree.kind with
  | .pointerDeclarator | .arrayDeclarator | .initDeclarator => tree.field? .declarator
  | .referenceDeclarator => tree.namedChildren.getLast?
  | .wrappedDeclarator => tree.namedChildren.head?
  | _ => none

theorem size_lt_of_wrapped? {tree inner : ParseTree} (h : wrapped? tree = some inner) :
    inner.size < tree.size := by
  unfold wrapped? at h
  split at h
  · exact size_lt_of_field? h
  · exact size_lt_of_field? h
  · exact size_lt_of_field? h
  · exact size_lt_of_getLast?_namedChildren h
  · exact size_lt_of_head?_namedChildren h
  · simp at h

def core (tree : ParseTree) : ParseTree :=
  match _h : wrapped? tree with
  | some inner => core inner
  | none => tree
termination_by tree.size
decreasing_by exact size_lt_of_wrapped? _h

def derivations (source : Source) (tree : ParseTree) : List CType.Derivation :=
  match _h : wrapped? tree with
  | some inner => (derivation? source tree).toList ++ derivations source inner
  | none => (derivation? source tree).toList
termination_by tree.size
decreasing_by exact size_lt_of_wrapped? _h

def typeUse (source : Source) (declaration type : ParseTree) (declarator? : Option ParseTree) :
    TypeUse where
  base := writtenType source type
  isConst := hasConst source declaration
  derivations := ((declarator?.map (derivations source)).getD [])

def functionParameter? (source : Source) (tree : ParseTree) : Option Parameter :=
  match tree.kind, tree.field? .type with
  | .parameter, some type =>
    let declarator? := tree.field? .declarator
    some {
      kind := .function
      name :=
        match declarator?.map core with
        | some name => if name.kind.isIdentifier then source.textOf name else ""
        | none => ""
      type := some (typeUse source tree type declarator?)
      site := site source tree
    }
  | _, _ => none

def typeIdentifier? (source : Source) (tree : ParseTree) : Option String :=
  (tree.namedChildren.find? (·.kind == .typeIdentifier)).map source.textOf

def templateParameter? (source : Source) (tree : ParseTree) : Option Parameter :=
  let typeLike (kind : ParameterKind) (name? : Option String) : Option Parameter :=
    some { kind, name := name?.getD "", type := none, site := site source tree }
  match tree.kind with
  | .typeParameter => typeLike .templateType (typeIdentifier? source tree)
  | .optionalTypeParameter =>
    typeLike .templateType ((tree.field? .name).map source.textOf)
  | .templateParameter =>
    typeLike .templateTemplate
      ((tree.namedChildren.filter (·.kind != .templateParameterList)).findSome?
        (typeIdentifier? source))
  | .parameter =>
    let type? := tree.field? .type
    let declarator? := if type?.isSome then tree.field? .declarator else none
    some {
      kind := .templateNonType
      name := ((declarator?.map fun d => (declaratorName source (core d)).name).getD "")
      type := type?.map fun type => typeUse source tree type declarator?
      site := site source tree
    }
  | _ => none

def templateParameters (source : Source) (tree : ParseTree) : List Parameter :=
  match tree.field? .parameters with
  | some list => list.namedChildren.filterMap (templateParameter? source)
  | none => []

def functionDeclarator (source : Source) (tree : ParseTree) : FunctionDeclarator :=
  let name := (tree.field? .declarator).getD tree
  let list? := tree.field? .parameters
  { name := declaratorName source name
    location := source.locationOf name
    parameters :=
      match list? with
      | some list => list.namedChildren.filterMap (functionParameter? source)
      | none => []
    isVariadic := list?.any fun list => list.children.any (·.kind == .ellipsis)
    isConst :=
      tree.namedChildren.any fun child =>
        child.kind == .typeQualifier && source.textOf child == "const" }

def namesFunction (tree : ParseTree) : Bool :=
  (tree.field? .declarator).any fun name =>
    match name.kind with
    | .identifier | .typeIdentifier | .qualifiedIdentifier | .destructorName | .operatorName
    | .templateFunction | .operatorCast => true
    | _ => false

def declared (source : Source) (tree : ParseTree) : Declared :=
  if tree.kind != .functionDeclarator then .object
  else if namesFunction tree then .function (functionDeclarator source tree)
  else .functionPointer (((tree.field? .parameters).map source.textOf).getD "()")

def declarator (source : Source) (tree : ParseTree) : Declarator :=
  let inner := core tree
  { derivations := derivations source tree
    name := declaratorName source inner
    location := source.locationOf inner
    declared := declared source inner }

end Declaration
end CursorQuery
