import CursorQuery.Declaration.Item
import CursorQuery.Unit.Builder

/-!
This module contains additions, the steps in which a translation unit is built: what is to be added as
one cursor. The cursor of an addition depends on the scope and on the cursors that are there already,
among which the names in the addition are looked up.
-/

namespace CursorQuery

namespace Builder

def namedType (b : Builder) (name : String) (scope : Nat) : CType :=
  match b.resolve name scope with
  | none => { kind := .unexposed, spelling := name }
  | some id =>
    let cursor := b.cursor id
    match cursor.kind with
    | .classDecl | .structDecl | .unionDecl | .classTemplate =>
      { kind := .record, spelling := cursor.qualifiedName }
    | .enumDecl => { kind := .enumeration, spelling := cursor.qualifiedName }
    | .typedefDecl | .typeAliasDecl => { kind := .typedefName, spelling := cursor.qualifiedName }
    | _ => { kind := .unexposed, spelling := name }

def writtenType (b : Builder) (type : WrittenType) (scope : Nat) : CType :=
  match type with
  | .known type => type
  | .named name => b.namedType name scope
  | .tagged fallback name =>
    match b.resolve name scope with
    | some _ => b.namedType name scope
    | none => { kind := fallback, spelling := name }
  | .template name? arguments =>
    let base := (name?.map fun name => (b.namedType name scope).spelling).getD ""
    { kind := .unexposed, spelling := base ++ arguments }

def typeOf (b : Builder) (use : TypeUse) (scope : Nat) : CType :=
  let base := b.writtenType use.base scope
  use.derivations.foldl CType.derive (if use.isConst then base.withConst else base)

end Builder

structure ResolvedParameter where
  kind : ParameterKind
  name : String
  type : Option CType
  site : Site
  deriving Repr, DecidableEq

namespace Builder

def resolveParameters (b : Builder) (scope : Nat) (parameters : List Parameter) :
    List ResolvedParameter :=
  parameters.map fun parameter =>
    { kind := parameter.kind
      name := parameter.name
      type := parameter.type.map fun use => b.typeOf use scope
      site := parameter.site }

end Builder

structure FunctionForm where
  template : List ResolvedParameter
  parameters : List ResolvedParameter
  declarator : FunctionDeclarator
  result? : Option CType
  isDefinition : Bool
  span : Span
  deriving Repr, DecidableEq

structure ObjectForm where
  declarator : Declarator
  type : CType
  isStatic : Bool
  isExtern : Bool
  span : Span
  deriving Repr, DecidableEq

/-- What is added to a unit as one cursor. The access level is the one in effect, for a base the one that
holds if none is written. -/
inductive Addition where
  | parameter (resolved : ResolvedParameter)
  | accessLabel (level : Access) (site : Site)
  | namespaceBlock (name : String) (site : Site)
  | linkage (site : Site)
  | base (level : Access) (written : BaseClass)
  | record (level : Access) (template : List ResolvedParameter) (head : RecordHead)
  | enumeration (level : Access) (head : EnumHead)
  | enumerator (type : CType) (written : Enumerator)
  | function (level : Access) (form : FunctionForm)
  | body (site : Site)
  | object (level : Access) (form : ObjectForm)
  | typeAlias (level : Access) (isTypedef : Bool) (name : String) (site : Site)
  | usingName (level : Access) (isDirective : Bool) (target : List String) (site : Site)
  | inclusion (path : String) (site : Site)
  | macroDefinition (name : String) (site : Site)
  deriving Repr, DecidableEq

namespace Addition

def unnamedLabel (keyword : String) (start : Location) : String :=
  "(unnamed " ++ keyword ++ " at " ++ start.display ++ ")"

def keywordText : RecordKeyword → String
  | .classKey => "class"
  | .structKey => "struct"
  | .unionKey => "union"

def recordKind : RecordKeyword → CursorKind
  | .classKey => .classDecl
  | .structKey => .structDecl
  | .unionKey => .unionDecl

def defaultAccess : RecordKeyword → Access
  | .classKey => .privateAccess
  | .structKey | .unionKey => .publicAccess

def recordCursor (b : Builder) (scope : Scope) (level : Access) (template : List ResolvedParameter)
    (head : RecordHead) : Cursor :=
  let name := head.name.name
  let semantic := b.resolveScope head.name.scopes scope
  let label := if name.isEmpty then unnamedLabel (keywordText head.keyword) head.start else name
  let qualifiedName := b.qualify semantic label
  { kind := if template.isEmpty then recordKind head.keyword else .classTemplate
    spelling := name
    displayName :=
      if template.isEmpty then name
      else name ++ "<" ++ String.intercalate ", " (template.map (·.name)) ++ ">"
    qualifiedName
    type := if template.isEmpty then some { kind := .record, spelling := qualifiedName } else none
    access := scope.memberAccess level
    isDefinition := head.isDefinition
    location := some head.location
    span := some head.span
    semanticParent := some semantic }

def enumType (b : Builder) (scope : Scope) (head : EnumHead) : CType :=
  let name := head.name.name
  let label := if name.isEmpty then unnamedLabel "enum" head.start else name
  { kind := .enumeration, spelling := b.qualify (b.resolveScope head.name.scopes scope) label }

def enumCursor (b : Builder) (scope : Scope) (level : Access) (head : EnumHead) : Cursor :=
  let type := enumType b scope head
  { kind := .enumDecl
    spelling := head.name.name
    qualifiedName := type.spelling
    type := some type
    access := scope.memberAccess level
    isDefinition := head.isDefinition
    location := some head.location
    span := some head.span
    semanticParent := some (b.resolveScope head.name.scopes scope) }

def functionKind (b : Builder) (template : List ResolvedParameter) (semantic : Nat)
    (name : String) : CursorKind :=
  let owner := b.cursor semantic
  if !template.isEmpty then .functionTemplate
  else if !owner.kind.isRecord then .functionDecl
  else if name.toList.head? == some '~' then .destructor
  else if owner.spelling == name then .constructor
  else .method

def functionAccess (b : Builder) (scope : Scope) (level : Access) (semantic : Nat) (name : String) :
    Access :=
  if !(b.cursor semantic).kind.isRecord then .noAccess
  else if scope.inRecord then level
  else b.declaredAccess semantic name

def functionCursor (b : Builder) (scope : Scope) (level : Access) (form : FunctionForm) : Cursor :=
  let name := form.declarator.name.name
  let semantic := b.resolveScope form.declarator.name.scopes scope
  let types := form.parameters.map fun parameter => (parameter.type.map (·.spelling)).getD ""
  let written :=
    String.intercalate ", " (if form.declarator.isVariadic then types ++ ["..."] else types)
  let result := form.result?.getD .void
  { kind := functionKind b form.template semantic name
    spelling := name
    displayName := name ++ "(" ++ written ++ ")"
    qualifiedName := b.qualify semantic name
    type := some {
      kind := .function
      spelling := result.spelling ++ " (" ++ written ++ ")" ++
        (if form.declarator.isConst then " const" else "")
    }
    resultType := some result
    access := functionAccess b scope level semantic name
    isDefinition := form.isDefinition
    location := some form.declarator.location
    span := some form.span
    semanticParent := some semantic }

def objectAccess (b : Builder) (scope : Scope) (level : Access) (semantic : Nat) (name : String) :
    Access :=
  if scope.inRecord then level
  else if (b.cursor semantic).kind.isRecord then b.declaredAccess semantic name
  else .noAccess

def objectCursor (b : Builder) (scope : Scope) (level : Access) (form : ObjectForm) : Cursor :=
  let name := form.declarator.name.name
  let semantic := b.resolveScope form.declarator.name.scopes scope
  let isField := scope.inRecord && !form.isStatic
  { kind := if isField then .fieldDecl else .varDecl
    spelling := name
    qualifiedName := b.qualify semantic name
    type := some form.type
    access := objectAccess b scope level semantic name
    isDefinition := isField || (!form.isExtern && !scope.inRecord)
    location := some form.declarator.location
    span := some form.span
    semanticParent := some semantic }

def cursor (b : Builder) (scope : Scope) : Addition → Cursor
  | .parameter resolved =>
    { kind := resolved.kind.cursorKind
      spelling := resolved.name
      type := resolved.type
      isDefinition := true
      location := some resolved.site.location
      span := some resolved.site.span }
  | .accessLabel level site =>
    { kind := .accessSpecifier
      spelling := ""
      access := level
      location := some site.location
      span := some site.span }
  | .namespaceBlock name site =>
    { kind := .namespaceDecl
      spelling := name
      qualifiedName :=
        b.qualify scope.semantic (if name.isEmpty then "(anonymous namespace)" else name)
      isDefinition := true
      location := some site.location
      span := some site.span }
  | .linkage site =>
    { kind := .linkageSpec
      spelling := ""
      location := some site.location
      span := some site.span }
  | .base level written =>
    let type := b.writtenType written.type scope.semantic
    { kind := .baseSpecifier
      spelling := type.spelling
      type := some type
      access := written.access.getD level
      location := some written.site.location
      span := some written.site.span }
  | .record level template head => recordCursor b scope level template head
  | .enumeration level head => enumCursor b scope level head
  | .enumerator type written =>
    { kind := .enumConstantDecl
      spelling := written.name
      qualifiedName := b.qualify scope.semantic written.name
      type := some type
      isDefinition := true
      location := some written.site.location
      span := some written.site.span }
  | .function level form => functionCursor b scope level form
  | .body site =>
    { kind := .compoundStmt
      spelling := ""
      location := some site.location
      span := some site.span }
  | .object level form => objectCursor b scope level form
  | .typeAlias level isTypedef name site =>
    let qualifiedName := b.qualify scope.semantic name
    { kind := if isTypedef then .typedefDecl else .typeAliasDecl
      spelling := name
      qualifiedName
      type := some { kind := .typedefName, spelling := qualifiedName }
      access := scope.memberAccess level
      isDefinition := true
      location := some site.location
      span := some site.span }
  -- A declaration is called like the last part of its target, a directive like all of it.
  | .usingName level isDirective target site =>
    { kind := if isDirective then .usingDirective else .usingDeclaration
      spelling := if isDirective then Text.joinScoped target else target.getLast?.getD ""
      access := scope.memberAccess level
      location := some site.location
      span := some site.span }
  | .inclusion path site =>
    { kind := .inclusionDirective
      spelling := path
      location := some site.location
      span := some site.span }
  | .macroDefinition name site =>
    { kind := .macroDefinition
      spelling := name
      isDefinition := true
      location := some site.location
      span := some site.span }

def isRegistered : Addition → Bool
  | .namespaceBlock .. | .enumeration .. | .typeAlias .. => true
  | .record _ _ head => !head.isSpecialization
  | _ => false

end Addition

namespace Builder

def add (b : Builder) (scope : Scope) (addition : Addition) : Builder :=
  let pushed := b.push scope (addition.cursor b scope)
  if addition.isRegistered then pushed.register b.nextId else pushed

def addAll (b : Builder) (scope : Scope) (additions : List Addition) : Builder :=
  additions.foldl (fun b addition => b.add scope addition) b

def addNested (b : Builder) (scope : Scope) (addition : Addition) (inner : Nat → Scope)
    (parts : List Addition) : Builder :=
  (b.add scope addition).addAll (inner b.nextId) parts

end Builder
end CursorQuery
