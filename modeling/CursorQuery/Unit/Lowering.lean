import CursorQuery.Unit.Addition
import CursorQuery.Unit.Options

/-!
This module contains the lowering of declarations to cursors. Every item makes additions to the unit
that is being built, first for what it declares and then for what is declared inside of it.
-/

namespace CursorQuery
namespace Lowering

/-- Drops a lone parameter without a name whose type is `void`, which stands for no parameters. -/
def dropVoid (parameters : List ResolvedParameter) : List ResolvedParameter :=
  match parameters with
  | [only] => if only.name.isEmpty && only.type.any (·.kind == .void) then [] else [only]
  | _ => parameters

def addNamespaces (b : Builder) (scope : Scope) (site : Site) : List String → Builder × Scope
  | [] => (b, scope)
  | name :: names =>
    addNamespaces (b.add scope (.namespaceBlock name site)) (.inside b.nextId) site names

def addRecord (b : Builder) (scope : Scope) (level : Access) (template : List ResolvedParameter)
    (head : RecordHead) : Builder :=
  b.addNested scope (.record level template head) .membersOf
    (template.map .parameter ++ head.bases.map (.base (Addition.defaultAccess head.keyword)))

def addEnum (b : Builder) (scope : Scope) (level : Access) (head : EnumHead) : Builder :=
  b.addNested scope (.enumeration level head) .inside
    (head.enumerators.map (.enumerator (Addition.enumType b scope head)))

def tagType (b : Builder) (id : Nat) : CType :=
  let cursor := b.cursor id
  cursor.type.getD { kind := .unexposed, spelling := cursor.qualifiedName }

def functionForm (b : Builder) (scope : Scope) (template : List ResolvedParameter)
    (declarator : FunctionDeclarator) (result? : Option CType) (isDefinition : Bool) (span : Span) :
    FunctionForm where
  template
  parameters := dropVoid (b.resolveParameters scope.semantic declarator.parameters)
  declarator
  result?
  isDefinition
  span

def addFunction (b : Builder) (scope : Scope) (level : Access) (form : FunctionForm) : Builder :=
  b.addNested scope (.function level form) .inside
    ((form.template ++ form.parameters).map .parameter)

def objectForm (rest : DeclaratorList) (declarator : Declarator) (type : CType) :
    ObjectForm where
  declarator
  type
  isStatic := rest.isStatic
  isExtern := rest.isExtern
  span := rest.span

def addDeclarator (b : Builder) (scope : Scope) (level : Access)
    (template : List ResolvedParameter) (rest : DeclaratorList) (base? : Option CType)
    (declarator : Declarator) : Builder :=
  let type := declarator.derivations.foldl CType.derive (base?.getD .void)
  match declarator.declared with
  | .function function =>
    addFunction b scope level
      (functionForm b scope template function (base?.map fun _ => type) false rest.span)
  | .functionPointer parameters =>
    b.add scope (.object level (objectForm rest declarator
      { kind := .pointer, spelling := type.spelling ++ " (*)" ++ parameters }))
  | .object => b.add scope (.object level (objectForm rest declarator type))

def addDeclarators (b : Builder) (scope : Scope) (level : Access)
    (template : List ResolvedParameter) (base? : Option CType) (rest : DeclaratorList) : Builder :=
  let base? := if rest.isConst then base?.map CType.withConst else base?
  rest.declarators.foldl (fun b declarator =>
    addDeclarator b scope level template rest base? declarator) b

/-- The access level after an item. Labels change it, but only among the members of a record. -/
def levelAfter (scope : Scope) (level : Access) : Item → Access
  | .accessLabel level? _ => if scope.inRecord then level?.getD level else level
  | _ => level

mutual

def lowerItems (options : Options) (b : Builder) (scope : Scope) (level : Access)
    (template : List ResolvedParameter) : List Item → Builder
  | [] => b
  | item :: rest =>
    lowerItems options (lowerItem options b scope level template item) scope
      (levelAfter scope level item) template rest

def lowerItem (options : Options) (b : Builder) (scope : Scope) (level : Access)
    (template : List ResolvedParameter) : Item → Builder
  | .accessLabel level? site =>
    if scope.inRecord then b.add scope (.accessLabel (level?.getD level) site) else b
  | .namespaceBlock names site body =>
    let (opened, inner) := addNamespaces b scope site (if names.isEmpty then [""] else names)
    lowerItems options opened inner .noAccess [] body
  | .linkageBlock site body =>
    lowerItems options (b.add scope (.linkage site)) (.inside b.nextId) .noAccess [] body
  | .template parameters body =>
    lowerItems options b scope level (b.resolveParameters scope.semantic parameters) body
  | .record head members rest =>
    let id := b.nextId
    let opened := addRecord b scope level template head
    let closed :=
      lowerItems options opened (.membersOf id) (Addition.defaultAccess head.keyword) [] members
    -- What is declared with the record is of the type that the record has introduced.
    addDeclarators closed scope level template (some (tagType closed id)) rest
  | .enumeration head rest =>
    let closed := addEnum b scope level head
    addDeclarators closed scope level template (some (tagType closed b.nextId)) rest
  | .declaration base? rest =>
    let base? := base?.map fun base => b.writtenType base scope.semantic
    addDeclarators b scope level template base? rest
  | .function declarator result? span body? members =>
    let id := b.nextId
    let result? := result?.map fun use => b.typeOf use scope.semantic
    let opened :=
      addFunction b scope level (functionForm b scope template declarator result? true span)
    match body? with
    | some site =>
      if options.skipBodies then opened
      else
        let inner : Scope := { lexical := opened.nextId, semantic := id, inRecord := false }
        lowerItems options (opened.add (.inside id) (.body site)) inner .noAccess [] members
    | none => opened
  | .typeAlias isTypedef name site => b.add scope (.typeAlias level isTypedef name site)
  | .usingName isDirective target site => b.add scope (.usingName level isDirective target site)
  | .inclusion path site => if options.detailed then b.add scope (.inclusion path site) else b
  | .macroDefinition name site =>
    if options.detailed then b.add scope (.macroDefinition name site) else b

end

end Lowering
end CursorQuery
