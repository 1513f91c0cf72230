import CursorQuery.Proofs.Lowering.Growth
import CursorQuery.Unit.Basic

/-!
This module contains the trace of a lowering: everything it does to the unit that is being built, in
order. It looks at cursors that are there already and it makes additions. An addition looks at the
cursors that are needed to make its cursor.
-/

namespace CursorQuery

namespace Builder

def prefixReads (b : Builder) (id : Nat) : List Nat :=
  match (b.cursor id).semanticParent with
  | some parent =>
    if (b.cursor id).kind.isTransparent && parent < id then id :: b.prefixReads parent else [id]
  | none => [id]
termination_by id
decreasing_by simp_all

def resolveReads (b : Builder) (name : String) (scope : Nat) : List Nat :=
  if "::".toList.isPrefixOf name.toList then [] else b.prefixReads scope

def resolveScopeReads (b : Builder) (scopes : List String) (scope : Scope) : List Nat :=
  if scopes.isEmpty then [] else b.resolveReads (Text.joinScoped scopes) scope.semantic

def namedTypeReads (b : Builder) (name : String) (scope : Nat) : List Nat :=
  b.resolveReads name scope ++ (b.resolve name scope).toList

def typeReads (b : Builder) (scope : Nat) : WrittenType → List Nat
  | .known _ => []
  | .named name | .tagged _ name => b.namedTypeReads name scope
  | .template name? _ => name?.toList.flatMap fun name => b.namedTypeReads name scope

def declaredAccessReads (b : Builder) (owner : Nat) : List Nat :=
  owner :: b.childrenOf owner

def memberReads (b : Builder) (scopes : List String) (scope : Scope) : List Nat :=
  let semantic := b.resolveScope scopes scope
  b.resolveScopeReads scopes scope ++ b.prefixReads semantic ++ [semantic] ++
    (if (b.cursor semantic).kind.isRecord && !scope.inRecord then b.declaredAccessReads semantic
      else [])

def tagReads (b : Builder) (scopes : List String) (scope : Scope) : List Nat :=
  b.resolveScopeReads scopes scope ++ b.prefixReads (b.resolveScope scopes scope)

def registerReads (b : Builder) (id : Nat) : List Nat :=
  id :: (b.names.lookup (b.cursor id).qualifiedName).toList

end Builder

namespace Addition

def reads (b : Builder) (scope : Scope) : Addition → List Nat
  | .namespaceBlock .. | .enumerator .. | .typeAlias .. => b.prefixReads scope.semantic
  | .base _ written => b.typeReads scope.semantic written.type
  | .record _ _ head => b.tagReads head.name.scopes scope
  | .enumeration _ head => b.tagReads head.name.scopes scope
  | .function _ form => b.memberReads form.declarator.name.scopes scope
  | .object _ form => b.memberReads form.declarator.name.scopes scope
  | _ => []

end Addition

namespace Lowering

structure Read where
  unit : Builder
  id : Nat

namespace Read

def InBounds (read : Read) : Prop :=
  read.id < read.unit.cursors.size

end Read

/-- What lowering does with a unit that is being built. -/
inductive Action where
  | type (b : Builder) (scope : Nat) (written : WrittenType)
  | tag (b : Builder) (id : Nat)
  | add (b : Builder) (scope : Scope) (addition : Addition)

namespace Action

def before : Action → Builder
  | type b _ _ => b
  | tag b _ => b
  | add b _ _ => b

def after : Action → Builder
  | type b _ _ => b
  | tag b _ => b
  | add b scope addition => b.add scope addition

/--
The reads of an action. An addition reads the cursor whose child list it is put on, and entering its
name reads the unit that has the new cursor.
-/
def reads : Action → List Read
  | type b scope written => (b.typeReads scope written).map (Read.mk b)
  | tag b id => [⟨b, id⟩]
  | add b scope addition =>
    let pushed := b.push scope (addition.cursor b scope)
    (addition.reads b scope).map (Read.mk b) ++ [⟨b, scope.lexical⟩] ++
      (if addition.isRegistered then (pushed.registerReads b.nextId).map (Read.mk pushed) else [])

/-- Each action takes up the unit where the one before has left it. -/
def Leads : Builder → List Action → Builder → Prop
  | b, [], b' => b = b'
  | b, action :: actions, b' => action.before = b ∧ Leads action.after actions b'

end Action

namespace Trace

def types (b : Builder) (scope : Nat) (written : List WrittenType) : List Action :=
  written.map (.type b scope)

def parameterTypes (b : Builder) (scope : Nat) (parameters : List Parameter) : List Action :=
  types b scope (parameters.filterMap fun parameter => parameter.type.map (·.base))

def addAll (b : Builder) (scope : Scope) : List Addition → List Action
  | [] => []
  | addition :: additions => .add b scope addition :: addAll (b.add scope addition) scope additions

def addNested (b : Builder) (scope : Scope) (addition : Addition) (inner : Nat → Scope)
    (parts : List Addition) : List Action :=
  .add b scope addition :: addAll (b.add scope addition) (inner b.nextId) parts

def addNamespaces (b : Builder) (scope : Scope) (site : Site) : List String → List Action
  | [] => []
  | name :: names =>
    .add b scope (.namespaceBlock name site) ::
      addNamespaces (b.add scope (.namespaceBlock name site)) (.inside b.nextId) site names

def addRecord (b : Builder) (scope : Scope) (level : Access) (template : List ResolvedParameter)
    (head : RecordHead) : List Action :=
  addNested b scope (.record level template head) .membersOf
    (template.map .parameter ++ head.bases.map (.base (Addition.defaultAccess head.keyword)))

def addEnum (b : Builder) (scope : Scope) (level : Access) (head : EnumHead) : List Action :=
  addNested b scope (.enumeration level head) .inside
    (head.enumerators.map (.enumerator (Addition.enumType b scope head)))

def addFunction (b : Builder) (scope : Scope) (level : Access) (form : FunctionForm) :
    List Action :=
  parameterTypes b scope.semantic form.declarator.parameters ++
    addNested b scope (.function level form) .inside
      ((form.template ++ form.parameters).map .parameter)

def addDeclarator (b : Builder) (scope : Scope) (level : Access)
    (template : List ResolvedParameter) (rest : DeclaratorList) (base? : Option CType)
    (declarator : Declarator) : List Action :=
  let type := declarator.derivations.foldl CType.derive (base?.getD .void)
  match declarator.declared with
  | .function function =>
    addFunction b scope level
      (functionForm b scope template function (base?.map fun _ => type) false rest.span)
  | .functionPointer parameters =>
    [.add b scope (.object level (objectForm rest declarator
      { kind := .pointer, spelling := type.spelling ++ " (*)" ++ parameters }))]
  | .object => [.add b scope (.object level (objectForm rest declarator type))]

def addDeclarators (b : Builder) (scope : Scope) (level : Access)
    (template : List ResolvedParameter) (base? : Option CType) (rest : DeclaratorList) :
    List Action :=
  go (if rest.isConst then base?.map CType.withConst else base?) b rest.declarators
where
  go (base? : Option CType) (b : Builder) : List Declarator → List Action
    | [] => []
    | declarator :: declarators =>
      addDeclarator b scope level template rest base? declarator ++
        go base? (Lowering.addDeclarator b scope level template rest base? declarator) declarators

mutual

def lowerItems (options : Options) (b : Builder) (scope : Scope) (level : Access)
    (template : List ResolvedParameter) : List Item → List Action
  | [] => []
  | item :: rest =>
    lowerItem options b scope level template item ++
      lowerItems options (Lowering.lowerItem options b scope level template item) scope
        (levelAfter scope level item) template rest

def lowerItem (options : Options) (b : Builder) (scope : Scope) (level : Access)
    (template : List ResolvedParameter) : Item → List Action
  | .accessLabel level? site =>
    if scope.inRecord then [.add b scope (.accessLabel (level?.getD level) site)] else []
  | .namespaceBlock names site body =>
    let names := if names.isEmpty then [""] else names
    let (opened, inner) := Lowering.addNamespaces b scope site names
    addNamespaces b scope site names ++ lowerItems options opened inner .noAccess [] body
  | .linkageBlock site body =>
    .add b scope (.linkage site) ::
      lowerItems options (b.add scope (.linkage site)) (.inside b.nextId) .noAccess [] body
  | .template parameters body =>
    parameterTypes b scope.semantic parameters ++
      lowerItems options b scope level (b.resolveParameters scope.semantic parameters) body
  | .record head members rest =>
    let id := b.nextId
    let opened := Lowering.addRecord b scope level template head
    let closed :=
      Lowering.lowerItems options opened (.membersOf id) (Addition.defaultAccess head.keyword) []
        members
    addRecord b scope level template head ++
      lowerItems options opened (.membersOf id) (Addition.defaultAccess head.keyword) [] members ++
      [.tag closed id] ++
      addDeclarators closed scope level template (some (tagType closed id)) rest
  | .enumeration head rest =>
    let closed := Lowering.addEnum b scope level head
    addEnum b scope level head ++ [.tag closed b.nextId] ++
      addDeclarators closed scope level template (some (tagType closed b.nextId)) rest
  | .declaration base? rest =>
    let resolved? := base?.map fun base => b.writtenType base scope.semantic
    types b scope.semantic base?.toList ++
      addDeclarators b scope level template resolved? rest
  | .function declarator result? span body? members =>
    let id := b.nextId
    let resolved? := result?.map fun use => b.typeOf use scope.semantic
    let form := functionForm b scope template declarator resolved? true span
    let opened := Lowering.addFunction b scope level form
    types b scope.semantic (result?.map (·.base)).toList ++
      addFunction b scope level form ++
      match body? with
      | some site =>
        if options.skipBodies then []
        else
          let inner : Scope := { lexical := opened.nextId, semantic := id, inRecord := false }
          .add opened (.inside id) (.body site) ::
            lowerItems options (opened.add (.inside id) (.body site)) inner .noAccess [] members
      | none => []
  | .typeAlias isTypedef name site => [.add b scope (.typeAlias level isTypedef name site)]
  | .usingName isDirective target site => [.add b scope (.usingName level isDirective target site)]
  | .inclusion path site =>
    if options.detailed then [.add b scope (.inclusion path site)] else []
  | .macroDefinition name site =>
    if options.detailed then [.add b scope (.macroDefinition name site)] else []

end

end Trace
end Lowering

namespace TranslationUnit

def trace (source : Source) (tree : ParseTree) (options : Options) : List Lowering.Action :=
  Lowering.Trace.lowerItems options (start source tree) (.inside Cursor.root) .noAccess []
    (Declaration.members source tree)

end TranslationUnit
end CursorQuery
