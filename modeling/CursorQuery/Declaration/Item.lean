import CursorQuery.Cursor.Access
import CursorQuery.Declaration.Declarator

/-!
This module contains the declarations of a source text as a tree of items. An item holds what is
written; nothing in it depends on other declarations. Conditional and erroneous regions are gone:
their contents stand in the container around them.
-/

namespace CursorQuery

structure BaseClass where
  type : WrittenType
  access : Option Access
  site : Site
  deriving Repr, DecidableEq

structure RecordHead where
  keyword : RecordKeyword
  name : ScopedName
  isSpecialization : Bool
  isDefinition : Bool
  location : Location
  start : Location
  span : Span
  bases : List BaseClass
  deriving Repr, DecidableEq

structure Enumerator where
  name : String
  site : Site
  deriving Repr, DecidableEq

structure EnumHead where
  name : ScopedName
  isDefinition : Bool
  location : Location
  start : Location
  span : Span
  enumerators : List Enumerator
  deriving Repr, DecidableEq

structure DeclaratorList where
  declarators : List Declarator
  isConst : Bool
  isStatic : Bool
  isExtern : Bool
  span : Span
  deriving Repr, DecidableEq

inductive Item where
  | accessLabel (level? : Option Access) (site : Site)
  | namespaceBlock (names : List String) (site : Site) (body : List Item)
  | linkageBlock (site : Site) (body : List Item)
  | template (parameters : List Parameter) (body : List Item)
  | record (head : RecordHead) (members : List Item) (rest : DeclaratorList)
  | enumeration (head : EnumHead) (rest : DeclaratorList)
  | declaration (base? : Option WrittenType) (rest : DeclaratorList)
  | function (declarator : FunctionDeclarator) (result? : Option TypeUse) (span : Span)
      (body? : Option Site) (members : List Item)
  | typeAlias (isTypedef : Bool) (name : String) (site : Site)
  | usingName (isDirective : Bool) (target : List String) (site : Site)
  | inclusion (path : String) (site : Site)
  | macroDefinition (name : String) (site : Site)

namespace Declaration

open ParseTree

def baseClasses (source : Source) (pending : Option Access) : List ParseTree → List BaseClass
  | [] => []
  | child :: rest =>
    match child.kind with
    | .accessSpecifier => baseClasses source (Access.ofLabel? (source.textOf child)) rest
    | .typeIdentifier | .qualifiedTypeIdentifier | .qualifiedIdentifier | .templateType =>
      { type := writtenType source child, access := pending, site := site source child }
        :: baseClasses source none rest
    | _ => baseClasses source pending rest

def recordHead (source : Source) (keyword : RecordKeyword) (tree : ParseTree) : RecordHead :=
  let name? := tree.field? .name
  { keyword
    name := tagName source name?
    isSpecialization := name?.any (·.kind == .templateType)
    isDefinition := (tree.field? .body).isSome
    location := source.locationOf (name?.getD tree)
    start := source.locationOf tree
    span := tree.span
    bases :=
      match tree.namedChildren.find? (·.kind == .baseClause) with
      | some clause => baseClasses source none clause.namedChildren
      | none => [] }

def enumerator? (source : Source) (tree : ParseTree) : Option Enumerator :=
  match tree.kind, tree.field? .name with
  | .enumerator, some name =>
    some {
      name := source.textOf name
      site := { location := source.locationOf name, span := tree.span }
    }
  | _, _ => none

def enumHead (source : Source) (tree : ParseTree) : EnumHead :=
  let name? := tree.field? .name
  { name := tagName source name?
    isDefinition := (tree.field? .body).isSome
    location := source.locationOf (name?.getD tree)
    start := source.locationOf tree
    span := tree.span
    enumerators :=
      match tree.field? .body with
      | some body => body.namedChildren.filterMap (enumerator? source)
      | none => [] }

def declaratorList (source : Source) (tree : ParseTree) : DeclaratorList where
  declarators := (tree.fields .declarator).map (declarator source)
  isConst := hasConst source tree
  isStatic := hasKeyword source tree .storageClass "static"
  isExtern := hasKeyword source tree .storageClass "extern"
  span := tree.span

def noDeclarators (tree : ParseTree) : DeclaratorList where
  declarators := []
  isConst := false
  isStatic := false
  isExtern := false
  span := tree.span

def typedefs (source : Source) (tree : ParseTree) : List Item :=
  (tree.fields .declarator).map fun declarator =>
    let inner := core declarator
    .typeAlias true (declaratorName source inner).name
      { location := source.locationOf inner, span := tree.span }

def aliasItems (source : Source) (tree : ParseTree) : List Item :=
  match tree.field? .name with
  | some name =>
    [.typeAlias false (source.textOf name)
      { location := source.locationOf name, span := tree.span }]
  | none => []

def usingItems (source : Source) (tree : ParseTree) : List Item :=
  match tree.namedChildren.getLast? with
  | some target =>
    let isDirective :=
      tree.children.any fun child => !child.info.isNamed && child.kind == .namespaceKeyword
    [.usingName isDirective (Text.scopedParts (source.textOf target))
      { location := source.locationOf target, span := tree.span }]
  | none => []

/-- A path without white space around it and without quotes and angle brackets. -/
def includedPath (text : String) : String :=
  let isQuote (c : Char) : Bool := c == '"' || c == '<' || c == '>'
  let opened := (Text.trimChars text.toList).dropWhile isQuote
  String.ofList (opened.reverse.dropWhile isQuote).reverse

def inclusionItems (source : Source) (tree : ParseTree) : List Item :=
  match tree.field? .path with
  | some path =>
    [.inclusion (includedPath (source.textOf path))
      { location := source.locationOf path, span := tree.span }]
  | none => []

def macroItems (source : Source) (tree : ParseTree) : List Item :=
  match tree.field? .name with
  | some name =>
    [.macroDefinition (source.textOf name)
      { location := source.locationOf name, span := tree.span }]
  | none => []

def isTemplatable : NodeKind → Bool
  | .record _ | .functionDefinition | .declaration | .templateDeclaration | .aliasDeclaration => true
  | _ => false

mutual

/-- Reads the members of a container. The contents of a region belong to the container. -/
def members (source : Source) (tree : ParseTree) : List Item :=
  tree.namedChildren.attach.flatMap fun ⟨child, _⟩ =>
    match child.kind with
    | .accessSpecifier =>
      [.accessLabel (Access.ofLabel? (source.textOf child)) (site source child)]
    | .region => members source child
    | _ => items source child
termination_by 2 * tree.size + 1
decreasing_by
  · have := size_lt_of_mem_namedChildren ‹_›
    omega
  · have := size_lt_of_mem_namedChildren ‹_›
    omega

def bodyMembers (source : Source) (tree : ParseTree) : List Item :=
  match _h : tree.field? .body with
  | some body => members source body
  | none => []
termination_by 2 * tree.size
decreasing_by
  have := size_lt_of_field? _h
  omega

def items (source : Source) (tree : ParseTree) : List Item :=
  match tree.kind with
  | .namespaceDefinition =>
    let name? := tree.field? .name
    let names := ((name?.map (namespaceNames source)).getD [])
    -- An anonymous namespace is located at its beginning.
    let at' := if names.isEmpty then tree else name?.getD tree
    [.namespaceBlock names { location := source.locationOf at', span := tree.span }
      (bodyMembers source tree)]
  | .linkage =>
    match _h : tree.field? .body with
    | some body =>
      if body.kind == .declarationList then
        [.linkageBlock (site source tree) (bodyMembers source tree)]
      else [.linkageBlock (site source tree) (items source body)]
    | none => [.linkageBlock (site source tree) []]
  | .record keyword =>
    [.record (recordHead source keyword tree) (bodyMembers source tree) (noDeclarators tree)]
  | .enumeration => [.enumeration (enumHead source tree) (noDeclarators tree)]
  | .declaration =>
    let rest := declaratorList source tree
    match _h : tree.field? .type with
    | none => [.declaration none rest]
    | some type =>
      -- A specifier without a body declares something only if nothing is declared with it.
      let declares := (type.field? .body).isSome || rest.declarators.isEmpty
      match type.kind, declares with
      | .record keyword, true =>
        [.record (recordHead source keyword type) (bodyMembers source type) rest]
      | .enumeration, true => [.enumeration (enumHead source type) rest]
      | _, _ => [.declaration (some (writtenType source type)) rest]
  | .typeDefinition =>
    let tag :=
      match _h : tree.field? .type with
      | none => []
      | some type =>
        match type.kind, (type.field? .body).isSome with
        | .record keyword, true =>
          [.record (recordHead source keyword type) (bodyMembers source type) (noDeclarators type)]
        | .enumeration, true => [.enumeration (enumHead source type) (noDeclarators type)]
        | _, _ => []
    tag ++ typedefs source tree
  | .functionDefinition =>
    match tree.field? .declarator with
    | none => []
    | some declarator =>
      let inner := core declarator
      -- Other declarators, such as those of conversions, do not make a function.
      if inner.kind == .functionDeclarator then
        let body? := (tree.field? .body).filter (·.kind == .compoundStatement)
        [.function (functionDeclarator source inner)
          ((tree.field? .type).map fun type => typeUse source tree type (some declarator))
          tree.span (body?.map (site source))
          (if body?.isSome then bodyMembers source tree else [])]
      else []
  | .templateDeclaration =>
    [.template (templateParameters source tree)
      ((tree.namedChildren.filter (isTemplatable ·.kind)).attach.flatMap fun ⟨child, _⟩ =>
        items source child)]
  | .aliasDeclaration => aliasItems source tree
  | .usingDeclaration => usingItems source tree
  | .inclusion => inclusionItems source tree
  | .macroDefinition => macroItems source tree
  | _ => []
termination_by 2 * tree.size + 1
decreasing_by
  · omega
  · omega
  · have := size_lt_of_field? _h
    omega
  · omega
  · have := size_lt_of_field? _h
    omega
  · have := size_lt_of_field? _h
    omega
  · omega
  · have := size_lt_of_mem_namedChildren (List.mem_filter.mp ‹_›).1
    omega

end

end Declaration
end CursorQuery
