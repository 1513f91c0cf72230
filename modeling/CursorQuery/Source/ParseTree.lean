import CursorQuery.Source.Text

/-!
This module contains parse trees: what the grammar makes of a source text. Nodes carry the name that
the grammar gives them; here they are sorted by what they are to the reader of declarations, and only
the fields that it asks for are told apart.
-/

namespace CursorQuery

inductive RecordKeyword where
  | classKey
  | structKey
  | unionKey
  deriving Repr, DecidableEq

inductive NodeKind where
  | accessSpecifier
  | region
  | namespaceDefinition
  | record (keyword : RecordKeyword)
  | enumeration
  | declaration
  | functionDefinition
  | templateDeclaration
  | linkage
  | typeDefinition
  | aliasDeclaration
  | usingDeclaration
  | inclusion
  | macroDefinition
  | declarationList
  | compoundStatement
  | baseClause
  | enumerator
  | typeParameter
  | optionalTypeParameter
  | templateParameter
  | templateParameterList
  | parameter
  | parameterList
  | ellipsis
  | functionDeclarator
  | pointerDeclarator
  | referenceDeclarator
  | arrayDeclarator
  | initDeclarator
  | wrappedDeclarator
  | identifier
  | typeIdentifier
  | qualifiedIdentifier
  | qualifiedTypeIdentifier
  | templateType
  | templateFunction
  | operatorName
  | operatorCast
  | destructorName
  | builtinType
  | placeholderType
  | typeQualifier
  | storageClass
  | namespaceKeyword
  | other
  deriving Repr, DecidableEq

namespace NodeKind

def ofLabel (label : String) : NodeKind :=
  match label with
  | "access_specifier" => accessSpecifier
  | "preproc_if" | "preproc_ifdef" | "preproc_else" | "preproc_elif" | "preproc_elifdef" => region
  | "ERROR" => region
  | "namespace_definition" => namespaceDefinition
  | "class_specifier" => record .classKey
  | "struct_specifier" => record .structKey
  | "union_specifier" => record .unionKey
  | "enum_specifier" => enumeration
  | "declaration" | "field_declaration" => declaration
  | "function_definition" => functionDefinition
  | "template_declaration" => templateDeclaration
  | "linkage_specification" => linkage
  | "type_definition" => typeDefinition
  | "alias_declaration" => aliasDeclaration
  | "using_declaration" => usingDeclaration
  | "preproc_include" => inclusion
  | "preproc_def" | "preproc_function_def" => macroDefinition
  | "declaration_list" => declarationList
  | "compound_statement" => compoundStatement
  | "base_class_clause" => baseClause
  | "enumerator" => enumerator
  | "type_parameter_declaration" | "variadic_type_parameter_declaration" => typeParameter
  | "optional_type_parameter_declaration" => optionalTypeParameter
  | "template_template_parameter_declaration" => templateParameter
  | "template_parameter_list" => templateParameterList
  | "parameter_declaration" | "optional_parameter_declaration" => parameter
  | "variadic_parameter_declaration" => parameter
  | "parameter_list" => parameterList
  | "variadic_parameter" | "..." => ellipsis
  | "function_declarator" => functionDeclarator
  | "pointer_declarator" => pointerDeclarator
  | "reference_declarator" => referenceDeclarator
  | "array_declarator" => arrayDeclarator
  | "init_declarator" => initDeclarator
  | "parenthesized_declarator" | "attributed_declarator" => wrappedDeclarator
  | "identifier" | "field_identifier" => identifier
  | "type_identifier" => typeIdentifier
  | "qualified_identifier" => qualifiedIdentifier
  | "qualified_type_identifier" => qualifiedTypeIdentifier
  | "template_type" => templateType
  | "template_function" => templateFunction
  | "operator_name" => operatorName
  | "operator_cast" => operatorCast
  | "destructor_name" => destructorName
  | "primitive_type" | "sized_type_specifier" => builtinType
  | "placeholder_type_specifier" => placeholderType
  | "type_qualifier" => typeQualifier
  | "storage_class_specifier" => storageClass
  | "namespace" => namespaceKeyword
  | _ => other

def isIdentifier : NodeKind → Bool
  | identifier | typeIdentifier => true
  | _ => false

end NodeKind

inductive Field where
  | arguments
  | body
  | declarator
  | name
  | parameters
  | path
  | scope
  | size
  | type
  deriving Repr, DecidableEq

namespace Field

def ofLabel? (label : String) : Option Field :=
  match label with
  | "arguments" => some arguments
  | "body" => some body
  | "declarator" => some declarator
  | "name" => some name
  | "parameters" => some parameters
  | "path" => some path
  | "scope" => some scope
  | "size" => some size
  | "type" => some type
  | _ => none

end Field

structure NodeInfo where
  label : String
  isNamed : Bool := true
  isMissing : Bool := false
  hasError : Bool := false
  field : Option Field := none
  span : Span
  deriving Repr, DecidableEq

inductive ParseTree where
  | node (info : NodeInfo) (children : List ParseTree)

namespace ParseTree

def info : ParseTree → NodeInfo
  | node info _ => info

def children : ParseTree → List ParseTree
  | node _ children => children

def kind (tree : ParseTree) : NodeKind :=
  NodeKind.ofLabel tree.info.label

def span (tree : ParseTree) : Span :=
  tree.info.span

def namedChildren (tree : ParseTree) : List ParseTree :=
  tree.children.filter (·.info.isNamed)

def fields (tree : ParseTree) (field : Field) : List ParseTree :=
  tree.children.filter (·.info.field == some field)

def field? (tree : ParseTree) (field : Field) : Option ParseTree :=
  tree.children.find? (·.info.field == some field)

/--
The trees whose nodes are listed in pre-order with their depths. A node's children are the trees
after it that lie deeper.
-/
def forestOfPreorder (nodes : List (Nat × NodeInfo)) : List (Nat × ParseTree) :=
  nodes.foldr place []
where
  place (entry : Nat × NodeInfo) (later : List (Nat × ParseTree)) : List (Nat × ParseTree) :=
    let below := later.takeWhile fun (depth, _) => entry.1 < depth
    let beside := later.dropWhile fun (depth, _) => entry.1 < depth
    (entry.1, node entry.2 (below.map (·.2))) :: beside

def ofPreorder? (nodes : List (Nat × NodeInfo)) : Option ParseTree :=
  (forestOfPreorder nodes).head?.map (·.2)

end ParseTree

namespace Source

def textOf (source : Source) (tree : ParseTree) : String :=
  source.slice tree.span

def locationOf (source : Source) (tree : ParseTree) : Location :=
  source.location tree.span.start

end Source
end CursorQuery
