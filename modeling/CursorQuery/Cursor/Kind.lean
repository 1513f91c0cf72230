import CursorQuery.Cursor.Name

/-!
This module contains the kinds of cursors, their names, and the families of kinds that lowering asks
for.
-/

namespace CursorQuery

inductive CursorKind where
  | translationUnit
  | namespaceDecl
  | linkageSpec
  | classDecl
  | structDecl
  | unionDecl
  | classTemplate
  | enumDecl
  | enumConstantDecl
  | fieldDecl
  | varDecl
  | parmDecl
  | functionDecl
  | functionTemplate
  | method
  | constructor
  | destructor
  | typedefDecl
  | typeAliasDecl
  | usingDirective
  | usingDeclaration
  | accessSpecifier
  | baseSpecifier
  | templateTypeParameter
  | templateNonTypeParameter
  | templateTemplateParameter
  | compoundStmt
  | macroDefinition
  | inclusionDirective
  deriving Repr, DecidableEq, Inhabited

namespace CursorKind

def all : List CursorKind :=
  [translationUnit, namespaceDecl, linkageSpec, classDecl, structDecl, unionDecl, classTemplate,
    enumDecl, enumConstantDecl, fieldDecl, varDecl, parmDecl, functionDecl, functionTemplate, method,
    constructor, destructor, typedefDecl, typeAliasDecl, usingDirective, usingDeclaration,
    accessSpecifier, baseSpecifier, templateTypeParameter, templateNonTypeParameter,
    templateTemplateParameter, compoundStmt, macroDefinition, inclusionDirective]

def name : CursorKind → String
  | translationUnit => "translation_unit"
  | namespaceDecl => "namespace"
  | linkageSpec => "linkage_spec"
  | classDecl => "class_decl"
  | structDecl => "struct_decl"
  | unionDecl => "union_decl"
  | classTemplate => "class_template"
  | enumDecl => "enum_decl"
  | enumConstantDecl => "enum_constant_decl"
  | fieldDecl => "field_decl"
  | varDecl => "var_decl"
  | parmDecl => "parm_decl"
  | functionDecl => "function_decl"
  | functionTemplate => "function_template"
  | method => "cxx_method"
  | constructor => "constructor"
  | destructor => "destructor"
  | typedefDecl => "typedef_decl"
  | typeAliasDecl => "type_alias_decl"
  | usingDirective => "using_directive"
  | usingDeclaration => "using_declaration"
  | accessSpecifier => "cxx_access_specifier"
  | baseSpecifier => "cxx_base_specifier"
  | templateTypeParameter => "template_type_parameter"
  | templateNonTypeParameter => "template_non_type_parameter"
  | templateTemplateParameter => "template_template_parameter"
  | compoundStmt => "compound_stmt"
  | macroDefinition => "macro_definition"
  | inclusionDirective => "inclusion_directive"

def display (kind : CursorKind) : String :=
  Text.upperAscii kind.name

def ofName? (s : String) : Option CursorKind :=
  all.find? fun kind => kind.name == s

/-- Reads a name as a user writes it: white space around it and the case of letters do not matter. -/
def parse (s : String) : Except UnknownName CursorKind :=
  match ofName? (Text.lowerAscii (Text.trim s)) with
  | some kind => .ok kind
  | none => .error ⟨"cursor kind", s⟩

def isRecord : CursorKind → Bool
  | classDecl | structDecl | unionDecl | classTemplate => true
  | _ => false

def isFunctionLike : CursorKind → Bool
  | functionDecl | functionTemplate | method | constructor | destructor => true
  | _ => false

/-- The kinds of cursors in which names are named as if they stood in the cursor's semantic parent. -/
def isTransparent (kind : CursorKind) : Bool :=
  kind.isFunctionLike || kind == .compoundStmt || kind == .linkageSpec

end CursorKind
end CursorQuery
