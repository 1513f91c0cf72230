import CursorQuery.Cursor.Entity
import CursorQuery.Pattern.Parser

/-!
This module contains the leaf tests of queries: tests of one attribute of an entity. A test of an
attribute that the entity does not have fails.
-/

namespace CursorQuery

inductive Category where
  | classDecl
  | classDefinition
  | classTemplate
  | function
  | method
  | enumeration
  | namespaceDecl
  | translationUnit
  | definition
  | hasLocation
  deriving Repr, DecidableEq, Inhabited

namespace Category

def all : List Category :=
  [classDecl, classDefinition, classTemplate, function, method, enumeration, namespaceDecl,
    translationUnit, definition, hasLocation]

def name : Category → String
  | classDecl => "class"
  | classDefinition => "class_definition"
  | classTemplate => "class_template"
  | function => "function"
  | method => "method"
  | enumeration => "enum"
  | namespaceDecl => "namespace"
  | translationUnit => "translation_unit"
  | definition => "definition"
  | hasLocation => "has_location"

def ofName? (s : String) : Option Category :=
  all.find? fun category => category.name == s

/--
Reads a name as a user writes it: white space around it and the case of letters do not matter, and
`-` stands for `_`.
-/
def parse (s : String) : Except UnknownName Category :=
  let dashed := (Text.lowerAscii (Text.trim s)).toList
  match ofName? (String.ofList (dashed.map fun c => if c == '-' then '_' else c)) with
  | some category => .ok category
  | none => .error ⟨"category", s⟩

/-- Whether an entity belongs to a category. Class templates are no classes, and constructors and
destructors are no methods. -/
def holds (category : Category) (entity : Entity) : Bool :=
  match category with
  | .classDecl => isClass entity.kind
  | .classDefinition => isClass entity.kind && entity.isDefinition
  | .classTemplate => entity.kind == .classTemplate
  | .function => entity.kind == .functionDecl
  | .method => entity.kind == .method
  | .enumeration => entity.kind == .enumDecl
  | .namespaceDecl => entity.kind == .namespaceDecl
  | .translationUnit => entity.kind == .translationUnit
  | .definition => entity.isDefinition
  | .hasLocation => entity.location.any fun location => !location.file.isEmpty
where
  isClass (kind : CursorKind) : Bool :=
    kind == .classDecl || kind == .structDecl || kind == .unionDecl

end Category

inductive Leaf (ρ : Type) where
  | isA (family : Category)
  | kind (cursorKind : CursorKind)
  | access (level : Access)
  | name (pattern : ρ)
  | typename (spelling : String)
  | inFile (files : List String)
  deriving Repr, DecidableEq

namespace Leaf

variable [Pattern.Engine]

def holds (leaf : Leaf Regex) (entity : Entity) : Bool :=
  match leaf with
  | .isA family => family.holds entity
  | .kind k => entity.kind == k
  | .access level => entity.access == level
  | .name regex => regex.isMatch entity.spelling
  | .typename spelling => entity.type.any fun type => type.spelling == spelling
  | .inFile files => entity.fileName?.any fun name => files.contains name

/-- Reads the pattern of a test. A pattern has to match the whole spelling. The error is the pattern
that cannot be read. -/
def compile (leaf : Leaf String) : Except String (Leaf Regex) :=
  match leaf with
  | .isA family => .ok (.isA family)
  | .kind k => .ok (.kind k)
  | .access level => .ok (.access level)
  | .name pattern =>
    match Pattern.parse (Pattern.anchored pattern) with
    | .ok regex => .ok (.name regex)
    | .error _ => .error pattern
  | .typename spelling => .ok (.typename spelling)
  | .inFile files => .ok (.inFile files)

end Leaf

namespace Entity

def hasPrimitiveType (entity : Entity) : Bool :=
  entity.type.any CType.isPrimitive

def hasPrimitiveResult (entity : Entity) : Bool :=
  entity.resultType.any CType.isPrimitive

end Entity
end CursorQuery
