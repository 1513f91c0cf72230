import CursorQuery.Cursor.Type
import CursorQuery.Source.Descent
import CursorQuery.Text.Split

/-!
This module contains types as declarations write them, before the names in them are looked up.
-/

namespace CursorQuery

/-- A type as it is written, without `const` and without what a declarator adds. -/
inductive WrittenType where
  | known (type : CType)
  | named (name : String)
  | tagged (fallback : TypeKind) (name : String)
  | template (name? : Option String) (arguments : String)
  deriving Repr, DecidableEq

structure TypeUse where
  base : WrittenType
  isConst : Bool
  derivations : List CType.Derivation := []
  deriving Repr, DecidableEq

namespace Declaration

/--
The classification of a built-in type by the words that write it. What is no word of the language is
the name of a type in its library.
-/
def builtinKind (words : List String) : TypeKind :=
  let longs := words.count "long"
  if words.contains "void" then .void
  else if words.contains "bool" then .bool
  else if words.any fun word => "char".toList.isPrefixOf word.toList || word == "wchar_t" then .char
  else if words.contains "float" then .float
  else if words.contains "double" then if longs > 0 then .longDouble else .double
  else if words.contains "short" then .short
  else if longs ≥ 2 then .longLong
  else if longs = 1 then .long
  else if words.contains "int" || words.contains "signed" || words.contains "unsigned" then .int
  else .typedefName

def builtinType (text : String) : CType where
  kind := builtinKind (Text.words text)
  spelling := Text.collapse text

def writtenType (source : Source) (tree : ParseTree) : WrittenType :=
  let text := source.textOf tree
  let plain (kind : TypeKind) : WrittenType := .known { kind, spelling := Text.collapse text }
  let tag (fallback : TypeKind) : WrittenType :=
    match tree.field? .name with
    | some name => .tagged fallback (Text.normalizeScoped (source.textOf name))
    | none => plain fallback
  match tree.kind with
  | .builtinType => .known (builtinType text)
  | .typeIdentifier | .qualifiedTypeIdentifier | .qualifiedIdentifier =>
    .named (Text.normalizeScoped text)
  | .enumeration => tag .enumeration
  | .record _ => tag .record
  | .placeholderType => plain .auto
  | .templateType =>
    .template ((tree.field? .name).map fun name => Text.normalizeScoped (source.textOf name))
      (((tree.field? .arguments).map fun list => Text.collapse (source.textOf list)).getD "")
  | _ => plain .unexposed

def hasKeyword (source : Source) (tree : ParseTree) (kind : NodeKind) (keyword : String) : Bool :=
  tree.namedChildren.any fun child =>
    child.kind == kind && Text.trim (source.textOf child) == keyword

def hasConst (source : Source) (tree : ParseTree) : Bool :=
  hasKeyword source tree .typeQualifier "const"

end Declaration
end CursorQuery
