/-!
This module contains types as cursors describe them: a coarse classification and a spelling.
-/

namespace CursorQuery

inductive TypeKind where
  | void
  | bool
  | char
  | short
  | int
  | long
  | longLong
  | float
  | double
  | longDouble
  | auto
  | record
  | enumeration
  | typedefName
  | pointer
  | lvalueReference
  | rvalueReference
  | array
  | function
  | unexposed
  deriving Repr, DecidableEq, Inhabited

namespace TypeKind

def all : List TypeKind :=
  [void, bool, char, short, int, long, longLong, float, double, longDouble, auto, record,
    enumeration, typedefName, pointer, lvalueReference, rvalueReference, array, function, unexposed]

def name : TypeKind → String
  | void => "void"
  | bool => "bool"
  | char => "char"
  | short => "short"
  | int => "int"
  | long => "long"
  | longLong => "long_long"
  | float => "float"
  | double => "double"
  | longDouble => "long_double"
  | auto => "auto"
  | record => "record"
  | enumeration => "enum"
  | typedefName => "typedef"
  | pointer => "pointer"
  | lvalueReference => "l_value_reference"
  | rvalueReference => "r_value_reference"
  | array => "array"
  | function => "function_proto"
  | unexposed => "unexposed"

def ofName? (s : String) : Option TypeKind :=
  all.find? fun kind => kind.name == s

def isBuiltin : TypeKind → Bool
  | void | bool | char | short | int | long | longLong | float | double | longDouble => true
  | _ => false

end TypeKind

structure CType where
  kind : TypeKind
  spelling : String
  isConst : Bool := false
  deriving Repr, DecidableEq, Inhabited

namespace CType

def void : CType where
  kind := .void
  spelling := "void"

def isPrimitive (type : CType) : Bool :=
  type.kind.isBuiltin

/-- The type with `const` in front; a type that is `const` already stays as it is. -/
def withConst (type : CType) : CType :=
  if type.isConst then type else { type with spelling := "const " ++ type.spelling, isConst := true }

inductive Derivation where
  | pointer
  | lvalueReference
  | rvalueReference
  | array (size : Option String)
  deriving Repr, DecidableEq

def derive (type : CType) (derivation : Derivation) : CType :=
  match derivation with
  | .pointer => { kind := .pointer, spelling := type.spelling ++ " *" }
  | .lvalueReference => { kind := .lvalueReference, spelling := type.spelling ++ " &" }
  | .rvalueReference => { kind := .rvalueReference, spelling := type.spelling ++ " &&" }
  | .array size =>
    { kind := .array, spelling := type.spelling ++ " [" ++ size.getD "" ++ "]" }

end CType
end CursorQuery
