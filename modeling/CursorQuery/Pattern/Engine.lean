import CursorQuery.Pattern.CharClass

/-!
This module contains what reading a pattern takes beyond its syntax: the characters that have a
property, the memory that a compiled pattern takes, and the limits on patterns.
-/

namespace CursorQuery
namespace Pattern

inductive Property where
  | named (name : String)
  | valued (name value : String)
  deriving Repr, DecidableEq

/-- The library that compiles patterns, as far as its tables and the size of its programs matter. -/
class Engine where
  property? : Property → Option CharClass
  /-- The size in bytes of the program that a pattern is compiled to. -/
  compiledSize : String → Nat

def nestLimit : Nat := 250

def sizeLimit : Nat := 10 * (1024 * 1024)

end Pattern
end CursorQuery
