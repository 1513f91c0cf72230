import CursorQuery.Formula
import CursorQuery.Model.Walk
import CursorQuery.Query.Leaf

/-!
This module contains queries: formulas over the attributes of entities, which follow one of the two
parents of a node. A query is compiled before it is run, which fails at a name pattern that is not a
regular expression.
-/

namespace CursorQuery

inductive Step where
  | semanticParent
  | lexicalParent
  deriving Repr, DecidableEq, Inhabited

namespace Step

def name : Step → String
  | semanticParent => "semantic_parent"
  | lexicalParent => "lexical_parent"

def ofName? (s : String) : Option Step :=
  [semanticParent, lexicalParent].find? fun step => step.name == s

def follow {ν : Type} (g : Graph ν) : Step → ν → Option ν
  | semanticParent => g.semanticParent
  | lexicalParent => g.lexicalParent

end Step

abbrev Query := Formula Step (Leaf String)

abbrev CompiledQuery := Formula Step (Leaf Regex)

structure InvalidPattern where
  pattern : String
  deriving Repr, DecidableEq

namespace InvalidPattern

def summary (error : InvalidPattern) : String :=
  "invalid name pattern '" ++ error.pattern ++ "'"

end InvalidPattern

namespace Query

variable [Pattern.Engine]

def compileLeaf (leaf : Leaf String) : Except InvalidPattern (Leaf Regex) :=
  leaf.compile.mapError InvalidPattern.mk

/-- Reads the patterns of a query. The error is the first pattern from the left that cannot be read. -/
def compile (query : Query) : Except InvalidPattern CompiledQuery :=
  query.mapLeaves compileLeaf

end Query

namespace CompiledQuery

variable {ν : Type} [DecidableEq ν]

def holds (query : CompiledQuery) (g : Graph ν) (v : ν) : Bool :=
  query.eval g (Step.follow g) (fun leaf w => leaf.holds (g.entity w)) v

end CompiledQuery
end CursorQuery
