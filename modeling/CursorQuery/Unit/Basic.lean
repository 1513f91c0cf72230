import CursorQuery.Model.Walk
import CursorQuery.Source.Diagnostic
import CursorQuery.Text.Quoted
import CursorQuery.Unit.Lowering

/-!
This module contains translation units: the cursors of one source text together with what the parser
could not make sense of.
-/

namespace CursorQuery

structure TranslationUnit where
  source : Source
  options : Options
  cursors : Array Cursor
  childLists : Array (List Nat)
  diagnostics : List Diagnostic

namespace TranslationUnit

def rootCursor (source : Source) (tree : ParseTree) : Cursor where
  kind := .translationUnit
  spelling := source.path
  qualifiedName := ""
  span := some tree.span

def start (source : Source) (tree : ParseTree) : Builder where
  cursors := #[rootCursor source tree]
  childLists := #[[]]
  names := []

def build (source : Source) (tree : ParseTree) (options : Options) : Builder :=
  Lowering.lowerItems options (start source tree) (.inside Cursor.root) .noAccess []
    (Declaration.members source tree)

def ofParseTree (source : Source) (tree : ParseTree) (options : Options := {}) : TranslationUnit :=
  let built := build source tree options
  { source
    options
    cursors := built.cursors
    childLists := built.childLists
    diagnostics := tree.diagnostics source }

def size (unit : TranslationUnit) : Nat :=
  unit.cursors.size

def isEmpty (unit : TranslationUnit) : Bool :=
  unit.size ≤ 1

def text? (unit : TranslationUnit) (cursor : Cursor) : Option String :=
  cursor.span.map unit.source.slice

def inspect (unit : TranslationUnit) : String :=
  "TranslationUnit \x7b path: " ++ Quoted.path unit.source.path ++ ", nodes: " ++
    Nat.repr unit.size ++ ", diagnostics: " ++ Nat.repr unit.diagnostics.length ++ " \x7d"

def node? (unit : TranslationUnit) (id : Nat) : Option (Fin unit.cursors.size) :=
  if h : id < unit.cursors.size then some ⟨id, h⟩ else none

def cursor (unit : TranslationUnit) (v : Fin unit.cursors.size) : Cursor :=
  unit.cursors[v]

/-- The children of a node: the cursors in its child list that come after it. -/
def children (unit : TranslationUnit) (v : Fin unit.cursors.size) : List (Fin unit.cursors.size) :=
  ((unit.childLists[v.val]?.getD []).filterMap unit.node?).filter fun child => v < child

theorem lt_of_mem_children {unit : TranslationUnit} {v c : Fin unit.cursors.size}
    (h : c ∈ unit.children v) : v < c := by
  simpa using (List.mem_filter.mp h).2

def model (unit : TranslationUnit) : Model (Fin unit.cursors.size) where
  entity v := (unit.cursor v).toEntity
  children := unit.children
  children_wf := Model.wellFounded_of_lt fun _ _ => lt_of_mem_children
  semanticParent v := (unit.cursor v).semanticParent.bind unit.node?
  lexicalParent v := (unit.cursor v).lexicalParent.bind unit.node?
  above _ := List.finRange unit.cursors.size
  semanticParent_mem _ w _ := ⟨List.mem_finRange w, List.Subset.refl _⟩
  lexicalParent_mem _ w _ := ⟨List.mem_finRange w, List.Subset.refl _⟩

end TranslationUnit

namespace Cursor

def inspect (cursor : Cursor) : String :=
  cursor.kind.display ++ " " ++ Quoted.text cursor.spelling

end Cursor
end CursorQuery
