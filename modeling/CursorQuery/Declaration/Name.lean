import CursorQuery.Character.Alphabetic
import CursorQuery.Source.Descent

/-!
This module contains the names that declarations introduce: a bare name and the scopes that are
written in front of it.
-/

namespace CursorQuery

/-- A name and the scopes written in front of it, outermost first. -/
structure ScopedName where
  scopes : List String := []
  name : String
  deriving Repr, DecidableEq, Inhabited

namespace Declaration

open ParseTree

def withoutSpaces (s : String) : String :=
  String.ofList (s.toList.filter (· != ' '))

/--
The name of an operator, from the words that write it: a symbol follows `operator` directly, a word
after a space.
-/
def operatorName (words : String) : String :=
  let rest := Text.trimChars (Text.dropRepeated "operator".toList words.toList)
  if rest.head?.any Character.isAlphabetic then "operator " ++ String.ofList rest
  else "operator" ++ withoutSpaces (String.ofList rest)

def simpleName (source : Source) (tree : ParseTree) : String :=
  let words := Text.collapse (source.textOf tree)
  match tree.kind with
  | .operatorName => operatorName words
  | .destructorName => withoutSpaces words
  | _ => words

def scopesOf (source : Source) (scope? : Option ParseTree) : List String :=
  match scope? with
  | none => []
  | some scope =>
    Text.scopedParts (String.ofList ((source.textOf scope).toList.takeWhile (· != '<')))

def qualifiedName (source : Source) (tree : ParseTree) : ScopedName :=
  let scopes := scopesOf source (tree.field? .scope)
  match _h : tree.field? .name with
  | none => { scopes, name := simpleName source tree }
  | some inner =>
    if inner.kind == .qualifiedIdentifier then
      let rest := qualifiedName source inner
      { rest with scopes := scopes ++ rest.scopes }
    else { scopes, name := simpleName source inner }
termination_by tree.size
decreasing_by exact size_lt_of_field? _h

def firstIdentifier? (tree : ParseTree) : Option ParseTree :=
  tree.namedChildren.attach.findSome? fun ⟨child, _⟩ =>
    if child.kind.isIdentifier then some child
    else if child.kind == .parameterList then none
    else firstIdentifier? child
termination_by tree.size
decreasing_by exact size_lt_of_mem_namedChildren ‹_›

def declaratorName (source : Source) (tree : ParseTree) : ScopedName :=
  match tree.kind with
  | .qualifiedIdentifier => qualifiedName source tree
  | .templateFunction => { name := simpleName source ((tree.field? .name).getD tree) }
  | .identifier | .typeIdentifier | .operatorName | .destructorName =>
    { name := simpleName source tree }
  | _ =>
    match firstIdentifier? tree with
    | some identifier => { name := simpleName source identifier }
    | none => { name := "" }

/-- The name of a record or an enumeration; template arguments of a bare name do not count. -/
def tagName (source : Source) (name? : Option ParseTree) : ScopedName :=
  match name? with
  | none => { name := "" }
  | some tree =>
    let written :=
      match tree.kind with
      | .templateType => (tree.field? .name).getD tree
      | _ => tree
    let parts := Text.scopedParts (source.textOf written)
    { scopes := parts.dropLast, name := parts.getLast?.getD "" }

def namespaceNames (source : Source) (tree : ParseTree) : List String :=
  let bare (part : List Char) : List Char :=
    Text.trimChars (Text.dropRepeated "inline ".toList (Text.trimChars part))
  (((Text.splitColons (source.textOf tree).toList).map bare).filter (!·.isEmpty)).map
    String.ofList

end Declaration
end CursorQuery
