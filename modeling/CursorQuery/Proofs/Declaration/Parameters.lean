import CursorQuery.Proofs.Declaration.Everywhere

/-!
This module contains what parameters stand where in the items of a parse tree. The parameters of
functions and those of templates are written alike in part, but they are never mixed up.
-/

namespace CursorQuery

def FunctionDeclarator.TakesOnlyOwn (declarator : FunctionDeclarator) : Prop :=
  ∀ parameter ∈ declarator.parameters, parameter.kind = .function

def Declared.TakesOnlyOwn : Declared → Prop
  | .function declarator => declarator.TakesOnlyOwn
  | _ => True

def DeclaratorList.TakesOnlyOwn (rest : DeclaratorList) : Prop :=
  ∀ declarator ∈ rest.declarators, declarator.declared.TakesOnlyOwn

/-- Parameters of templates stand in templates and parameters of functions in functions. -/
def Item.SortsParameters : Item → Prop
  | .template parameters _ => ∀ parameter ∈ parameters, parameter.kind ≠ .function
  | .record _ _ rest | .enumeration _ rest | .declaration _ rest => rest.TakesOnlyOwn
  | .function declarator .. => declarator.TakesOnlyOwn
  | _ => True

namespace Declaration

open ParseTree Item

variable {source : Source} {tree : ParseTree} {parameter : Parameter}

theorem kind_of_functionParameter? (h : functionParameter? source tree = some parameter) :
    parameter.kind = .function := by
  unfold functionParameter? at h
  split at h
  · obtain rfl := Option.some.inj h
    rfl
  · contradiction

theorem kind_of_templateParameter? (h : templateParameter? source tree = some parameter) :
    parameter.kind ≠ .function := by
  unfold templateParameter? at h
  dsimp only at h
  split at h
  · obtain rfl := Option.some.inj h
    simp
  · obtain rfl := Option.some.inj h
    simp
  · obtain rfl := Option.some.inj h
    simp
  · obtain rfl := Option.some.inj h
    simp
  · contradiction

theorem kind_of_mem_templateParameters (source : Source) (tree : ParseTree) :
    ∀ parameter ∈ templateParameters source tree, parameter.kind ≠ .function := by
  unfold templateParameters
  split
  · intro parameter hmem
    obtain ⟨child, -, hchild⟩ := List.mem_filterMap.mp hmem
    exact kind_of_templateParameter? hchild
  · simp

theorem takesOnlyOwn_functionDeclarator (source : Source) (tree : ParseTree) :
    (functionDeclarator source tree).TakesOnlyOwn := by
  unfold FunctionDeclarator.TakesOnlyOwn functionDeclarator
  dsimp only
  split
  · intro parameter hmem
    obtain ⟨child, -, hchild⟩ := List.mem_filterMap.mp hmem
    exact kind_of_functionParameter? hchild
  · simp

theorem takesOnlyOwn_declaratorList (source : Source) (tree : ParseTree) :
    (declaratorList source tree).TakesOnlyOwn := by
  unfold DeclaratorList.TakesOnlyOwn declaratorList
  rw [List.forall_mem_map]
  intro node _
  simp only [declarator, declared]
  split
  · trivial
  · split
    · exact takesOnlyOwn_functionDeclarator source _
    · trivial

theorem takesOnlyOwn_noDeclarators (tree : ParseTree) : (noDeclarators tree).TakesOnlyOwn := by
  simp [DeclaratorList.TakesOnlyOwn, noDeclarators]

theorem takesOnlyOwn_of_declares {source : Source} {tree specifier : ParseTree}
    {rest : DeclaratorList} (h : rest = noDeclarators specifier ∨ rest = declaratorList source tree) :
    rest.TakesOnlyOwn := by
  obtain rfl | rfl := h
  · exact takesOnlyOwn_noDeclarators specifier
  · exact takesOnlyOwn_declaratorList source tree

theorem sortsParameters_items (source : Source) (tree : ParseTree) :
    ∀ item ∈ items source tree, item.SortsParameters := by
  intro item hitem
  cases isDeclaredBy_of_mem_items item hitem with
  | template => exact kind_of_mem_templateParameters source tree
  | record _ _ hrest | enumeration _ _ hrest => exact takesOnlyOwn_of_declares hrest
  | declaration => exact takesOnlyOwn_declaratorList source tree
  | function => exact takesOnlyOwn_functionDeclarator source _
  | simple hsimple =>
    cases item with
    | accessLabel | typeAlias | usingName | inclusion | macroDefinition => trivial
    | _ => contradiction
  | _ => trivial

theorem everywhere_sortsParameters_members (source : Source) (tree : ParseTree) :
    ∀ item ∈ members source tree, item.Everywhere SortsParameters := by
  apply everywhere_members
  · intro item hlabel
    cases item with
    | accessLabel level? site => trivial
    | _ => contradiction
  · exact fun node _ => sortsParameters_items source node

end Declaration
end CursorQuery
