import Mathlib.Logic.Relation
import CursorQuery.Proofs.Lowering.Recursion

/-!
This module contains how facts about the items that single nodes declare become facts about all items
of a parse tree, however deep they lie in others.
-/

namespace CursorQuery

namespace ParseTree

/-- A node occurs in a tree, possibly as its root. -/
def Contains (tree node : ParseTree) : Prop :=
  Relation.ReflTransGen (fun parent child => child ∈ parent.children) tree node

variable {root tree child : ParseTree}

theorem Contains.of_mem_namedChildren (h : root.Contains tree) (hchild : child ∈ tree.namedChildren) :
    root.Contains child :=
  h.tail (List.mem_filter.mp hchild).1

theorem Contains.of_field? {field : Field} (h : root.Contains tree)
    (hchild : tree.field? field = some child) : root.Contains child :=
  h.tail (List.mem_of_find?_eq_some hchild)

end ParseTree

namespace Item

inductive Everywhere (P : Item → Prop) : Item → Prop where
  | intro {item : Item} (here : P item) (inside : ∀ inner ∈ item.inside, Everywhere P inner) :
      Everywhere P item

theorem Everywhere.here {P : Item → Prop} {item : Item} (h : item.Everywhere P) : P item := by
  cases h with
  | intro here _ => exact here

theorem Everywhere.of_mem_inside {P : Item → Prop} {item : Item} (h : item.Everywhere P) :
    ∀ inner ∈ item.inside, inner.Everywhere P := by
  cases h with
  | intro _ inside => exact inside

def isLabel : Item → Bool
  | .accessLabel .. => true
  | _ => false

def isTemplate : Item → Bool
  | .template .. => true
  | _ => false

/-- Labels do not stand directly in templates. -/
def IsPlain (item : Item) : Prop :=
  item.isTemplate → ∀ inner ∈ item.inside, inner.isLabel = false

end Item

namespace Declaration

open ParseTree Item

def childItems (source : Source) (child : ParseTree) : List Item :=
  match child.kind with
  | .accessSpecifier => [.accessLabel (Access.ofLabel? (source.textOf child)) (site source child)]
  | .region => members source child
  | _ => items source child

theorem members_eq_flatMap (source : Source) (tree : ParseTree) :
    members source tree = tree.namedChildren.flatMap (childItems source) := by
  have hchildren : members source tree =
      tree.namedChildren.attach.unattach.flatMap (childItems source) := by
    rw [members]
    exact List.flatMap_subtype fun _ _ => rfl
  rw [hchildren, List.unattach_attach]

variable {P : Item → Prop} {source : Source} {root tree : ParseTree} {item : Item}

def ReadBelow (source : Source) (tree : ParseTree) (item : Item) : Prop :=
  ∃ node, tree.Contains node ∧ node.size < tree.size
    ∧ (item ∈ members source node ∨ item ∈ items source node)

theorem readBelow_bodyMembers (source : Source) (tree : ParseTree) :
    ∀ item ∈ bodyMembers source tree, ReadBelow source tree item := by
  intro item hitem
  rw [bodyMembers] at hitem
  split at hitem
  · next body hbody =>
    exact ⟨body, Contains.of_field? .refl hbody, size_lt_of_field? hbody, .inl hitem⟩
  · contradiction

theorem ReadBelow.of_field? {field : Field} {child : ParseTree}
    (hchild : tree.field? field = some child) (h : ReadBelow source child item) :
    ReadBelow source tree item := by
  obtain ⟨node, hcontains, hlt, hmem⟩ := h
  exact ⟨node, .trans (Contains.of_field? .refl hchild) hcontains,
    Nat.lt_trans hlt (size_lt_of_field? hchild), hmem⟩

theorem exists_of_mem_members (h : item ∈ members source tree) :
    item.isLabel ∨ ReadBelow source tree item := by
  rw [members] at h
  obtain ⟨⟨child, hchild⟩, -, hmem⟩ := List.mem_flatMap.mp h
  have hinside : tree.Contains child := Contains.of_mem_namedChildren .refl hchild
  have hlt := size_lt_of_mem_namedChildren hchild
  dsimp only at hmem
  split at hmem
  · obtain rfl := List.mem_singleton.mp hmem
    exact .inl rfl
  · exact .inr ⟨child, hinside, hlt, .inl hmem⟩
  · exact .inr ⟨child, hinside, hlt, .inr hmem⟩

structure Declares (source : Source) (tree : ParseTree) (item : Item) : Prop where
  isLabel : item.isLabel = false
  inside : ∀ inner ∈ item.inside, ReadBelow source tree inner
  template : item.isTemplate → ∀ inner ∈ item.inside, ∃ node, inner ∈ items source node

theorem Declares.of_inside_eq_nil (hlabel : item.isLabel = false) (hinside : item.inside = []) :
    Declares source tree item where
  isLabel := hlabel
  inside := by simp [hinside]
  template := by simp [hinside]

theorem Declares.of_members (hlabel : item.isLabel = false) (htemplate : item.isTemplate = false)
    (hinside : ∀ inner ∈ item.inside, ReadBelow source tree inner) : Declares source tree item where
  isLabel := hlabel
  inside := hinside
  template := by simp [htemplate]

/-- The specifier is the node itself or the type of what the node declares. -/
def Specifies (tree specifier : ParseTree) : Prop :=
  specifier = tree ∨ tree.field? .type = some specifier

theorem Specifies.contains {specifier : ParseTree} (h : Specifies tree specifier) :
    tree.Contains specifier := by
  cases h with
  | inl h =>
    rw [h]
    exact .refl
  | inr h => exact Contains.of_field? .refl h

/-- The items that nodes declare. -/
inductive IsDeclaredBy (source : Source) (tree : ParseTree) : Item → Prop where
  | namespaceBlock (names : List String) (location : Location) :
      IsDeclaredBy source tree
        (.namespaceBlock names { location, span := tree.span } (bodyMembers source tree))
  | linkageMembers :
      IsDeclaredBy source tree (.linkageBlock (site source tree) (bodyMembers source tree))
  | linkageBody {body : ParseTree} (hbody : tree.field? .body = some body) :
      IsDeclaredBy source tree (.linkageBlock (site source tree) (items source body))
  | linkageNone : IsDeclaredBy source tree (.linkageBlock (site source tree) [])
  | template (hkind : tree.kind = .templateDeclaration) :
      IsDeclaredBy source tree
        (.template (templateParameters source tree)
          ((tree.namedChildren.filter (isTemplatable ·.kind)).flatMap (items source)))
  | record {specifier : ParseTree} {keyword : RecordKeyword} {rest : DeclaratorList}
      (hspecifier : Specifies tree specifier) (hkind : specifier.kind = .record keyword)
      (hrest : rest = noDeclarators specifier ∨ rest = declaratorList source tree) :
      IsDeclaredBy source tree
        (.record (recordHead source keyword specifier) (bodyMembers source specifier) rest)
  | enumeration {specifier : ParseTree} {rest : DeclaratorList}
      (hspecifier : Specifies tree specifier) (hkind : specifier.kind = .enumeration)
      (hrest : rest = noDeclarators specifier ∨ rest = declaratorList source tree) :
      IsDeclaredBy source tree (.enumeration (enumHead source specifier) rest)
  | declaration (base? : Option WrittenType) :
      IsDeclaredBy source tree (.declaration base? (declaratorList source tree))
  | function {declarator : ParseTree} {body? : Option ParseTree} (result? : Option TypeUse)
      (hdeclarator : tree.field? .declarator = some declarator)
      (hkind : (core declarator).kind = .functionDeclarator)
      (hbody : (tree.field? .body).filter (·.kind == .compoundStatement) = body?) :
      IsDeclaredBy source tree
        (.function (functionDeclarator source (core declarator)) result? tree.span
          (body?.map (site source)) (if body?.isSome then bodyMembers source tree else []))
  | simple {item : Item} (hsimple : item.isSimple) (hlabel : item.isLabel = false) :
      IsDeclaredBy source tree item

theorem isDeclaredBy_of_mem_typedefs :
    ∀ item ∈ typedefs source tree, IsDeclaredBy source tree item := by
  unfold typedefs
  rw [List.forall_mem_map]
  exact fun _ _ => .simple rfl rfl

theorem isDeclaredBy_of_mem_items : ∀ item ∈ items source tree, IsDeclaredBy source tree item := by
  rw [items]
  split
  · exact List.forall_mem_singleton.mpr (.namespaceBlock _ _)
  · split
    · next body hfield =>
      split
      · exact List.forall_mem_singleton.mpr .linkageMembers
      · exact List.forall_mem_singleton.mpr (.linkageBody hfield)
    · exact List.forall_mem_singleton.mpr .linkageNone
  · next keyword hkind => exact List.forall_mem_singleton.mpr (.record (.inl rfl) hkind (.inl rfl))
  · next hkind => exact List.forall_mem_singleton.mpr (.enumeration (.inl rfl) hkind (.inl rfl))
  · dsimp only
    split
    · exact List.forall_mem_singleton.mpr (.declaration none)
    · next type htype =>
      split
      · next keyword hkind _ =>
        exact List.forall_mem_singleton.mpr (.record (.inr htype) hkind (.inr rfl))
      · next hkind _ => exact List.forall_mem_singleton.mpr (.enumeration (.inr htype) hkind (.inr rfl))
      · exact List.forall_mem_singleton.mpr (.declaration _)
  · refine List.forall_mem_append.mpr ⟨?_, isDeclaredBy_of_mem_typedefs⟩
    split
    · simp
    · next type htype =>
      split
      · next keyword hkind _ =>
        exact List.forall_mem_singleton.mpr (.record (.inr htype) hkind (.inl rfl))
      · next hkind _ => exact List.forall_mem_singleton.mpr (.enumeration (.inr htype) hkind (.inl rfl))
      · simp
  · split
    · simp
    · next declarator hdeclarator =>
      dsimp only
      split
      · next hkind =>
        exact List.forall_mem_singleton.mpr (.function _ hdeclarator (beq_iff_eq.mp hkind) rfl)
      · simp
  · next hkind =>
    rw [List.flatMap_subtype (g := items source) (fun _ _ => rfl), List.unattach_attach]
    exact List.forall_mem_singleton.mpr (.template hkind)
  · unfold aliasItems
    split
    · exact List.forall_mem_singleton.mpr (.simple rfl rfl)
    · simp
  · unfold usingItems
    split
    · exact List.forall_mem_singleton.mpr (.simple rfl rfl)
    · simp
  · unfold inclusionItems
    split
    · exact List.forall_mem_singleton.mpr (.simple rfl rfl)
    · simp
  · unfold macroItems
    split
    · exact List.forall_mem_singleton.mpr (.simple rfl rfl)
    · simp
  · simp

theorem readBelow_bodyMembers_of_specifies {specifier : ParseTree} (h : Specifies tree specifier) :
    ∀ item ∈ bodyMembers source specifier, ReadBelow source tree item := by
  intro item hitem
  have hbelow := readBelow_bodyMembers source specifier item hitem
  cases h with
  | inl h =>
    rw [← h]
    exact hbelow
  | inr h => exact hbelow.of_field? h

theorem declares_items (source : Source) (tree : ParseTree) :
    ∀ item ∈ items source tree, Declares source tree item := by
  intro item hitem
  have hbody := readBelow_bodyMembers source tree
  cases isDeclaredBy_of_mem_items item hitem with
  | namespaceBlock | linkageMembers => exact .of_members rfl rfl hbody
  | @linkageBody body hfield =>
    refine .of_members rfl rfl fun inner hinner => ?_
    exact ⟨body, Contains.of_field? .refl hfield, size_lt_of_field? hfield, .inr hinner⟩
  | template hkind =>
    refine ⟨rfl, fun inner hinner => ?_, fun _ inner hinner => ?_⟩
    · obtain ⟨child, hchild, hmem⟩ := List.mem_flatMap.mp hinner
      have hnamed := (List.mem_filter.mp hchild).1
      exact ⟨child, Contains.of_mem_namedChildren .refl hnamed, size_lt_of_mem_namedChildren hnamed,
        .inr hmem⟩
    · obtain ⟨child, -, hmem⟩ := List.mem_flatMap.mp hinner
      exact ⟨child, hmem⟩
  | record hspecifier => exact .of_members rfl rfl (readBelow_bodyMembers_of_specifies hspecifier)
  | linkageNone | enumeration | declaration => exact .of_inside_eq_nil rfl rfl
  | function =>
    refine .of_members rfl rfl ?_
    rw [Item.inside]
    split
    · exact hbody
    · simp
  | simple hsimple hlabel => exact .of_inside_eq_nil hlabel (inside_of_isSimple hsimple)

theorem everywhere_of_isLabel (hlabel : item.isLabel) (h : P item) : item.Everywhere P := by
  cases item with
  | accessLabel level? site => exact ⟨h, by simp [inside]⟩
  | _ => contradiction

theorem everywhere_of_readBelow (hlabel : ∀ item : Item, item.isLabel → P item)
    (hitems : ∀ node, root.Contains node → ∀ item ∈ items source node, P item)
    (htree : root.Contains tree) (h : ReadBelow source tree item) : item.Everywhere P := by
  induction hsize : tree.size using Nat.strongRecOn generalizing tree item with
  | ind size ih =>
    obtain ⟨node, hcontains, hlt, hmem⟩ := h
    have hnode : root.Contains node := .trans htree hcontains
    have hbelow : ∀ inner, ReadBelow source node inner → inner.Everywhere P :=
      fun _ hinner => ih node.size (by omega) hnode hinner rfl
    cases hmem with
    | inl hmem =>
      cases exists_of_mem_members hmem with
      | inl h => exact everywhere_of_isLabel h (hlabel item h)
      | inr h => exact hbelow item h
    | inr hmem =>
      have hdeclares := declares_items source node item hmem
      exact ⟨hitems node hnode item hmem, fun inner hinner =>
        hbelow inner (hdeclares.inside inner hinner)⟩

theorem everywhere_members (hlabel : ∀ item : Item, item.isLabel → P item)
    (hitems : ∀ node, tree.Contains node → ∀ item ∈ items source node, P item) :
    ∀ item ∈ members source tree, item.Everywhere P := by
  intro item hitem
  cases exists_of_mem_members hitem with
  | inl h => exact everywhere_of_isLabel h (hlabel item h)
  | inr h => exact everywhere_of_readBelow hlabel hitems .refl h

theorem everywhere_isPlain_members (source : Source) (tree : ParseTree) :
    ∀ item ∈ members source tree, item.Everywhere IsPlain := by
  apply everywhere_members
  · intro item hlabel htemplate
    cases item with
    | _ => contradiction
  · intro node _ item hitem htemplate inner hinner
    have hdeclares := declares_items source node item hitem
    obtain ⟨node', hnode'⟩ := hdeclares.template htemplate inner hinner
    exact (declares_items source node' inner hnode').isLabel

end Declaration
end CursorQuery
