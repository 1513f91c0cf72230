import CursorQuery.Proofs.Lowering.Nesting

/-!
This module contains what is put into a cursor. The children of a cursor are fixed once everything inside
of it has been lowered, so it is enough to know what each step of the lowering puts into the scope that
it works in.
-/

namespace CursorQuery

namespace Builder

variable {α : Type} {b b₁ b₂ b' : Builder} {scope : Scope} {addition : Addition} {id opened : Nat}

structure Linked (b : Builder) : Prop where
  size_childLists : b.childLists.size = b.nextId
  lt_of_mem : ∀ id, ∀ c ∈ b.childrenOf id, c < b.nextId

theorem Linked.add (hb : b.Linked) (hscope : scope.lexical < b.nextId) (addition : Addition) :
    (b.add scope addition).Linked where
  size_childLists := size_childLists_add_eq hb.size_childLists
  lt_of_mem id c hc := by
    rw [nextId_add]
    rw [childrenOf_add hb.size_childLists hscope] at hc
    split at hc
    · rw [List.mem_append, List.mem_singleton] at hc
      cases hc with
      | inl hc => exact Nat.lt_succ_of_lt (hb.lt_of_mem id c hc)
      | inr hc => omega
    · exact Nat.lt_succ_of_lt (hb.lt_of_mem id c hc)

def viewChildren (view : Cursor → α) (b : Builder) (id : Nat) : List α :=
  (b.childrenOf id).map fun c => view (b.cursor c)

theorem Linked.viewChildren_eq (hb : b.Linked) (hext : b.Extends b') (view : Cursor → α)
    (hchildren : b'.childrenOf id = b.childrenOf id) :
    b'.viewChildren view id = b.viewChildren view id := by
  unfold viewChildren
  rw [hchildren]
  apply List.map_congr_left
  intro c hc
  rw [hext.cursor_eq c (hb.lt_of_mem id c hc)]

/--
Children that look like this are put into a cursor, with everything inside of them. Every cursor that is
new has the property, together with its own children.
-/
structure Gains (view : Cursor → α) (P : Cursor → List α → Prop) (b : Builder) (opened : Nat)
    (gained : List α) (b' : Builder) : Prop extends b.GrowsIn opened b' where
  linked : b'.Linked
  viewChildren_eq : b'.viewChildren view opened = b.viewChildren view opened ++ gained
  holds : ∀ id, b.nextId ≤ id → id < b'.nextId → P (b'.cursor id) (b'.viewChildren view id)

end Builder

namespace Scope

variable {α : Type} {view : Cursor → α} {P : Cursor → List α → Prop} {b b' : Builder}
  {scope inner : Scope} {gained : List α} {opened : Nat}

structure ReadyIn (scope : Scope) (b : Builder) : Prop extends b.Linked where
  lexical_lt : scope.lexical < b.nextId

theorem ReadyIn.enter (hscope : scope.ReadyIn b) (addition : Addition)
    (hlexical : inner.lexical = b.nextId) : inner.ReadyIn (b.add scope addition) where
  toLinked := hscope.toLinked.add hscope.lexical_lt addition
  lexical_lt := by
    rw [hlexical, Builder.nextId_add]
    omega

theorem ReadyIn.of_gains (hscope : scope.ReadyIn b) (h : b.Gains view P opened gained b') :
    scope.ReadyIn b' where
  toLinked := h.linked
  lexical_lt := Nat.lt_of_lt_of_le hscope.lexical_lt h.nextId_le

end Scope

namespace Builder.Gains

variable {α : Type} {view : Cursor → α} {P : Cursor → List α → Prop} {b b₁ b₂ b' : Builder}
  {scope : Scope} {addition : Addition} {opened : Nat} {gained gained₁ gained₂ : List α}

theorem refl (hb : b.Linked) (opened : Nat) : b.Gains view P opened [] b where
  toGrowsIn := .refl hb.size_childLists
  linked := hb
  viewChildren_eq := (List.append_nil _).symm
  holds := by omega

theorem trans (hopened : opened < b.nextId) (h₁ : b.Gains view P opened gained₁ b₁)
    (h₂ : b₁.Gains view P opened gained₂ b₂) :
    b.Gains view P opened (gained₁ ++ gained₂) b₂ where
  toGrowsIn := h₁.toGrowsIn.trans h₂.toGrowsIn
  linked := h₂.linked
  viewChildren_eq := by rw [h₂.viewChildren_eq, h₁.viewChildren_eq, List.append_assoc]
  holds id hid hlt := by
    by_cases hnew : b₁.nextId ≤ id
    · exact h₂.holds id hnew hlt
    · -- What the first step has put in is closed: the second one puts nothing into it.
      have hchildren := h₂.childrenOf_eq id (by omega) (by omega)
      rw [h₁.linked.viewChildren_eq h₂.toExtends view hchildren, h₂.cursor_eq id (by omega)]
      exact h₁.holds id hid (by omega)

theorem enclose (hscope : scope.ReadyIn b)
    (h : (b.add scope addition).Gains view P b.nextId gained b') (hP : P (addition.placed b scope) gained) :
    b.Gains view P scope.lexical [view (addition.placed b scope)] b' where
  toGrowsIn := h.toGrowsIn.of_inner hscope.size_childLists hscope.lexical_lt
  linked := h.linked
  viewChildren_eq := by
    have hext := (b.extends_add scope addition).trans h.toExtends
    have hold : (b.childrenOf scope.lexical).map (fun c => view (b'.cursor c)) =
        b.viewChildren view scope.lexical := by
      apply List.map_congr_left
      intro c hc
      rw [hext.cursor_eq c (hscope.lt_of_mem _ c hc)]
    rw [viewChildren, h.childrenOf_inner hscope.size_childLists hscope.lexical_lt hscope.lexical_lt,
      if_pos rfl, List.map_append, hold, List.map_singleton, h.toExtends.placed_eq]
  holds id hid hlt := by
    by_cases hnew : id = b.nextId
    · have hnone : (b.add scope addition).viewChildren view b.nextId = [] := by
        rw [viewChildren, childrenOf_add_nextId hscope.size_childLists hscope.lexical_lt]
        rfl
      rw [hnew, h.toExtends.placed_eq, h.viewChildren_eq, hnone]
      exact hP
    · exact h.holds id (by rw [nextId_add]; omega) hlt

theorem leaf (hscope : scope.ReadyIn b) (hP : P (addition.placed b scope) []) :
    b.Gains view P scope.lexical [view (addition.placed b scope)] (b.add scope addition) :=
  .enclose hscope (.refl (hscope.toLinked.add hscope.lexical_lt addition) _) hP

theorem addAll {ι : Type} (make : ι → Addition) (shown : ι → α) (hscope : scope.ReadyIn b) {is : List ι}
    (hview : ∀ i ∈ is, ∀ b, view ((make i).placed b scope) = shown i)
    (hP : ∀ i ∈ is, ∀ b, P ((make i).placed b scope) []) :
    b.Gains view P scope.lexical (is.map shown) (b.addAll scope (is.map make)) := by
  induction is generalizing b with
  | nil => exact .refl hscope.toLinked _
  | cons i is ih =>
    rw [List.forall_mem_cons] at hview hP
    have hfirst : b.Gains view P scope.lexical [shown i] (b.add scope (make i)) := by
      rw [← hview.1 b]
      exact leaf hscope (hP.1 b)
    exact hfirst.trans hscope.lexical_lt (ih (hscope.of_gains hfirst) hview.2 hP.2)

end Builder.Gains
end CursorQuery
