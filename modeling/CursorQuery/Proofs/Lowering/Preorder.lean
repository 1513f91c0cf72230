import Mathlib.Data.List.Sort
import CursorQuery.Proofs.Lowering.Locality
import CursorQuery.Proofs.Lowering.Run
import CursorQuery.Proofs.Walk

/-!
This module contains the shape of a lowered unit: it is a tree whose cursors are numbered in pre-order.
A cursor is below those on its lexical path. Once a cursor has left the path it does not come back, so
everything below a child has a lower number than the next child.
-/

namespace CursorQuery

namespace Model

variable {ν : Type} (m : Model ν)

theorem mem_listing_self (v : ν) : v ∈ m.listing v := by
  rw [listing_eq]
  exact List.mem_cons_self

theorem mem_listing_of_mem_children {v w c : ν} (hw : w ∈ m.listing v) (hc : c ∈ m.children w) :
    c ∈ m.listing v := by
  induction v using m.children_wf.induction with
  | _ v ih =>
    rw [listing_eq] at hw ⊢
    apply List.mem_cons_of_mem
    rw [List.mem_flatMap]
    cases List.mem_cons.mp hw with
    | inl hw =>
      rw [← hw]
      exact ⟨c, hc, m.mem_listing_self c⟩
    | inr hw =>
      obtain ⟨child, hchild, hbelow⟩ := List.mem_flatMap.mp hw
      exact ⟨child, hchild, ih child hchild hbelow⟩

end Model

namespace Builder

variable {b : Builder} {id : Nat}

theorem WellFormed.pairwise_childrenOf (hb : b.WellFormed) (id : Nat) :
    (b.childrenOf id).Pairwise (· < ·) := by
  by_cases hid : id < b.nextId
  · rw [hb.childrenOf id hid]
    exact List.pairwise_lt_range.filter _
  · rw [childrenOf_eq_nil hb.size_childLists (by omega)]
    exact .nil

theorem WellFormed.count_childrenOf {c parent : Nat} (hb : b.WellFormed) (hc : c < b.nextId)
    (hparent : (b.cursor c).lexicalParent = some parent) (id : Nat) :
    (b.childrenOf id).count c = if id = parent then 1 else 0 := by
  have hnodup : (b.childrenOf id).Nodup := (hb.pairwise_childrenOf id).imp Nat.ne_of_lt
  have hmem : c ∈ b.childrenOf id ↔ id = parent := by
    rw [hb.mem_childrenOf, hparent]
    simp [hc, eq_comm]
  rw [hnodup.count]
  simp only [hmem]

theorem WellFormed.zero_mem_lexicalPath (hb : b.WellFormed) (hid : id < b.nextId) :
    0 ∈ b.lexicalPath id := by
  induction id using Nat.strongRecOn with
  | _ id ih =>
    cases Nat.eq_zero_or_pos id with
    | inl hzero =>
      rw [hzero]
      exact b.mem_lexicalPath_self 0
    | inr hpos =>
      obtain ⟨parent, hparent, hlt⟩ := hb.lexicalParent_lt hpos hid
      rw [lexicalPath_eq_cons hparent hlt]
      exact List.mem_cons_of_mem _ (ih parent hlt (by omega))

theorem WellFormed.not_mem_lexicalPath {a j : Nat} (hb : b.WellFormed) (hless : a < id)
    (ha : a ∉ b.lexicalPath id) (hle : id ≤ j) (hj : j < b.nextId) : a ∉ b.lexicalPath j := by
  induction j, hle using Nat.le_induction with
  | base => exact ha
  | succ j hle ih =>
    obtain ⟨parent, hparent, hmem⟩ := hb.lexicalParent (j + 1) (by omega) hj
    rw [Nat.add_sub_cancel] at hmem
    have := le_of_mem_lexicalPath hmem
    rw [lexicalPath_eq_cons hparent (by omega), List.mem_cons, not_or]
    refine ⟨by omega, ?_⟩
    intro hpath
    -- The parent is on the path before, so nothing but the cursor itself is new on its path.
    exact ih (by omega) (mem_lexicalPath_trans hpath hmem)

theorem WellFormed.lt_of_siblings {parent c d x : Nat} (hb : b.WellFormed)
    (hc : c ∈ b.childrenOf parent) (hd : d ∈ b.childrenOf parent) (hlt : c < d) (hx : x < b.nextId)
    (hbelow : c ∈ b.lexicalPath x) : x < d := by
  rw [hb.mem_childrenOf] at hc hd
  have hcparent := hb.lt_of_lexicalParent hc.1 hc.2
  have hdparent := hb.lt_of_lexicalParent hd.1 hd.2
  have hleft : c ∉ b.lexicalPath d := by
    rw [lexicalPath_eq_cons hd.2 hdparent, List.mem_cons, not_or]
    refine ⟨by omega, ?_⟩
    intro hmem
    have := le_of_mem_lexicalPath hmem
    omega
  by_contra hge
  exact hb.not_mem_lexicalPath hlt hleft (by omega) hx hbelow

end Builder

namespace TranslationUnit

variable {source : Source} {tree : ParseTree} {options : Options}

theorem map_val_children (unit : TranslationUnit) (v : Fin unit.cursors.size) {ids : List Nat}
    (hids : unit.childLists[v.val]?.getD [] = ids)
    (hbounds : ∀ id ∈ ids, v < id ∧ id < unit.cursors.size) :
    (unit.children v).map (·.val) = ids := by
  unfold children
  rw [hids]
  clear hids
  induction ids with
  | nil => rfl
  | cons id ids ih =>
    rw [List.forall_mem_cons] at hbounds
    have hnode : unit.node? id = some ⟨id, hbounds.1.2⟩ := dif_pos hbounds.1.2
    have hlater : v < ⟨id, hbounds.1.2⟩ := hbounds.1.1
    rw [List.filterMap_cons_some hnode, List.filter_cons_of_pos (by simpa using hlater)]
    rw [List.map_cons, ih hbounds.2]

section

variable (source tree options)

theorem map_val_children_ofParseTree (v : Fin (ofParseTree source tree options).cursors.size) :
    ((ofParseTree source tree options).children v).map (·.val) =
      (build source tree options).childrenOf v := by
  have hb := wellFormed_build source tree options
  apply map_val_children _ v rfl
  intro id hid
  have hmem := hb.mem_childrenOf.mp hid
  exact ⟨hb.lt_of_lexicalParent hmem.1 hmem.2, hmem.1⟩

end

theorem mem_children_ofParseTree {v c : Fin (ofParseTree source tree options).cursors.size} :
    c ∈ (ofParseTree source tree options).children v ↔
      c.val ∈ (build source tree options).childrenOf v := by
  rw [← map_val_children_ofParseTree, List.mem_map]
  constructor
  · intro h
    exact ⟨c, h, rfl⟩
  · rintro ⟨other, hother, heq⟩
    rw [← Fin.ext heq]
    exact hother

theorem mem_listing_ofParseTree {v x : Fin (ofParseTree source tree options).cursors.size} :
    x ∈ (ofParseTree source tree options).model.listing v ↔
      v.val ∈ (build source tree options).lexicalPath x := by
  have hb := wellFormed_build source tree options
  let m := (ofParseTree source tree options).model
  constructor
  -- The induction is on the children of `v` one way and on the number of `x` the other way.
  · intro h
    induction v using m.children_wf.induction with
    | _ v ih =>
      rw [Model.listing_eq] at h
      cases List.mem_cons.mp h with
      | inl h =>
        rw [h]
        exact Builder.mem_lexicalPath_self _ _
      | inr h =>
        obtain ⟨c, hc, hbelow⟩ := List.mem_flatMap.mp h
        have hparent := (hb.mem_childrenOf.mp (mem_children_ofParseTree.mp hc)).2
        apply Builder.mem_lexicalPath_trans ?_ (ih c hc hbelow)
        rw [Builder.lexicalPath_eq_cons hparent (lt_of_mem_children hc)]
        exact List.mem_cons_of_mem _ (Builder.mem_lexicalPath_self _ _)
  · intro h
    obtain ⟨x, hx⟩ := x
    induction x using Nat.strongRecOn with
    | _ x ih =>
      by_cases heq : v.val = x
      · obtain rfl : v = ⟨x, hx⟩ := Fin.ext heq
        exact m.mem_listing_self _
      · have hle := Builder.le_of_mem_lexicalPath h
        dsimp only at h hle
        obtain ⟨parent, hparent, hlt⟩ := hb.lexicalParent_lt (by omega) hx
        rw [Builder.lexicalPath_eq_cons hparent hlt, List.mem_cons] at h
        have habove := ih parent hlt (by omega) (h.resolve_left heq)
        apply m.mem_listing_of_mem_children habove
        exact mem_children_ofParseTree.mpr (hb.mem_childrenOf.mpr ⟨hx, hparent⟩)

theorem pairwise_listing_ofParseTree (v : Fin (ofParseTree source tree options).cursors.size) :
    ((ofParseTree source tree options).model.listing v).Pairwise (· < ·) := by
  have hb := wellFormed_build source tree options
  let m := (ofParseTree source tree options).model
  induction v using m.children_wf.induction with
  | _ v ih =>
    rw [Model.listing_eq, List.pairwise_cons, List.pairwise_flatMap]
    refine ⟨?_, ih, ?_⟩
    · intro x hx
      obtain ⟨c, hc, hbelow⟩ := List.mem_flatMap.mp hx
      have hle := Builder.le_of_mem_lexicalPath (mem_listing_ofParseTree.mp hbelow)
      exact lt_of_lt_of_le (lt_of_mem_children hc) hle
    · have hsorted : (m.children v).Pairwise fun c d => c < d := by
        have := hb.pairwise_childrenOf v
        rw [← map_val_children_ofParseTree, List.pairwise_map] at this
        exact this
      apply hsorted.imp_of_mem
      intro c d hc hd hlt x hx y hy
      rw [mem_listing_ofParseTree] at hx hy
      have hxd := hb.lt_of_siblings (mem_children_ofParseTree.mp hc)
        (mem_children_ofParseTree.mp hd) hlt x.isLt hx
      exact lt_of_lt_of_le hxd (Builder.le_of_mem_lexicalPath hy)

theorem listing_root_ofParseTree {root : Fin (ofParseTree source tree options).cursors.size}
    (hroot : root.val = Cursor.root) :
    (ofParseTree source tree options).model.listing root = List.finRange _ := by
  apply (pairwise_listing_ofParseTree root).eq_of_mem_iff (List.pairwise_lt_finRange _)
  intro x
  rw [mem_listing_ofParseTree, hroot]
  have hb := wellFormed_build source tree options
  simp [Cursor.root, hb.zero_mem_lexicalPath x.isLt]

/--
The cursors of a unit are a tree that is numbered in pre-order. Every cursor that lowering reads on
the way is there, and it depends on no others.
-/
theorem ofParseTree_preorder (source : Source) (tree : ParseTree) (options : Options) :
    let unit := ofParseTree source tree options
    (∃ root, unit.node? Cursor.root = some root
      ∧ (unit.cursor root).lexicalParent = none
      ∧ (unit.model.descendants root).map (·.val) = List.range unit.size)
    ∧ (∀ v, v.val ≠ Cursor.root → ∃ parent, (unit.cursor v).lexicalParent = some parent
      ∧ parent < v ∧ ∀ id, (unit.childLists[id]?.getD []).count v.val = if id = parent then 1 else 0)
    ∧ (unit.childLists.size = unit.size
      ∧ ∀ v, (unit.childLists[v.val]?.getD []).Pairwise (· < ·)
        ∧ (unit.model.children v).map (·.val) = unit.childLists[v.val]?.getD [])
    ∧ (Lowering.Action.Leads (start source tree) (trace source tree options) (build source tree options)
      ∧ ∀ action ∈ trace source tree options,
        action.IsDeterminedByReads ∧ ∀ read ∈ action.reads, read.InBounds) := by
  intro unit
  have hb := wellFormed_build source tree options
  have hruns := runs_build source tree options
  refine ⟨⟨⟨0, hb.nextId_pos⟩, dif_pos hb.nextId_pos, ?_, ?_⟩, ?_, ⟨hb.size_childLists, ?_⟩,
    hruns.leads, ?_⟩
  · rw [cursor_ofParseTree]
    exact hb.root_lexicalParent
  · rw [Model.descendants_eq_listing, listing_root_ofParseTree rfl]
    exact List.map_coe_finRange_eq_range
  · intro v hv
    obtain ⟨parent, hparent, hlt⟩ := hb.lexicalParent_lt (Nat.pos_of_ne_zero hv) v.isLt
    rw [cursor_ofParseTree]
    exact ⟨parent, hparent, hlt, hb.count_childrenOf v.isLt hparent⟩
  · intro v
    exact ⟨hb.pairwise_childrenOf v, map_val_children_ofParseTree source tree options v⟩
  · intro action haction
    have hinBounds := hruns.inBounds (wellFormed_start source tree) action haction
    exact ⟨action.isDeterminedByReads, hinBounds⟩

end TranslationUnit
end CursorQuery
