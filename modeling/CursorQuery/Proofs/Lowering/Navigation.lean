import CursorQuery.Proofs.Lowering.Preorder
import CursorQuery.Proofs.Lowering.SemanticParent
import CursorQuery.Query.Basic

/-!
This module contains how the ways up and down a lowered unit fit together. The chain of lexical parents
is the lexical path of a cursor, and a cursor lies on the lexical paths of its descendants, so looking
for an ancestor among the predecessors is the same as walking down from the ancestor.
-/

namespace CursorQuery

section Climbs

variable {ν : Type} {step : ν → Option ν} {v : ν} {chain : List ν}

theorem Climbs.rank_lt (rank : ν → Nat) (hrank : ∀ v w, step v = some w → rank w < rank v)
    (h : Climbs step v chain) : ∀ w ∈ chain, rank w < rank v := by
  induction h with
  | top => simp
  | @up v w rest hstep _ ih =>
    have hlt := hrank v w hstep
    rw [List.forall_mem_cons]
    refine ⟨hlt, ?_⟩
    intro u hu
    exact Nat.lt_trans (ih u hu) hlt

theorem Climbs.pairwise {R : ν → ν → Prop}
    (hR : ∀ v chain, Climbs step v chain → ∀ w ∈ chain, R v w) (h : Climbs step v chain) :
    chain.Pairwise R := by
  induction h with
  | top => exact .nil
  | up _ later ih => exact .cons (hR _ _ later) ih

end Climbs

namespace TranslationUnit

theorem lexicalParent_of_model {unit : TranslationUnit} {v w : Fin unit.cursors.size}
    (h : unit.model.lexicalParent v = some w) : (unit.cursor v).lexicalParent = some w.val := by
  obtain ⟨id, hid, hnode⟩ := Option.bind_eq_some_iff.mp h
  unfold node? at hnode
  split at hnode
  · obtain rfl := Option.some.inj hnode
    exact hid
  · contradiction

variable {source : Source} {tree : ParseTree} {options : Options}

section

variable {v w : Fin (ofParseTree source tree options).cursors.size}

theorem lexicalParent_lt (h : (ofParseTree source tree options).model.lexicalParent v = some w) :
    w < v := by
  have hb := wellFormed_build source tree options
  apply hb.lt_of_lexicalParent v.isLt
  rw [← cursor_ofParseTree]
  exact lexicalParent_of_model h

theorem eq_root_of_lexicalParent
    (h : (ofParseTree source tree options).model.lexicalParent v = none) : v.val = Cursor.root := by
  have hb := wellFormed_build source tree options
  by_contra hv
  obtain ⟨parent, hparent, hlt⟩ := hb.lexicalParent_lt (Nat.pos_of_ne_zero hv) v.isLt
  rw [lexicalParent_ofParseTree hparent hlt] at h
  contradiction

theorem mem_children_iff_lexicalParent :
    w ∈ (ofParseTree source tree options).children v ↔
      (ofParseTree source tree options).model.lexicalParent w = some v := by
  have hb := wellFormed_build source tree options
  rw [mem_children_ofParseTree, hb.mem_childrenOf]
  constructor
  · rintro ⟨hlt, hparent⟩
    exact lexicalParent_ofParseTree hparent (hb.lt_of_lexicalParent hlt hparent)
  · intro h
    rw [← cursor_ofParseTree]
    exact ⟨w.isLt, lexicalParent_of_model h⟩

end

theorem climbs_lexicalParent (v : Fin (ofParseTree source tree options).cursors.size) :
    let m := (ofParseTree source tree options).model
    Climbs m.lexicalParent v (m.predecessors m.lexicalParent v) :=
  climbs_predecessorsIn Fin.val (fun _ w _ => List.mem_finRange w) (fun _ _ => lexicalParent_lt) v

section Chain

variable {v : Fin (ofParseTree source tree options).cursors.size}
  {chain : List (Fin (ofParseTree source tree options).cursors.size)}

theorem map_val_of_climbs
    (h : Climbs (ofParseTree source tree options).model.lexicalParent v chain) :
    (v :: chain).map (·.val) = (build source tree options).lexicalPath v := by
  have hb := wellFormed_build source tree options
  induction h with
  | @top v htop =>
    rw [eq_root_of_lexicalParent htop, Builder.lexicalPath,
      show Cursor.root = 0 from rfl, hb.root_lexicalParent]
    simp [eq_root_of_lexicalParent htop, Cursor.root]
  | @up v w rest hstep later ih =>
    have hparent := lexicalParent_of_model hstep
    rw [cursor_ofParseTree] at hparent
    rw [Builder.lexicalPath_eq_cons hparent (lexicalParent_lt hstep), ← ih]
    rfl

theorem mem_climbs_iff (h : Climbs (ofParseTree source tree options).model.lexicalParent v chain)
    (w : Fin (ofParseTree source tree options).cursors.size) :
    w ∈ chain ↔ v ∈ (ofParseTree source tree options).model.descendants w ∧ v ≠ w := by
  have hpath : w.val ∈ (build source tree options).lexicalPath v ↔ w = v ∨ w ∈ chain := by
    rw [← map_val_of_climbs h, ← List.mem_cons]
    exact List.mem_map_of_injective Fin.val_injective
  rw [Model.descendants_eq_listing, mem_listing_ofParseTree, hpath]
  constructor
  · intro hw
    have hlt := h.rank_lt Fin.val (fun _ _ => lexicalParent_lt) w hw
    refine ⟨.inr hw, ?_⟩
    rintro rfl
    omega
  · rintro ⟨hw, hne⟩
    exact hw.resolve_left (Ne.symm hne)

end Chain

theorem mem_search_root {root : Fin (ofParseTree source tree options).cursors.size}
    (hroot : root.val = Cursor.root) (p : Fin (ofParseTree source tree options).cursors.size → Bool)
    (v : Fin (ofParseTree source tree options).cursors.size) :
    v ∈ (ofParseTree source tree options).model.search p root ↔ p v = true := by
  unfold Model.search Model.walk
  dsimp only
  rw [Model.takeAll_found, Model.remaining_start, listing_root_ofParseTree hroot, List.mem_filter]
  simp

/--
The predecessors of a cursor along lexical parents are the cursors that it lies strictly below, from
the innermost one up to the root. So a formula, whatever is tested in its leaves, can look for an
ancestor from below or from above, and for a child by its lexical parent.
-/
theorem ofParseTree_lexicalChain (source : Source) (tree : ParseTree) (options : Options) :
    let unit := ofParseTree source tree options
    let above := unit.model.predecessors unit.model.lexicalParent
    (∀ a b, b ∈ above a ↔ a ∈ unit.model.descendants b ∧ a ≠ b)
    ∧ (∀ a, Climbs unit.model.lexicalParent a (above a)
      ∧ (above a).Pairwise (fun inner outer => inner ∈ unit.model.descendants outer ∧ inner ≠ outer)
      ∧ (a :: above a).getLast? = unit.node? Cursor.root)
    ∧ ∃ root, unit.node? Cursor.root = some root
      ∧ ∀ (α : Type) (holds : α → Fin unit.cursors.size → Bool) (part : Formula Step α),
        let eval := Formula.eval unit.model (Step.follow unit.model.toGraph) holds
        (∀ a, eval (.anyPredecessor .lexicalParent part) a = true ↔
          ∃ b ∈ unit.model.search (eval part) root, a ∈ unit.model.descendants b ∧ a ≠ b)
        ∧ ∀ v, eval (.anyChild part) v = true ↔
          ∃ c, unit.model.lexicalParent c = some v ∧ eval part c = true := by
  intro unit above
  have hmem : ∀ a b, b ∈ above a ↔ a ∈ unit.model.descendants b ∧ a ≠ b :=
    fun a => mem_climbs_iff (climbs_lexicalParent a)
  refine ⟨hmem, ?_, ?_⟩
  · intro a
    have hclimbs : Climbs unit.model.lexicalParent a (above a) := climbs_lexicalParent a
    refine ⟨hclimbs, ?_, ?_⟩
    · exact hclimbs.pairwise fun v chain h w hw => (mem_climbs_iff h w).mp hw
    · -- Only the root has no lexical parent, so this is where the chain ends.
      obtain ⟨top, hlast, htop⟩ := hclimbs.getLast?
      rw [hlast, ← eq_root_of_lexicalParent htop, node?_of_lt top.isLt]
  · have hpos := (wellFormed_build source tree options).nextId_pos
    refine ⟨⟨0, hpos⟩, node?_of_lt hpos, ?_⟩
    intro α holds part eval
    constructor
    · intro a
      have heval : eval (.anyPredecessor .lexicalParent part) a = (above a).any (eval part) := by
        simp only [eval, Formula.eval]
        rfl
      rw [heval, List.any_eq_true]
      constructor
      · rintro ⟨b, hb, hpart⟩
        exact ⟨b, (mem_search_root rfl _ b).mpr hpart, (hmem a b).mp hb⟩
      · rintro ⟨b, hb, hbelow⟩
        exact ⟨b, (hmem a b).mpr hbelow, (mem_search_root rfl _ b).mp hb⟩
    · intro v
      have heval : eval (.anyChild part) v = (unit.children v).any (eval part) := by
        simp only [eval, Formula.eval]
        rfl
      rw [heval, List.any_eq_true]
      constructor
      · rintro ⟨c, hc, hpart⟩
        exact ⟨c, mem_children_iff_lexicalParent.mp hc, hpart⟩
      · rintro ⟨c, hparent, hpart⟩
        exact ⟨c, mem_children_iff_lexicalParent.mpr hparent, hpart⟩

end TranslationUnit
end CursorQuery
