import CursorQuery.Proofs.Lowering.Run
import CursorQuery.Proofs.Predecessors

/-!
This module contains what cursors of a lowered unit belong to. Semantic parents come before their
cursors, so the search for the prefix of a scope and the way up to the root end without any check for
circles.
-/

namespace CursorQuery

namespace Addition

variable {b : Builder} {scope : Scope}

theorem kind_of_scopes_ne_nil {addition : Addition} (h : addition.scopes ≠ []) :
    let kind := (addition.cursor b scope).kind
    kind.isFunctionLike ∨ kind = .varDecl ∨ kind = .fieldDecl ∨ kind.isRecord ∨ kind = .enumDecl := by
  intro kind
  cases addition with
  | function level form => exact .inl (isFunctionLike_functionKind ..)
  | object level form =>
    simp only [kind, cursor, objectCursor]
    split
    · simp
    · simp
  | record level template head =>
    have hrecord : kind.isRecord := isRecord_recordCursor level template head
    simp [hrecord]
  | enumeration level head => simp [kind, cursor, enumCursor]
  | _ => simp [scopes] at h

end Addition

namespace Builder

variable {b : Builder} {id : Nat}

theorem scopePrefix_of_isTransparent {parent : Nat} (hparent : (b.cursor id).semanticParent = some parent)
    (hlt : parent < id) (h : (b.cursor id).kind.isTransparent) :
    b.scopePrefix id = b.scopePrefix parent := by
  rw [scopePrefix]
  simp [hparent, hlt, h]

theorem scopePrefix_of_counts (h : (b.cursor id).kind.isTransparent = false) :
    b.scopePrefix id = (b.cursor id).qualifiedName := by
  rw [scopePrefix]
  split
  · simp [h]
  · rfl

theorem scopePrefix_of_semanticParent_eq_none (h : (b.cursor id).semanticParent = none) :
    b.scopePrefix id = (b.cursor id).qualifiedName := by
  rw [scopePrefix]
  simp [h]

/--
The search for the prefix of a scope without the check that it goes to lower numbers. It reads the
cursor it has come to, and it goes on from there or ends.
-/
inductive PrefixSearch (b : Builder) : Nat → String → Prop where
  | stop {id : Nat} (hid : id < b.nextId)
      (h : (b.cursor id).semanticParent = none ∨ (b.cursor id).kind.isTransparent = false) :
      PrefixSearch b id (b.cursor id).qualifiedName
  | climb {id parent : Nat} {name : String} (hid : id < b.nextId)
      (hparent : (b.cursor id).semanticParent = some parent)
      (htransparent : (b.cursor id).kind.isTransparent) (later : PrefixSearch b parent name) :
      PrefixSearch b id name

theorem WellFormed.lt_of_semanticParent {parent : Nat} (hb : b.WellFormed) (hid : id < b.nextId)
    (h : (b.cursor id).semanticParent = some parent) : parent < id := by
  apply lt_of_parent (fun id => (b.cursor id).semanticParent) hb.root_semanticParent ?_ hid h
  intro id hpos hid
  obtain ⟨parent, hparent, hlt, -⟩ := hb.semanticParent id hpos hid
  exact ⟨parent, hparent, hlt⟩

theorem WellFormed.prefixSearch (hb : b.WellFormed) (hid : id < b.nextId) :
    b.PrefixSearch id (b.scopePrefix id) := by
  -- The check that `parent < id` always succeeds, so it makes no difference.
  fun_induction scopePrefix b id with
  | case1 id cursor parent hparent hclimb ih =>
    have hlt := hb.lt_of_semanticParent hid hparent
    have htransparent : cursor.kind.isTransparent := by simp_all
    exact .climb hid hparent htransparent (ih (by omega))
  | case2 id cursor parent hparent hstop =>
    have hlt := hb.lt_of_semanticParent hid hparent
    have hopaque : cursor.kind.isTransparent = false := by simp_all
    exact .stop hid (.inr hopaque)
  | case3 id cursor hparent => exact .stop hid (.inl hparent)

end Builder

namespace TranslationUnit

/-- What the children of a cursor belong to: the cursor itself, or the function that it is the body
of. -/
def OwnsChildrenOf (unit : TranslationUnit) (owner v : Fin unit.cursors.size) : Prop :=
  if (unit.cursor v).kind = .compoundStmt then
    unit.model.lexicalParent v = some owner ∧ (unit.cursor owner).kind.isFunctionLike
  else owner = v

/-- The builder occurs in the lowering of a source text. -/
def Occurs (source : Source) (tree : ParseTree) (options : Options) (b : Builder) : Prop :=
  b = start source tree
    ∨ ∃ action ∈ trace source tree options, b = action.before ∨ b = action.after

variable {source : Source} {tree : ParseTree} {options : Options}

theorem wellFormed_of_occurs {b : Builder} (h : Occurs source tree options b) : b.WellFormed := by
  have hstart := wellFormed_start source tree
  have hruns := runs_build source tree options
  cases h with
  | inl h =>
    rw [h]
    exact hstart
  | inr h =>
    obtain ⟨action, hmem, hb⟩ := h
    obtain ⟨hbefore, hafter⟩ := hruns.wellFormed_of_mem hstart hmem
    cases hb with
    | inl hb =>
      rw [hb]
      exact hbefore
    | inr hb =>
      rw [hb]
      exact hafter

theorem node?_of_lt {unit : TranslationUnit} {id : Nat} (h : id < unit.cursors.size) :
    unit.node? id = some ⟨id, h⟩ :=
  dif_pos h

theorem lexicalParent_ofParseTree {v : Fin (ofParseTree source tree options).cursors.size}
    {parent : Nat} (h : ((build source tree options).cursor v).lexicalParent = some parent)
    (hlt : parent < v) :
    (ofParseTree source tree options).model.lexicalParent v = some ⟨parent, by omega⟩ := by
  simp only [model, cursor_ofParseTree, h, Option.bind_some]
  exact node?_of_lt _

theorem semanticParent_ofParseTree {v : Fin (ofParseTree source tree options).cursors.size}
    {parent : Nat} (h : ((build source tree options).cursor v).semanticParent = some parent)
    (hlt : parent < v) :
    (ofParseTree source tree options).model.semanticParent v = some ⟨parent, by omega⟩ := by
  simp only [model, cursor_ofParseTree, h, Option.bind_some]
  exact node?_of_lt _

theorem exists_semanticParent {v : Fin (ofParseTree source tree options).cursors.size}
    (hv : v.val ≠ Cursor.root) :
    ∃ parent, (ofParseTree source tree options).model.semanticParent v = some parent ∧ parent < v
      ∧ ((ofParseTree source tree options).cursor parent).kind.isOwner := by
  have hb := wellFormed_build source tree options
  obtain ⟨parent, hparent, hlt, howner⟩ := hb.semanticParent v (Nat.pos_of_ne_zero hv) v.isLt
  refine ⟨⟨parent, by omega⟩, semanticParent_ofParseTree hparent hlt, hlt, ?_⟩
  rw [cursor_ofParseTree]
  exact howner

theorem semanticParent_lt {v w : Fin (ofParseTree source tree options).cursors.size}
    (h : (ofParseTree source tree options).model.semanticParent v = some w) : w < v := by
  by_cases hv : v.val = Cursor.root
  · have hb := wellFormed_build source tree options
    simp only [model, cursor_ofParseTree, hv] at h
    rw [show Cursor.root = 0 from rfl, hb.root_semanticParent] at h
    simp at h
  · obtain ⟨parent, hparent, hlt, -⟩ := exists_semanticParent hv
    rw [h] at hparent
    obtain rfl := by simpa using hparent
    exact hlt

theorem eq_root_of_semanticParent {v : Fin (ofParseTree source tree options).cursors.size}
    (h : (ofParseTree source tree options).model.semanticParent v = none) : v.val = Cursor.root := by
  by_cases hv : v.val = Cursor.root
  · exact hv
  · obtain ⟨parent, hparent, -, -⟩ := exists_semanticParent hv
    rw [h] at hparent
    contradiction

theorem ownsChildrenOf_ownerOf {owner v : Fin (ofParseTree source tree options).cursors.size}
    (h : owner.val = (build source tree options).ownerOf v) :
    (ofParseTree source tree options).OwnsChildrenOf owner v := by
  have hb := wellFormed_build source tree options
  unfold OwnsChildrenOf
  unfold Builder.ownerOf at h
  rw [cursor_ofParseTree, cursor_ofParseTree]
  split
  · next hkind =>
    obtain ⟨function, hparent, hlike⟩ := hb.body v v.isLt hkind
    rw [if_pos hkind, hparent, Option.getD_some] at h
    have hlt := hb.lt_of_lexicalParent v.isLt hparent
    rw [lexicalParent_ofParseTree hparent hlt, h]
    exact ⟨congrArg some (Fin.ext h.symm), hlike⟩
  · next hkind =>
    rw [if_neg hkind] at h
    exact Fin.ext h

theorem ownsChildrenOf_lexicalParent {before : Builder} {scope : Scope} {addition : Addition}
    {v : Fin (ofParseTree source tree options).cursors.size}
    (hmem : .add before scope addition ∈ trace source tree options) (hv : before.nextId = v)
    (hscopes : addition.scopes = []) :
    ∃ parent owner, (ofParseTree source tree options).model.lexicalParent v = some parent
      ∧ (ofParseTree source tree options).model.semanticParent v = some owner
      ∧ (ofParseTree source tree options).OwnsChildrenOf owner parent := by
  have hb := wellFormed_build source tree options
  obtain ⟨hscope, hext⟩ := (runs_build source tree options).of_mem_add hmem
  have hplaced := hext.placed_eq
  rw [hv] at hplaced
  have hlexical : ((build source tree options).cursor v).lexicalParent = some scope.lexical := by
    rw [hplaced]
    rfl
  have hsemantic : ((build source tree options).cursor v).semanticParent = some scope.semantic := by
    rw [hplaced, Addition.placed, hscopes]
    rfl
  have hlexical_lt := hb.lt_of_lexicalParent v.isLt hlexical
  have hsemantic_lt := hb.lt_of_semanticParent v.isLt hsemantic
  refine ⟨_, _, lexicalParent_ofParseTree hlexical hlexical_lt,
    semanticParent_ofParseTree hsemantic hsemantic_lt, ?_⟩
  apply ownsChildrenOf_ownerOf
  have hold := (before.extends_add scope addition).trans hext
  have hlexical_lt' : scope.lexical < before.nextId := by omega
  rw [hold.ownerOf_eq hlexical_lt']
  exact hscope.owner

/--
Every cursor but the root belongs to an owner that comes before it, the one around it unless scopes
are written in front of its name. So the searches upwards end without any check for circles.
-/
theorem ofParseTree_semanticParent (source : Source) (tree : ParseTree) (options : Options) :
    let unit := ofParseTree source tree options
    (∀ v, v.val ≠ Cursor.root → ∃ parent, unit.model.semanticParent v = some parent ∧ parent < v
      ∧ (unit.cursor parent).kind.isOwner ∧ (unit.cursor parent).kind ≠ .compoundStmt)
    ∧ (∀ v, v.val ≠ Cursor.root → ∃ before scope addition,
      .add before scope addition ∈ trace source tree options ∧ before.nextId = v.val
        ∧ unit.cursor v = addition.placed before scope
        ∧ if addition.scopes = [] then
            ∃ parent owner, unit.model.lexicalParent v = some parent
              ∧ unit.model.semanticParent v = some owner ∧ unit.OwnsChildrenOf owner parent
          else
            let kind := (unit.cursor v).kind
            kind.isFunctionLike ∨ kind = .varDecl ∨ kind = .fieldDecl ∨ kind.isRecord
              ∨ kind = .enumDecl)
    ∧ (∀ b, Occurs source tree options b → ∀ id, id < b.nextId →
      b.PrefixSearch id (b.scopePrefix id))
    ∧ (∀ v, let predecessors := unit.model.predecessors unit.model.semanticParent v
      Climbs unit.model.semanticParent v predecessors
        ∧ (v :: predecessors).getLast? = unit.node? Cursor.root) := by
  intro unit
  have hruns := runs_build source tree options
  refine ⟨?_, ?_, ?_, ?_⟩
  · intro v hv
    obtain ⟨parent, hparent, hlt, howner⟩ := exists_semanticParent hv
    exact ⟨parent, hparent, hlt, howner, CursorKind.ne_compoundStmt_of_isOwner howner⟩
  · intro v hv
    obtain ⟨before, scope, addition, hmem, hid⟩ :=
      hruns.exists_add v.val (Nat.pos_of_ne_zero hv) v.isLt
    have hplaced : unit.cursor v = addition.placed before scope := by
      rw [cursor_ofParseTree, ← hid]
      exact (hruns.of_mem_add hmem).2.placed_eq
    refine ⟨before, scope, addition, hmem, hid, hplaced, ?_⟩
    split
    · next hscopes => exact ownsChildrenOf_lexicalParent hmem hid hscopes
    · next hscopes =>
      rw [hplaced]
      exact Addition.kind_of_scopes_ne_nil hscopes
  · intro b hoccurs id hid
    exact (wellFormed_of_occurs hoccurs).prefixSearch hid
  · intro v
    have hclimbs : Climbs _ v (unit.model.predecessors _ v) :=
      climbs_predecessorsIn Fin.val (fun _ w _ => List.mem_finRange w)
        (fun _ _ => semanticParent_lt) v
    refine ⟨hclimbs, ?_⟩
    -- Only the root has no semantic parent, so this is where the way up ends.
    obtain ⟨top, hlast, htop⟩ := hclimbs.getLast?
    rw [hlast, ← eq_root_of_semanticParent htop, node?_of_lt top.isLt]

end TranslationUnit
end CursorQuery
