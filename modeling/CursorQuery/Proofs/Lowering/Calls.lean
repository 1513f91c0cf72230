import CursorQuery.Proofs.Lowering.Nesting
import CursorQuery.Proofs.Lowering.Run

/-!
This module contains where a lowering comes while it runs, and what it does there.
-/

namespace CursorQuery
namespace Lowering

open Builder

namespace Call

def opening (options : Options) (call : Call) : Item → List Action
  | .namespaceBlock names site _ =>
    Trace.addNamespaces call.unit call.scope site (if names.isEmpty then [""] else names)
  | .linkageBlock site _ => [.add call.unit call.scope (.linkage site)]
  | .template parameters _ => Trace.parameterTypes call.unit call.scope.semantic parameters
  | .record head _ _ => Trace.addRecord call.unit call.scope call.level call.template head
  | .enumeration head _ => Trace.addEnum call.unit call.scope call.level head
  | .function declarator result? span body? _ =>
    let form := call.functionForm declarator result? span
    let opened := addFunction call.unit call.scope call.level form
    Trace.types call.unit call.scope.semantic (result?.map (·.base)).toList ++
      Trace.addFunction call.unit call.scope call.level form ++
      match body? with
      | some site =>
        if options.skipBodies then [] else [.add opened (.inside call.unit.nextId) (.body site)]
      | none => []
  | .declaration _ _ => []
  | item => Trace.lowerItem options call.unit call.scope call.level call.template item

def declaratorActions (call : Call) (closed : Builder) (base? : Option CType) (rest : DeclaratorList) :
    List Action :=
  Trace.addDeclarators closed call.scope call.level call.template base? rest

def closing (options : Options) (call : Call) : Item → List Action
  | .record head members rest =>
    let id := call.unit.nextId
    let closed := (call.recordMembers head members).result options
    .tag closed id :: call.declaratorActions closed (some (tagType closed id)) rest
  | .enumeration head rest =>
    let id := call.unit.nextId
    let closed := addEnum call.unit call.scope call.level head
    .tag closed id :: call.declaratorActions closed (some (tagType closed id)) rest
  | .declaration base? rest =>
    Trace.types call.unit call.scope.semantic base?.toList ++
      call.declaratorActions call.unit
        (base?.map fun base => call.unit.writtenType base call.scope.semantic) rest
  | _ => []

theorem lowerItem_eq (options : Options) (call : Call) (item : Item) :
    Trace.lowerItem options call.unit call.scope call.level call.template item =
      call.opening options item ++ ((call.inside? options item).map (actions options)).getD [] ++
        call.closing options item := by
  cases item with
  | record head members rest => simp [Trace.lowerItem, opening, inside?, closing, actions,
      recordMembers, result, declaratorActions]
  | enumeration head rest => simp [Trace.lowerItem, opening, inside?, closing, declaratorActions]
  | declaration base? rest => simp [Trace.lowerItem, opening, inside?, closing, declaratorActions]
  | function declarator result? span body? members =>
    cases body? with
    | none => simp [Trace.lowerItem, opening, inside?, closing, functionForm]
    | some site =>
      cases hskip : options.skipBodies with
      | _ => simp [Trace.lowerItem, opening, inside?, closing, functionForm, functionBody, actions, hskip]
  | _ => simp [Trace.lowerItem, opening, inside?, closing, actions]

inductive Step (options : Options) : Call → Call → Prop where
  | next {call : Call} {item : Item} {rest : List Item} (hitems : call.items = item :: rest) :
      Step options call (call.next options item rest)
  | inside {call inner : Call} {item : Item} {rest : List Item} (hitems : call.items = item :: rest)
      (hinner : call.inside? options item = some inner) : Step options call inner

def Leads (options : Options) : Call → Call → Prop :=
  Relation.ReflTransGen (Step options)

variable {options : Options} {call call' inner : Call} {item : Item} {rest : List Item}

theorem actions_of_items (h : call.items = item :: rest) :
    call.actions options = call.opening options item ++
      ((call.inside? options item).map (actions options)).getD [] ++ call.closing options item ++
      (call.next options item rest).actions options := by
  rw [← lowerItem_eq]
  unfold actions
  rw [h, Trace.lowerItems]
  rfl

theorem result_of_items (h : call.items = item :: rest) :
    call.result options = (call.next options item rest).result options := by
  unfold result
  rw [h, lowerItems]
  rfl

theorem Leads.actions_subset (h : Leads options call call') :
    call'.actions options ⊆ call.actions options := by
  induction h with
  | refl => exact List.Subset.refl _
  | tail _ hstep ih =>
    refine List.Subset.trans ?_ ih
    cases hstep with
    | next hitems =>
      rw [actions_of_items hitems]
      exact List.subset_append_right _ _
    | inside hitems hinner =>
      rw [actions_of_items hitems, hinner]
      intro action hmem
      simp [hmem]

structure Sound (call : Call) : Prop where
  wellFormed : call.unit.WellFormed
  validIn : call.scope.ValidIn call.unit
  isPlain : ∀ item ∈ call.items, item.Everywhere Item.IsPlain

namespace Sound

theorem lexical_lt (h : call.Sound) : call.scope.lexical < call.unit.nextId :=
  h.wellFormed.lexical_lt h.validIn

theorem runsIn_after (h : call.Sound) (options : Options) (item : Item) :
    RunsIn call.scope call.unit
      (Trace.lowerItem options call.unit call.scope call.level call.template item)
      (call.after options item) :=
  runsIn_lowerItem h.wellFormed h.validIn

theorem wellFormed_result (h : call.Sound) (options : Options) :
    (call.result options).WellFormed :=
  (runsIn_lowerItems options h.wellFormed h.validIn call.level call.template call.items).runs.wellFormed
    h.wellFormed

theorem growsIn_result (h : call.Sound) (options : Options) :
    call.unit.GrowsIn call.scope.lexical (call.result options) :=
  (nests_lowerItems options call.unit call.scope call.level call.template h.isPlain).growsIn
    h.wellFormed.size_childLists h.lexical_lt

theorem next (h : call.Sound) (options : Options) (hitems : call.items = item :: rest) :
    (call.next options item rest).Sound where
  wellFormed := (h.runsIn_after options item).runs.wellFormed h.wellFormed
  validIn := (h.runsIn_after options item).validIn
  isPlain other hother := h.isPlain other (by
    rw [hitems]
    exact List.mem_cons_of_mem _ hother)

theorem runsIn_opening (h : call.Sound) (hinner : call.inside? options item = some inner) :
    RunsIn inner.scope call.unit (call.opening options item) inner.unit := by
  cases item with
  | namespaceBlock names site body =>
    obtain ⟨-, hvalid, hruns⟩ := RunsIn.addNamespaces h.wellFormed h.validIn site
      (if names.isEmpty then [""] else names)
    have hopened := (hruns [] _ (.nil hvalid)).runs
    rw [List.append_nil] at hopened
    obtain rfl := Option.some.inj hinner
    exact ⟨hopened, hvalid⟩
  | linkageBlock site body =>
    have hfits : (Addition.linkage site).Fits call.unit call.scope := Addition.fits_of_opens rfl
    have henter : (Scope.inside call.unit.nextId).ValidIn
        (call.unit.add call.scope (.linkage site)) := h.validIn.enter h.wellFormed rfl rfl rfl
    obtain rfl := Option.some.inj hinner
    exact ⟨.add h.validIn hfits (.done _), henter⟩
  | template parameters body =>
    obtain rfl := Option.some.inj hinner
    exact .types h.validIn _
  | record head members rest =>
    have hparts : ∀ part ∈ call.template.map Addition.parameter ++
        head.bases.map (.base (Addition.defaultAccess head.keyword)), part.isBody = false := by
      rw [List.forall_mem_append, List.forall_mem_map, List.forall_mem_map]
      exact ⟨fun _ _ => rfl, fun _ _ => rfl⟩
    obtain ⟨hnested, hinside⟩ := RunsIn.addNested h.wellFormed h.validIn
      (.record call.level call.template head) rfl .membersOf (fun _ => rfl) (fun _ => rfl) hparts
    obtain rfl := Option.some.inj hinner
    exact ⟨hnested.runs, hinside⟩
  | function declarator result? span body? members =>
    simp only [inside?] at hinner
    split at hinner
    · contradiction
    · next hskip =>
      obtain ⟨site, rfl, rfl⟩ := Option.map_eq_some_iff.mp hinner
      let form := call.functionForm declarator result? span
      obtain ⟨hfunction, hinside⟩ := runsIn_addFunction h.wellFormed h.validIn call.level form
      have hfits : (Addition.body site).Fits (addFunction call.unit call.scope call.level form)
          (.inside call.unit.nextId) :=
        fun _ => isFunctionLike_addFunction call.unit call.scope call.level form
      have hopened := hfunction.runs.wellFormed h.wellFormed
      have hhead := (RunsIn.types h.validIn (result?.map (·.base)).toList).append hfunction
      have hbody := hhead.runs.append (.add hinside hfits (.done _))
      simp only [opening, if_neg hskip]
      exact ⟨hbody, hinside.enterBody hopened site⟩
  | _ => contradiction

theorem inside (h : call.Sound) (hitems : call.items = item :: rest)
    (hinner : call.inside? options item = some inner) : inner.Sound where
  wellFormed := (h.runsIn_opening hinner).runs.wellFormed h.wellFormed
  validIn := (h.runsIn_opening hinner).validIn
  isPlain := by
    rw [items_of_inside hinner]
    exact (h.isPlain item (by simp [hitems])).of_mem_inside

theorem nextId_le_inside (h : call.Sound) (hinner : call.inside? options item = some inner) :
    call.unit.nextId ≤ inner.unit.nextId :=
  (h.runsIn_opening hinner).runs.toExtends.nextId_le

theorem growsIn_after (h : call.Sound) (hitems : call.items = item :: rest)
    (hinner : call.inside? options item = some inner) :
    (inner.result options).GrowsIn call.scope.lexical (call.after options item) := by
  have hsize := ((h.inside hitems hinner).wellFormed_result options).size_childLists
  have hinside := (h.inside hitems hinner).growsIn_result options
  have hlexical := h.lexical_lt
  have hle := h.nextId_le_inside hinner
  have hle' := hinside.nextId_le
  cases item with
  | namespaceBlock | linkageBlock | template =>
    obtain rfl := Option.some.inj hinner
    exact .refl hsize
  | record head members rest =>
    obtain rfl := Option.some.inj hinner
    exact (nests_addDeclarators ..).growsIn hsize (by omega)
  | function declarator result? span body? members =>
    simp only [inside?] at hinner
    split at hinner
    · contradiction
    · next hskip =>
      obtain ⟨site, rfl, rfl⟩ := Option.map_eq_some_iff.mp hinner
      simp only [after, lowerItem, if_neg hskip]
      exact .refl hsize
  | _ => contradiction

end Sound

theorem Leads.sound (h : Leads options call call') (hcall : call.Sound) : call'.Sound := by
  induction h with
  | refl => exact hcall
  | tail _ hstep ih =>
    cases hstep with
    | next hitems => exact ih.next options hitems
    | inside hitems hinner => exact ih.inside hitems hinner

theorem Leads.childrenOf_eq (h : Leads options call call') (hcall : call.Sound) :
    (call'.result options).nextId ≤ (call.result options).nextId
      ∧ ∀ id, call'.unit.nextId ≤ id → id < (call'.result options).nextId →
        (call.result options).childrenOf id = (call'.result options).childrenOf id := by
  induction h with
  | refl => exact ⟨Nat.le_refl _, fun _ _ _ => rfl⟩
  | @tail middle call' hmiddle hstep ih =>
    have hsound := Leads.sound hmiddle hcall
    suffices hlast : (call'.result options).nextId ≤ (middle.result options).nextId
        ∧ middle.unit.nextId ≤ call'.unit.nextId
        ∧ ∀ id, call'.unit.nextId ≤ id → id < (call'.result options).nextId →
          (middle.result options).childrenOf id = (call'.result options).childrenOf id by
      obtain ⟨hle, hbefore, hchildren⟩ := hlast
      refine ⟨Nat.le_trans hle ih.1, fun id hid hlt => ?_⟩
      rw [ih.2 id (Nat.le_trans hbefore hid) (Nat.lt_of_lt_of_le hlt hle), hchildren id hid hlt]
    cases hstep with
    | next hitems =>
      rw [result_of_items hitems]
      exact ⟨Nat.le_refl _, (hsound.runsIn_after options _).runs.toExtends.nextId_le, fun _ _ _ => rfl⟩
    | inside hitems hinner =>
      have hlexical := hsound.lexical_lt
      have hinside := hsound.nextId_le_inside hinner
      have hafter := hsound.growsIn_after hitems hinner
      have hlater := (hsound.next options hitems).growsIn_result options
      have hgrows := hafter.trans hlater
      rw [result_of_items hitems]
      refine ⟨hgrows.nextId_le, hinside, fun id hid hlt => ?_⟩
      exact hgrows.childrenOf_eq id hlt (by omega)

theorem exists_leads_of_mem (options : Options) (call : Call) {action : Action}
    (h : action ∈ call.actions options) :
    ∃ call' item rest, Leads options call call' ∧ call'.items = item :: rest
      ∧ (action ∈ call'.opening options item ∨ action ∈ call'.closing options item) := by
  obtain ⟨b, scope, level, template, items⟩ := call
  induction b, scope, level, template, items using induct options with
  | nil => contradiction
  | cons call item rest inside next =>
    let here : Call := { call with items := item :: rest }
    have hitems : here.items = item :: rest := rfl
    have h : action ∈ here.actions options := h
    rw [actions_of_items hitems] at h
    simp only [List.mem_append] at h
    obtain ((h | h) | h) | h := h
    · exact ⟨here, item, rest, .refl, hitems, .inl h⟩
    · cases hinner : here.inside? options item with
      | none =>
        rw [hinner] at h
        contradiction
      | some inner =>
        rw [hinner] at h
        obtain ⟨call', first, later, hleads, hcall'⟩ := inside inner hinner h
        exact ⟨call', first, later, .head (.inside hitems hinner) hleads, hcall'⟩
    · exact ⟨here, item, rest, .refl, hitems, .inr h⟩
    · obtain ⟨call', first, later, hleads, hcall'⟩ := next h
      exact ⟨call', first, later, .head (.next hitems) hleads, hcall'⟩

end Call
end Lowering

namespace TranslationUnit

open Lowering

def startCall (source : Source) (tree : ParseTree) : Call where
  unit := start source tree
  scope := .inside Cursor.root
  level := .noAccess
  template := []
  items := Declaration.members source tree

/-- The lowering of a tree comes to the items of a node. -/
def ComesTo (source : Source) (tree : ParseTree) (options : Options) (call : Call) (node : ParseTree) :
    Prop :=
  (startCall source tree).Leads options call
    ∧ ∃ rest, call.items = Declaration.items source node ++ rest

theorem sound_startCall (source : Source) (tree : ParseTree) : (startCall source tree).Sound where
  wellFormed := wellFormed_start source tree
  validIn := validIn_start source tree
  isPlain := Declaration.everywhere_isPlain_members source tree

end TranslationUnit
end CursorQuery
