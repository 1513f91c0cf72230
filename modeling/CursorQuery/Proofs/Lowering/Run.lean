import CursorQuery.Proofs.Lowering.Reads
import CursorQuery.Proofs.Lowering.Recursion

/-!
This module contains the run of a lowering: its trace leads from the unit at its beginning to the unit
at its end, and every addition in it is made in a scope that lies on the path to the cursor added last.
-/

namespace CursorQuery
namespace Lowering

open Builder

variable {b b' : Builder} {scope inner : Scope}

inductive Runs : Builder → List Action → Builder → Prop where
  | done (b : Builder) : Runs b [] b
  | type {b b' : Builder} {scope : Nat} {written : WrittenType} {actions : List Action}
      (hscope : scope < b.nextId) (later : Runs b actions b') :
      Runs b (.type b scope written :: actions) b'
  | tag {b b' : Builder} {id : Nat} {actions : List Action} (hid : id < b.nextId)
      (later : Runs b actions b') : Runs b (.tag b id :: actions) b'
  | add {b b' : Builder} {scope : Scope} {addition : Addition} {actions : List Action}
      (hscope : scope.ValidIn b) (hfits : addition.Fits b scope)
      (later : Runs (b.add scope addition) actions b') : Runs b (.add b scope addition :: actions) b'

namespace Runs

theorem append {b₁ b₂ b₃ : Builder} {first later : List Action} (h₁ : Runs b₁ first b₂)
    (h₂ : Runs b₂ later b₃) : Runs b₁ (first ++ later) b₃ := by
  induction h₁ with
  | done => exact h₂
  | type hscope _ ih => exact .type hscope (ih h₂)
  | tag hid _ ih => exact .tag hid (ih h₂)
  | add hscope hfits _ ih => exact .add hscope hfits (ih h₂)

theorem preserves_of_mem {P : Builder → Prop} {actions : List Action} (h : Runs b actions b')
    (hstep : ∀ b scope addition, .add b scope addition ∈ actions → scope.ValidIn b →
      addition.Fits b scope → P b → P (b.add scope addition))
    (hstart : P b) : P b' ∧ ∀ action ∈ actions, P action.before ∧ P action.after := by
  induction h with
  | done => exact ⟨hstart, by simp⟩
  | type _ _ ih | tag _ _ ih =>
    rw [List.forall_mem_cons]
    obtain ⟨hend, hlater⟩ := ih (fun _ _ _ hmem => hstep _ _ _ (List.mem_cons_of_mem _ hmem)) hstart
    exact ⟨hend, ⟨hstart, hstart⟩, hlater⟩
  | add hscope hfits _ ih =>
    have hadded := hstep _ _ _ List.mem_cons_self hscope hfits hstart
    rw [List.forall_mem_cons]
    obtain ⟨hend, hlater⟩ := ih (fun _ _ _ hmem => hstep _ _ _ (List.mem_cons_of_mem _ hmem)) hadded
    exact ⟨hend, ⟨hstart, hadded⟩, hlater⟩

theorem wellFormed {actions : List Action} (h : Runs b actions b') (hb : b.WellFormed) :
    b'.WellFormed :=
  (h.preserves_of_mem (fun _ _ _ _ hscope hfits hb => wellFormed_add hb hscope hfits) hb).1

theorem wellFormed_of_mem {actions : List Action} {action : Action} (h : Runs b actions b')
    (hb : b.WellFormed) (hmem : action ∈ actions) :
    action.before.WellFormed ∧ action.after.WellFormed :=
  (h.preserves_of_mem (fun _ _ _ _ hscope hfits hb => wellFormed_add hb hscope hfits) hb).2 action hmem

theorem preserves {P : Builder → Prop} {actions : List Action} (h : Runs b actions b')
    (hstep : ∀ {b scope addition}, b.WellFormed → scope.ValidIn b → P b → P (b.add scope addition))
    (hb : b.WellFormed) (hstart : P b) : ∀ action ∈ actions, P action.before := by
  have hall := (h.preserves_of_mem (P := fun b => b.WellFormed ∧ P b) ?_ ⟨hb, hstart⟩).2
  · intro action hmem
    exact (hall action hmem).1.2
  · rintro b scope addition _ hscope hfits ⟨hb, hholds⟩
    exact ⟨wellFormed_add hb hscope hfits, hstep hb hscope hholds⟩

theorem toExtends {actions : List Action} (h : Runs b actions b') : b.Extends b' := by
  induction h with
  | done => exact .refl _
  | type _ _ ih | tag _ _ ih => exact ih
  | add _ _ _ ih => exact (extends_add _ _ _).trans ih

theorem leads {actions : List Action} (h : Runs b actions b') : Action.Leads b actions b' := by
  induction h with
  | done => exact rfl
  | type _ _ ih | tag _ _ ih => exact ⟨rfl, ih⟩
  | add _ _ _ ih => exact ⟨rfl, ih⟩

theorem inBounds {actions : List Action} (h : Runs b actions b') (hb : b.WellFormed) :
    ∀ action ∈ actions, ∀ read ∈ action.reads, read.InBounds := by
  induction h with
  | done => simp
  | type hscope _ ih =>
    rw [List.forall_mem_cons]
    refine ⟨?_, ih hb⟩
    intro read hread
    obtain ⟨id, hid, rfl⟩ := List.mem_map.mp hread
    exact lt_of_mem_typeReads hb hscope hid
  | tag hid _ ih =>
    rw [List.forall_mem_cons]
    refine ⟨?_, ih hb⟩
    intro read hread
    obtain rfl := List.mem_singleton.mp hread
    exact hid
  | add hscope hfits _ ih =>
    rw [List.forall_mem_cons]
    exact ⟨fun _ => inBounds_of_mem_reads_add hb hscope, ih (wellFormed_add hb hscope hfits)⟩

theorem of_mem_add {actions : List Action} {before : Builder} {addition : Addition}
    (h : Runs b actions b') (hmem : .add before scope addition ∈ actions) :
    scope.ValidIn before ∧ (before.add scope addition).Extends b' := by
  induction h with
  | done => simp at hmem
  | type _ _ ih | tag _ _ ih =>
    cases List.mem_cons.mp hmem with
    | inl heq => simp at heq
    | inr hmem => exact ih hmem
  | add hscope _ later ih =>
    cases List.mem_cons.mp hmem with
    | inl heq =>
      obtain ⟨rfl, rfl, rfl⟩ := by simpa using heq
      exact ⟨hscope, later.toExtends⟩
    | inr hmem => exact ih hmem

theorem exists_add {actions : List Action} (h : Runs b actions b') (id : Nat) (hid : b.nextId ≤ id)
    (hlt : id < b'.nextId) :
    ∃ before scope addition, .add before scope addition ∈ actions ∧ before.nextId = id := by
  induction h with
  | done => omega
  | type _ _ ih | tag _ _ ih =>
    obtain ⟨before, scope, addition, hmem, hnext⟩ := ih hid hlt
    exact ⟨before, scope, addition, List.mem_cons_of_mem _ hmem, hnext⟩
  | @add b b' scope addition actions _ _ _ ih =>
    cases Nat.eq_or_lt_of_le hid with
    | inl heq => exact ⟨b, scope, addition, List.mem_cons_self, heq⟩
    | inr hless =>
      obtain ⟨before, scope, addition, hmem, hnext⟩ := ih (by rw [nextId_add]; omega) hlt
      exact ⟨before, scope, addition, List.mem_cons_of_mem _ hmem, hnext⟩

theorem nextId_le_of_mem {actions : List Action} {action : Action} (h : Runs b actions b')
    (hmem : action ∈ actions) : b.nextId ≤ action.before.nextId := by
  induction h with
  | done => simp at hmem
  | type _ _ ih | tag _ _ ih =>
    cases List.mem_cons.mp hmem with
    | inl heq =>
      rw [heq]
      exact Nat.le_refl _
    | inr hmem => exact ih hmem
  | add _ _ _ ih =>
    cases List.mem_cons.mp hmem with
    | inl heq =>
      rw [heq]
      exact Nat.le_refl _
    | inr hmem =>
      have := ih hmem
      rw [nextId_add] at this
      omega

theorem add_inj {actions : List Action} {b₁ b₂ : Builder} {scope₁ scope₂ : Scope}
    {addition₁ addition₂ : Addition} (h : Runs b actions b')
    (h₁ : .add b₁ scope₁ addition₁ ∈ actions)
    (h₂ : .add b₂ scope₂ addition₂ ∈ actions) (hid : b₁.nextId = b₂.nextId) :
    Action.add b₁ scope₁ addition₁ = .add b₂ scope₂ addition₂ := by
  induction h with
  | done => simp at h₁
  | type _ _ ih | tag _ _ ih =>
    exact ih (List.mem_of_ne_of_mem (by simp) h₁) (List.mem_of_ne_of_mem (by simp) h₂)
  | @add b _ _ _ actions _ _ later ih =>
    have hlater : ∀ action ∈ actions, b.nextId < action.before.nextId := by
      intro action hmem
      have := later.nextId_le_of_mem hmem
      rw [nextId_add] at this
      omega
    cases List.mem_cons.mp h₁ with
    | inl heq₁ =>
      cases List.mem_cons.mp h₂ with
      | inl heq₂ => rw [heq₁, heq₂]
      | inr hmem₂ =>
        obtain ⟨rfl, -, -⟩ := Action.add.inj heq₁
        exact absurd hid (Nat.ne_of_lt (hlater _ hmem₂))
    | inr hmem₁ =>
      cases List.mem_cons.mp h₂ with
      | inl heq₂ =>
        obtain ⟨rfl, -, -⟩ := Action.add.inj heq₂
        exact absurd hid (Nat.ne_of_gt (hlater _ hmem₁))
      | inr hmem₂ => exact ih hmem₁ hmem₂

theorem eq_or_exists_after {actions : List Action} (h : Runs b actions b') :
    b' = b ∨ ∃ action ∈ actions, b' = action.after := by
  induction h with
  | done => exact .inl rfl
  | type _ _ ih | tag _ _ ih =>
    cases ih with
    | inl heq => exact .inl heq
    | inr h =>
      obtain ⟨action, hmem, heq⟩ := h
      exact .inr ⟨action, List.mem_cons_of_mem _ hmem, heq⟩
  | add _ _ _ ih =>
    cases ih with
    | inl heq => exact .inr ⟨_, List.mem_cons_self, heq⟩
    | inr h =>
      obtain ⟨action, hmem, heq⟩ := h
      exact .inr ⟨action, List.mem_cons_of_mem _ hmem, heq⟩

end Runs

structure RunsIn (scope : Scope) (b : Builder) (actions : List Action) (b' : Builder) : Prop where
  runs : Runs b actions b'
  validIn : scope.ValidIn b'

namespace RunsIn

theorem nil (hscope : scope.ValidIn b) : RunsIn scope b [] b :=
  ⟨.done b, hscope⟩

theorem append {b₁ b₂ b₃ : Builder} {first later : List Action} (h₁ : RunsIn scope b₁ first b₂)
    (h₂ : RunsIn scope b₂ later b₃) : RunsIn scope b₁ (first ++ later) b₃ :=
  ⟨h₁.runs.append h₂.runs, h₂.validIn⟩

theorem add {addition : Addition} (hb : b.WellFormed) (hscope : scope.ValidIn b)
    (hbody : addition.isBody = false) :
    RunsIn scope b [.add b scope addition] (b.add scope addition) :=
  ⟨.add hscope (Addition.fits_of_isBody_eq_false hbody) (.done _), hscope.add hb addition⟩

theorem types (hscope : scope.ValidIn b) (written : List WrittenType) :
    RunsIn scope b (Trace.types b scope.semantic written) b := by
  refine ⟨?_, hscope⟩
  induction written with
  | nil => exact .done b
  | cons first written ih => exact .type hscope.semantic_lt ih

theorem tag (hscope : scope.ValidIn b) {id : Nat} (hid : id < b.nextId) :
    RunsIn scope b [.tag b id] b :=
  ⟨.tag hid (.done b), hscope⟩

theorem addAll {additions : List Addition} (hb : b.WellFormed) (hscope : scope.ValidIn b)
    (hbodies : ∀ addition ∈ additions, addition.isBody = false) :
    RunsIn scope b (Trace.addAll b scope additions) (b.addAll scope additions) := by
  induction additions generalizing b with
  | nil => exact .nil hscope
  | cons addition additions ih =>
    rw [List.forall_mem_cons] at hbodies
    have hfirst := RunsIn.add hb hscope hbodies.1
    exact hfirst.append (ih (hfirst.runs.wellFormed hb) hfirst.validIn hbodies.2)

theorem leave {addition : Addition} {actions : List Action} (hb : b.WellFormed)
    (hscope : scope.ValidIn b) (hfits : addition.Fits b scope) (hlexical : inner.lexical = b.nextId)
    (hinner : RunsIn inner (b.add scope addition) actions b') :
    RunsIn scope b (.add b scope addition :: actions) b' := by
  refine ⟨.add hscope hfits hinner.runs, ?_⟩
  apply hscope.of_inner hb hinner.runs.toExtends
  rw [← hlexical]
  exact hinner.validIn.isOpen

theorem addNested (hb : b.WellFormed) (hscope : scope.ValidIn b) (addition : Addition)
    (hopens : addition.opens) (inner : Nat → Scope) (hlexical : ∀ id, (inner id).lexical = id)
    (hsemantic : ∀ id, (inner id).semantic = id) {parts : List Addition}
    (hparts : ∀ part ∈ parts, part.isBody = false) :
    RunsIn scope b (Trace.addNested b scope addition inner parts)
        (b.addNested scope addition inner parts)
      ∧ (inner b.nextId).ValidIn (b.addNested scope addition inner parts) := by
  have hfits : addition.Fits b scope := Addition.fits_of_opens hopens
  have henter := hscope.enter hb hopens (hlexical b.nextId) (hsemantic b.nextId)
  have hinner := RunsIn.addAll (wellFormed_add hb hscope hfits) henter hparts
  exact ⟨hinner.leave hb hscope hfits (hlexical b.nextId), hinner.validIn⟩

theorem addNamespaces (hb : b.WellFormed) (hscope : scope.ValidIn b) (site : Site)
    (names : List String) :
    let opened := Lowering.addNamespaces b scope site names
    opened.1.WellFormed ∧ opened.2.ValidIn opened.1
      ∧ ∀ actions b', RunsIn opened.2 opened.1 actions b' →
        RunsIn scope b (Trace.addNamespaces b scope site names ++ actions) b' := by
  induction names generalizing b scope with
  | nil => exact ⟨hb, hscope, fun _ _ h => h⟩
  | cons name names ih =>
    -- Each namespace is inside of the one before.
    have henter : (Scope.inside b.nextId).ValidIn (b.add scope (.namespaceBlock name site)) :=
      hscope.enter hb rfl rfl rfl
    have hfits : (Addition.namespaceBlock name site).Fits b scope := Addition.fits_of_opens rfl
    obtain ⟨hopened, hvalid, hruns⟩ := ih (wellFormed_add hb hscope hfits) henter
    refine ⟨hopened, hvalid, ?_⟩
    intro actions b' hactions
    exact (hruns actions b' hactions).leave hb hscope hfits rfl

end RunsIn

theorem runsIn_addFunction (hb : b.WellFormed) (hscope : scope.ValidIn b) (level : Access)
    (form : FunctionForm) :
    RunsIn scope b (Trace.addFunction b scope level form) (addFunction b scope level form)
      ∧ (Scope.inside b.nextId).ValidIn (addFunction b scope level form) := by
  have hparts : ∀ part ∈ (form.template ++ form.parameters).map Addition.parameter,
      part.isBody = false := by
    rw [List.forall_mem_map]
    exact fun _ _ => rfl
  obtain ⟨hnested, hinside⟩ := RunsIn.addNested hb hscope (.function level form) rfl .inside
    (fun _ => rfl) (fun _ => rfl) hparts
  exact ⟨(RunsIn.types hscope _).append hnested, hinside⟩

theorem isFunctionLike_addFunction (b : Builder) (scope : Scope) (level : Access)
    (form : FunctionForm) :
    ((addFunction b scope level form).cursor b.nextId).kind.isFunctionLike := by
  have hext := extends_addAll (b.add scope (.function level form)) (.inside b.nextId)
    ((form.template ++ form.parameters).map .parameter)
  have hcursor := hext.cursor_eq b.nextId (by simp)
  rw [cursor_add_nextId] at hcursor
  unfold addFunction addNested
  rw [hcursor]
  apply Addition.isFunctionLike_functionKind

theorem runsIn_addDeclarator (hb : b.WellFormed) (hscope : scope.ValidIn b) (level : Access)
    (template : List ResolvedParameter) (rest : DeclaratorList) (base? : Option CType)
    (declarator : Declarator) :
    RunsIn scope b (Trace.addDeclarator b scope level template rest base? declarator)
      (addDeclarator b scope level template rest base? declarator) := by
  unfold Trace.addDeclarator addDeclarator
  cases declarator.declared with
  | object => exact .add hb hscope rfl
  | function function => exact (runsIn_addFunction hb hscope level _).1
  | functionPointer parameters => exact .add hb hscope rfl

theorem runsIn_addDeclarators (hb : b.WellFormed) (hscope : scope.ValidIn b) (level : Access)
    (template : List ResolvedParameter) (base? : Option CType) (rest : DeclaratorList) :
    RunsIn scope b (Trace.addDeclarators b scope level template base? rest)
      (addDeclarators b scope level template base? rest) := by
  unfold Trace.addDeclarators addDeclarators
  dsimp only
  generalize (if rest.isConst then base?.map CType.withConst else base?) = base?
  generalize hdeclarators : rest.declarators = declarators
  clear hdeclarators
  induction declarators generalizing b with
  | nil => exact .nil hscope
  | cons declarator declarators ih =>
    have hfirst := runsIn_addDeclarator hb hscope level template rest base? declarator
    exact hfirst.append (ih (hfirst.runs.wellFormed hb) hfirst.validIn)

theorem runsIn_tagged {closed : Builder} {actions : List Action} (hb : b.WellFormed)
    (htag : RunsIn scope b actions closed) (hid : b.nextId < closed.nextId) (level : Access)
    (template : List ResolvedParameter) (rest : DeclaratorList) :
    RunsIn scope b
      (actions ++ [.tag closed b.nextId] ++
        Trace.addDeclarators closed scope level template (some (tagType closed b.nextId)) rest)
      (addDeclarators closed scope level template (some (tagType closed b.nextId)) rest) := by
  have htyped := htag.append (.tag htag.validIn hid)
  exact htyped.append (runsIn_addDeclarators (htag.runs.wellFormed hb) htag.validIn level template _ rest)

section Recursion

theorem isBody_of_isSimple {addition : Addition} (h : addition.isSimple) : addition.isBody = false := by
  cases addition with
  | body => contradiction
  | _ => rfl

variable {options : Options} {call : Call} {item : Item}

theorem runsIn_after (hb : call.unit.WellFormed) (hscope : call.scope.ValidIn call.unit)
    (inside : ∀ inner, call.inside? options item = some inner → inner.unit.WellFormed →
      inner.scope.ValidIn inner.unit →
        RunsIn inner.scope inner.unit (inner.actions options) (inner.result options)) :
    RunsIn call.scope call.unit (call.itemActions options item) (call.after options item) := by
  cases item using Item.shapes with
  | simple item hsimple =>
    rw [Call.itemActions_of_isSimple hsimple, Call.after_of_isSimple hsimple]
    exact .addAll hb hscope fun _ hmem => isBody_of_isSimple (Item.isSimple_of_mem_additions hmem)
  | namespaceBlock names site body =>
    obtain ⟨hopened, hvalid, hruns⟩ :=
      RunsIn.addNamespaces hb hscope site (if names.isEmpty then [""] else names)
    exact hruns _ _ (inside _ rfl hopened hvalid)
  | linkageBlock site body =>
    have henter : (Scope.inside call.unit.nextId).ValidIn (call.unit.add call.scope (.linkage site)) :=
      hscope.enter hb rfl rfl rfl
    have hfits : (Addition.linkage site).Fits call.unit call.scope := Addition.fits_of_opens rfl
    exact (inside _ rfl (wellFormed_add hb hscope hfits) henter).leave hb hscope hfits rfl
  | template parameters body => exact (RunsIn.types hscope _).append (inside _ rfl hb hscope)
  | record head members rest =>
    -- The members run inside of the record, the declarators after it in the scope around it.
    let addition := Addition.record call.level call.template head
    have henter : (Scope.membersOf call.unit.nextId).ValidIn (call.unit.add call.scope addition) :=
      hscope.enter hb rfl rfl rfl
    have hfits : addition.Fits call.unit call.scope := Addition.fits_of_opens rfl
    have hadded := wellFormed_add hb hscope hfits
    have hbodies : ∀ part ∈ call.template.map Addition.parameter ++
        head.bases.map (.base (Addition.defaultAccess head.keyword)), part.isBody = false := by
      rw [List.forall_mem_append, List.forall_mem_map, List.forall_mem_map]
      exact ⟨fun _ _ => rfl, fun _ _ => rfl⟩
    have hparts := RunsIn.addAll hadded henter hbodies
    have hinside := hparts.append (inside _ rfl (hparts.runs.wellFormed hadded) hparts.validIn)
    have hid := hinside.runs.toExtends.nextId_le
    rw [nextId_add] at hid
    exact runsIn_tagged hb (hinside.leave hb hscope hfits rfl) hid call.level call.template rest
  | enumeration head rest =>
    have hparts : ∀ part ∈ head.enumerators.map
        (Addition.enumerator (Addition.enumType call.unit call.scope head)), part.isBody = false := by
      rw [List.forall_mem_map]
      exact fun _ _ => rfl
    obtain ⟨hnested, hinside⟩ := RunsIn.addNested hb hscope (.enumeration call.level head) rfl .inside
      (fun _ => rfl) (fun _ => rfl) hparts
    exact runsIn_tagged hb hnested hinside.semantic_lt call.level call.template rest
  | declaration base? rest =>
    exact (RunsIn.types hscope _).append
      (runsIn_addDeclarators hb hscope call.level call.template _ rest)
  | function declarator result? span body? members =>
    let form := call.functionForm declarator result? span
    obtain ⟨hfunction, hinside⟩ := runsIn_addFunction hb hscope call.level form
    have hhead := (RunsIn.types hscope (result?.map (·.base)).toList).append hfunction
    have hopened := hfunction.runs.wellFormed hb
    unfold Call.itemActions Call.after Trace.lowerItem lowerItem
    cases body? with
    | none => exact hhead.append (.nil hhead.validIn)
    | some site =>
      dsimp only
      split
      · exact hhead.append (.nil hhead.validIn)
      · next hskip =>
        let opened := addFunction call.unit call.scope call.level form
        have hfits : (Addition.body site).Fits opened (.inside call.unit.nextId) :=
          fun _ => isFunctionLike_addFunction call.unit call.scope call.level form
        have hmembers := inside _ (if_neg hskip) (wellFormed_add hopened hinside hfits)
          (hinside.enterBody hopened site)
        have hblock := hmembers.leave hopened hinside hfits rfl
        -- The scope is left through the function, which the parameters and the body are inside of.
        have hext := (extends_addAll _ _ _).trans hblock.runs.toExtends
        exact hhead.append ⟨hblock.runs, hscope.of_inner hb hext hblock.validIn.isOpen⟩

theorem runsIn_lowerItems (options : Options) {b : Builder} {scope : Scope} (hb : b.WellFormed)
    (hscope : scope.ValidIn b) (level : Access) (template : List ResolvedParameter)
    (items : List Item) :
    RunsIn scope b (Trace.lowerItems options b scope level template items)
      (lowerItems options b scope level template items) := by
  induction b, scope, level, template, items using induct options with
  | nil => exact .nil hscope
  | cons call item rest inside next =>
    have hitem := runsIn_after hb hscope inside
    exact hitem.append (next (hitem.runs.wellFormed hb) hitem.validIn)

theorem runsIn_lowerItem (hb : call.unit.WellFormed) (hscope : call.scope.ValidIn call.unit) :
    RunsIn call.scope call.unit (call.itemActions options item) (call.after options item) :=
  runsIn_after hb hscope fun _ _ hinner hvalid => runsIn_lowerItems options hinner hvalid _ _ _

end Recursion

end Lowering

namespace TranslationUnit

theorem wellFormed_start (source : Source) (tree : ParseTree) : (start source tree).WellFormed where
  nextId_pos := Nat.one_pos
  size_childLists := rfl
  root_kind := rfl
  root_lexicalParent := rfl
  root_semanticParent := rfl
  lexicalParent id hpos hid := by
    simp [Builder.nextId, start] at hid
    omega
  semanticParent id hpos hid := by
    simp [Builder.nextId, start] at hid
    omega
  childrenOf id hid := by
    obtain rfl : id = 0 := by simpa [Builder.nextId, start] using hid
    rfl
  body id hid hkind := by
    obtain rfl : id = 0 := by simpa [Builder.nextId, start] using hid
    simp [Builder.cursor, start, rootCursor] at hkind
  names := by simp [start]

theorem validIn_start (source : Source) (tree : ParseTree) :
    (Scope.inside Cursor.root).ValidIn (start source tree) where
  isOpen := (start source tree).mem_lexicalPath_self _
  owner := rfl
  semantic_lt := Nat.one_pos
  semantic_kind := rfl

theorem runs_build (source : Source) (tree : ParseTree) (options : Options) :
    Lowering.Runs (start source tree) (trace source tree options) (build source tree options) :=
  (Lowering.runsIn_lowerItems options (wellFormed_start source tree) (validIn_start source tree) _ _
    _).runs

theorem wellFormed_build (source : Source) (tree : ParseTree) (options : Options) :
    (build source tree options).WellFormed :=
  (runs_build source tree options).wellFormed (wellFormed_start source tree)

theorem wellFormed_of_mem_trace {source : Source} {tree : ParseTree} {options : Options} {b : Builder}
    {scope : Scope} {addition : Addition} (hmem : .add b scope addition ∈ trace source tree options) :
    b.WellFormed ∧ (b.add scope addition).WellFormed ∧ scope.lexical < b.nextId := by
  have hruns := runs_build source tree options
  obtain ⟨hb, hadded⟩ := hruns.wellFormed_of_mem (wellFormed_start source tree) hmem
  exact ⟨hb, hadded, hb.lexical_lt (hruns.of_mem_add hmem).1⟩

theorem cursor_ofParseTree (source : Source) (tree : ParseTree) (options : Options)
    (v : Fin (ofParseTree source tree options).cursors.size) :
    (ofParseTree source tree options).cursor v = (build source tree options).cursor v := by
  have hv : v.val < (build source tree options).cursors.size := v.isLt
  unfold cursor Builder.cursor
  rw [Array.getElem?_eq_getElem hv]
  rfl

end TranslationUnit
end CursorQuery
