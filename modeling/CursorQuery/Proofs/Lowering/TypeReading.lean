import CursorQuery.Proofs.Declaration.Written
import CursorQuery.Proofs.Lowering.Search
import Mathlib.Algebra.Order.BigOperators.Group.List
import Mathlib.Algebra.Order.Ring.Nat

/-!
This module contains how the types of parameters depend on what the names in them stand for. A type has
at most one name that is looked up. If a longer name is found for it, then everything that is made of
the type gets longer, up to the text of the function type.
-/

namespace CursorQuery

def WrittenType.name? : WrittenType → Option String
  | .known _ => none
  | .named name | .tagged _ name => some name
  | .template name? _ => name?

namespace Builder

def readType (b : Builder) (found? : Option Nat) : WrittenType → CType
  | .known type => type
  | .named name => b.typeFound name found?
  | .tagged fallback name =>
    match found? with
    | some _ => b.typeFound name found?
    | none => { kind := fallback, spelling := name }
  | .template name? arguments =>
    let base := (name?.map fun name => (b.typeFound name found?).spelling).getD ""
    { kind := .unexposed, spelling := base ++ arguments }

def readUse (b : Builder) (found? : Option Nat) (use : TypeUse) : CType :=
  let base := b.readType found? use.base
  use.derivations.foldl CType.derive (if use.isConst then base.withConst else base)

variable {b b' : Builder} {found? : Option Nat} {type : WrittenType} {name : String}

theorem writtenType_eq_readType (b : Builder) (type : WrittenType) (scope : Nat) :
    b.writtenType type scope =
      b.readType (type.name?.bind (b.search (b.scopePrefix scope))) type := by
  unfold writtenType
  simp only [namedType_eq_typeFound, resolve_eq_search]
  cases type with
  | known type => rfl
  | named name => rfl
  | tagged fallback name =>
    rw [WrittenType.name?, Option.bind_some]
    rfl
  | template name? arguments =>
    cases name? with
    | none => rfl
    | some name => rfl

theorem typeOf_eq_readUse (b : Builder) (use : TypeUse) (scope : Nat) :
    b.typeOf use scope = b.readUse (use.base.name?.bind (b.search (b.scopePrefix scope))) use := by
  unfold typeOf readUse
  rw [writtenType_eq_readType]

theorem readUse_congr (h : ∀ id ∈ found?, b'.introduced? id = b.introduced? id) (use : TypeUse) :
    b'.readUse found? use = b.readUse found? use := by
  have hfound : ∀ name, b'.typeFound name found? = b.typeFound name found? := by
    intro name
    unfold typeFound
    cases found? with
    | none => rfl
    | some id => rw [Option.bind_some, Option.bind_some, h id rfl]
  have htype : b'.readType found? use.base = b.readType found? use.base := by
    cases use.base with
    | _ => simp only [readType, hfound]
  unfold readUse
  rw [htype]

theorem isConst_typeFound (b : Builder) (name : String) (found? : Option Nat) :
    (b.typeFound name found?).isConst = false := by
  unfold typeFound introduced?
  cases found? with
  | none => rfl
  | some id => cases hkind : (b.cursor id).kind.typeKind? <;> simp [hkind]

theorem isConst_readType (b : Builder) (found? : Option Nat) (h : name ∈ type.name?) :
    (b.readType found? type).isConst = false := by
  cases type with
  | known type => contradiction
  | named other => exact isConst_typeFound ..
  | tagged fallback other =>
    dsimp only [readType]
    split
    · exact isConst_typeFound ..
    · rfl
  | template name? arguments => rfl

end Builder

namespace CType

variable {short long : CType}

theorem exists_spelling_derive (derivation : Derivation) :
    ∃ suffix : String, ∀ type : CType, (type.derive derivation).spelling = type.spelling ++ suffix := by
  cases derivation with
  | pointer => exact ⟨" *", fun _ => rfl⟩
  | lvalueReference => exact ⟨" &", fun _ => rfl⟩
  | rvalueReference => exact ⟨" &&", fun _ => rfl⟩
  | array size =>
    refine ⟨" [" ++ size.getD "" ++ "]", ?_⟩
    intro type
    simp only [derive, String.append_assoc]

theorem length_foldl_derive_lt (h : short.spelling.length < long.spelling.length)
    (derivations : List Derivation) :
    (derivations.foldl derive short).spelling.length <
      (derivations.foldl derive long).spelling.length := by
  induction derivations generalizing short long with
  | nil => exact h
  | cons derivation derivations ih =>
    obtain ⟨suffix, hsuffix⟩ := exists_spelling_derive derivation
    apply ih
    rw [hsuffix, hsuffix, String.length_append, String.length_append]
    omega

theorem length_withConst_lt (hshort : short.isConst = false) (hlong : long.isConst = false)
    (h : short.spelling.length < long.spelling.length) :
    short.withConst.spelling.length < long.withConst.spelling.length := by
  unfold withConst
  rw [hshort, hlong]
  simp only [Bool.false_eq_true, if_false, String.length_append]
  omega

end CType

namespace Builder

variable {b : Builder} {found? found?' : Option Nat} {type : WrittenType} {use : TypeUse} {name : String}

/-- What the name stands for first is a type with a longer spelling than what it comes to then. -/
def FindsLonger (b : Builder) (name : String) (found? found?' : Option Nat) : Prop :=
  ∃ id type, found? = some id ∧ b.introduced? id = some type
    ∧ (b.typeFound name found?').spelling.length < type.spelling.length

theorem FindsLonger.length_readType_lt (h : b.FindsLonger name found? found?')
    (hname : name ∈ type.name?) :
    (b.readType found?' type).spelling.length < (b.readType found? type).spelling.length := by
  obtain ⟨id, introduced, rfl, hintroduced, hlt⟩ := h
  have hfound : b.typeFound name (some id) = introduced := by simp [typeFound, hintroduced]
  rw [← hfound] at hlt
  cases type with
  | known type => contradiction
  | named other =>
    obtain rfl := Option.some.inj hname
    exact hlt
  | tagged fallback other =>
    obtain rfl := Option.some.inj hname
    cases found?' with
    | none => exact hlt
    | some id' => exact hlt
  | template name? arguments =>
    obtain rfl : name? = some name := hname
    simp only [readType, Option.map_some, Option.getD_some, String.length_append]
    omega

theorem FindsLonger.length_readUse_lt (h : b.FindsLonger name found? found?')
    (hname : name ∈ use.base.name?) :
    (b.readUse found?' use).spelling.length < (b.readUse found? use).spelling.length := by
  have hlt := h.length_readType_lt hname
  unfold readUse
  apply CType.length_foldl_derive_lt
  split
  · exact CType.length_withConst_lt (isConst_readType b found?' hname) (isConst_readType b found? hname)
      hlt
  · exact hlt

end Builder

namespace Declaration

theorem fallback_ne_void {source : Source} {tree : ParseTree} {fallback : TypeKind} {name : String}
    (h : writtenType source tree = .tagged fallback name) : fallback ≠ .void := by
  unfold writtenType at h
  dsimp only at h
  split at h
  case h_5 | h_6 =>
    split at h
    · obtain ⟨rfl, -⟩ := WrittenType.tagged.inj h
      simp
    · contradiction
  all_goals contradiction

theorem exists_base_of_mem_functionDeclarator {source : Source} {tree : ParseTree} :
    ∀ parameter ∈ (functionDeclarator source tree).parameters, ∀ use ∈ parameter.type,
      ∃ type, use.base = writtenType source type := by
  unfold functionDeclarator
  dsimp only
  split
  · intro parameter hmem use huse
    obtain ⟨child, -, hchild⟩ := List.mem_filterMap.mp hmem
    unfold functionParameter? at hchild
    split at hchild
    · next type _ _ =>
      obtain rfl := Option.some.inj hchild
      obtain rfl := Option.some.inj huse
      exact ⟨type, rfl⟩
    · contradiction
  · simp

end Declaration

namespace Builder

variable {b : Builder} {found? : Option Nat} {use : TypeUse} {name : String}

theorem kind_typeFound_ne_void (b : Builder) (name : String) (found? : Option Nat) :
    (b.typeFound name found?).kind ≠ .void := by
  have hkind := b.kind_typeFound name found?
  intro hvoid
  rw [hvoid] at hkind
  simp at hkind

theorem kind_readUse_ne_void {source : Source} {tree : ParseTree} (found? : Option Nat)
    (hread : use.base = Declaration.writtenType source tree) (hname : name ∈ use.base.name?) :
    (b.readUse found? use).kind ≠ .void := by
  have hbase : (b.readType found? use.base).kind ≠ .void := by
    cases hcase : use.base with
    | known type =>
      rw [hcase] at hname
      contradiction
    | named other => exact b.kind_typeFound_ne_void other _
    | tagged fallback other =>
      dsimp only [readType]
      split
      · exact b.kind_typeFound_ne_void other _
      · exact Declaration.fallback_ne_void (hread ▸ hcase)
    | template name? arguments => simp [readType]
  unfold readUse
  dsimp only
  by_cases hderivations : use.derivations = []
  · rw [hderivations, List.foldl_nil]
    unfold CType.withConst
    repeat' split
    all_goals exact hbase
  · exact (CType.foldl_derive_spec _ hderivations).2

end Builder

theorem length_intercalate (separator : String) (texts : List String) :
    (separator.intercalate texts).length =
      (texts.map String.length).sum + separator.length * (texts.length - 1) := by
  induction texts with
  | nil => rfl
  | cons first texts ih =>
    cases texts with
    | nil => simp
    | cons second texts =>
      rw [String.intercalate_cons_cons, String.length_append, String.length_append, ih]
      simp only [List.map_cons, List.sum_cons, List.length_cons, Nat.add_sub_cancel, Nat.mul_succ]
      omega

def spellingOf (type? : Option CType) : String :=
  (type?.map (·.spelling)).getD ""

theorem FunctionForm.length_written_lt {form form' : FunctionForm} {α : Type} {as : List α}
    {type type' : α → Option CType}
    (hvariadic : form'.declarator.isVariadic = form.declarator.isVariadic)
    (htypes : form.types = as.map type) (htypes' : form'.types = as.map type')
    (hle : ∀ a ∈ as, (spellingOf (type' a)).length ≤ (spellingOf (type a)).length)
    (hlt : ∃ a ∈ as, (spellingOf (type' a)).length < (spellingOf (type a)).length) :
    form'.written.length < form.written.length := by
  have hsum := List.sum_lt_sum (fun a => (spellingOf (type' a)).length)
    (fun a => (spellingOf (type a)).length) hle hlt
  have hmap : ∀ type : α → Option CType,
      (as.map type).map (fun type => (type.map (·.spelling)).getD "") =
        as.map fun a => spellingOf (type a) := by
    intro type
    rw [List.map_map]
    rfl
  unfold written
  rw [hvariadic, htypes, htypes', hmap, hmap, length_intercalate, length_intercalate]
  simp only [List.map_append, List.map_map, List.sum_append, List.length_append, List.length_map,
    Function.comp_def]
  omega

namespace Lowering

def typesOf (read : TypeUse → CType) (contents : List (String × Option TypeUse)) : List (Option CType) :=
  match contents with
  | [(name, use?)] =>
    if name.isEmpty && (use?.map read).any (·.kind == .void) then [] else [use?.map read]
  | _ => contents.map fun content => content.2.map read

variable {read read' : TypeUse → CType} {contents : List (String × Option TypeUse)}

theorem types_functionForm (b : Builder) (scope : Scope) (template : List ResolvedParameter)
    (declarator : FunctionDeclarator) (result? : Option CType) (isDefinition : Bool) (span : Span) :
    (functionForm b scope template declarator result? isDefinition span).types =
      typesOf (b.typeOf · scope.semantic) (declarator.parameters.map Parameter.content) := by
  unfold FunctionForm.types functionForm Builder.resolveParameters
  dsimp only
  cases declarator.parameters with
  | nil => rfl
  | cons first parameters =>
    cases parameters with
    | nil =>
      simp only [List.map_cons, List.map_nil, dropVoid, typesOf, Parameter.content]
      split
      · rfl
      · rfl
    | cons second parameters =>
      simp [dropVoid, typesOf, Parameter.content]

theorem typesOf_congr (h : ∀ content ∈ contents, ∀ use ∈ content.2, read use = read' use) :
    typesOf read contents = typesOf read' contents := by
  have hmap : ∀ content ∈ contents, content.2.map read = content.2.map read' := by
    intro content hmem
    cases huse : content.2 with
    | none => rfl
    | some use => exact congrArg some (h content hmem use huse)
  unfold typesOf
  split
  · next name use? =>
    have huse : use?.map read = use?.map read' := hmap (name, use?) List.mem_cons_self
    rw [huse]
  · exact List.map_congr_left hmap

theorem typesOf_eq_map (h : ∃ content ∈ contents, ∃ use ∈ content.2, (read use).kind ≠ .void) :
    typesOf read contents = contents.map fun content => content.2.map read := by
  unfold typesOf
  split
  · obtain ⟨content, hmem, use, huse, hkind⟩ := h
    obtain rfl := List.mem_singleton.mp hmem
    rw [Option.mem_def] at huse
    dsimp only at huse
    simp [huse, hkind]
  · rfl

end Lowering

def FunctionDeclarator.typeNames (function : FunctionDeclarator) : List String :=
  function.parameters.filterMap fun parameter => parameter.type.bind (·.base.name?)

theorem FunctionDeclarator.mem_typeNames {function : FunctionDeclarator} {name : String} :
    name ∈ function.typeNames ↔
      ∃ content ∈ function.parameters.map Parameter.content, ∃ use ∈ content.2,
        name ∈ use.base.name? := by
  simp [typeNames, Parameter.content, Option.bind_eq_some_iff]

section Compare

variable {source : Source} {b : Builder} {find find' inside : String → Option Nat} {use : TypeUse}
  {function : FunctionDeclarator} {form form' : FunctionForm}

namespace Builder

def readWith (b : Builder) (find : String → Option Nat) (use : TypeUse) : CType :=
  b.readUse (use.base.name?.bind find) use

theorem readWith_congr (h : ∀ name ∈ use.base.name?, find' name = find name) :
    b.readWith find' use = b.readWith find use := by
  unfold readWith
  cases hname : use.base.name? with
  | none => rfl
  | some name => rw [Option.bind_some, Option.bind_some, h name hname]

theorem length_readWith_le
    (h : ∀ name ∈ use.base.name?, find' name = find name ∨ b.FindsLonger name (find name) (find' name)) :
    (b.readWith find' use).spelling.length ≤ (b.readWith find use).spelling.length := by
  unfold readWith
  cases hname : use.base.name? with
  | none => exact Nat.le_refl _
  | some name =>
    rw [Option.bind_some, Option.bind_some]
    cases h name hname with
    | inl heq => rw [heq]
    | inr hlonger => exact Nat.le_of_lt (hlonger.length_readUse_lt hname)

theorem length_readWith_lt {name : String} (hname : name ∈ use.base.name?)
    (h : b.FindsLonger name (find name) (find' name)) :
    (b.readWith find' use).spelling.length < (b.readWith find use).spelling.length := by
  unfold readWith
  rw [Option.mem_def.mp hname, Option.bind_some, Option.bind_some]
  exact h.length_readUse_lt hname

end Builder

theorem FunctionForm.length_written_lt_of_findsLonger
    (hread : ∀ parameter ∈ function.parameters, ∀ use ∈ parameter.type,
      ∃ type, use.base = Declaration.writtenType source type)
    (hall : ∀ name ∈ function.typeNames,
      find' name = find name ∨ b.FindsLonger name (find name) (find' name))
    (hsome : ∃ name ∈ function.typeNames, b.FindsLonger name (find name) (find' name))
    (hvariadic : form'.declarator.isVariadic = form.declarator.isVariadic)
    (htypes : form.types =
      Lowering.typesOf (b.readWith find) (function.parameters.map Parameter.content))
    (htypes' : form'.types =
      Lowering.typesOf (b.readWith find') (function.parameters.map Parameter.content)) :
    form'.written.length < form.written.length := by
  obtain ⟨name, hmem, hlonger⟩ := hsome
  obtain ⟨content, hcontent, use, huse, hname⟩ := FunctionDeclarator.mem_typeNames.mp hmem
  -- The parameter with the name is not `void`, so none of the parameters are left out.
  have hkind : ∀ found?, (b.readUse found? use).kind ≠ .void := by
    intro found?
    obtain ⟨parameter, hparameter, rfl⟩ := List.mem_map.mp hcontent
    obtain ⟨type, hbase⟩ := hread parameter hparameter use huse
    exact Builder.kind_readUse_ne_void found? hbase hname
  refine length_written_lt hvariadic
    (htypes.trans (Lowering.typesOf_eq_map ⟨content, hcontent, use, huse, hkind _⟩))
    (htypes'.trans (Lowering.typesOf_eq_map ⟨content, hcontent, use, huse, hkind _⟩)) ?_ ?_
  · intro other hother
    cases hused : other.2 with
    | none => exact Nat.le_refl _
    | some used =>
      apply Builder.length_readWith_le
      intro name hname
      exact hall name (FunctionDeclarator.mem_typeNames.mpr ⟨other, hother, used, hused, hname⟩)
  · refine ⟨content, hcontent, ?_⟩
    rw [Option.mem_def.mp huse]
    exact Builder.length_readWith_lt hname hlonger

theorem FunctionForm.written_eq_iff
    (hread : ∀ parameter ∈ function.parameters, ∀ use ∈ parameter.type,
      ∃ type, use.base = Declaration.writtenType source type)
    (hfind : ∀ name, find name = (inside name).or (find' name))
    (hlonger : ∀ name ∈ function.typeNames, inside name ≠ none →
      b.FindsLonger name (find name) (find' name))
    (hvariadic : form'.declarator.isVariadic = form.declarator.isVariadic)
    (htypes : form.types =
      Lowering.typesOf (b.readWith find) (function.parameters.map Parameter.content))
    (htypes' : form'.types =
      Lowering.typesOf (b.readWith find') (function.parameters.map Parameter.content)) :
    let isOutside := ∀ name ∈ function.typeNames, inside name = none
    (form'.written = form.written ↔ isOutside) ∧ (form'.types = form.types ↔ isOutside) := by
  intro isOutside
  have hsame : ∀ name, inside name = none → find' name = find name := by
    intro name hnone
    rw [hfind, hnone, Option.none_or]
  have hwritten : form'.types = form.types → form'.written = form.written := by
    intro heq
    unfold written
    rw [heq, hvariadic]
  by_cases houtside : isOutside
  · have heq : form'.types = form.types := by
      rw [htypes, htypes']
      apply Lowering.typesOf_congr
      intro content hmem use huse
      apply Builder.readWith_congr
      intro name hname
      have hname := FunctionDeclarator.mem_typeNames.mpr ⟨content, hmem, use, huse, hname⟩
      exact hsame name (houtside name hname)
    exact ⟨iff_of_true (hwritten heq) houtside, iff_of_true heq houtside⟩
  -- Some name comes to something shorter and none to something longer, so the text gets shorter.
  · have hall : ∀ name ∈ function.typeNames,
        find' name = find name ∨ b.FindsLonger name (find name) (find' name) := by
      intro name hmem
      by_cases hnone : inside name = none
      · exact .inl (hsame name hnone)
      · exact .inr (hlonger name hmem hnone)
    have hsome : ∃ name ∈ function.typeNames, b.FindsLonger name (find name) (find' name) := by
      unfold isOutside at houtside
      push Not at houtside
      obtain ⟨name, hmem, hfound⟩ := houtside
      exact ⟨name, hmem, hlonger name hmem hfound⟩
    have hne : form'.written ≠ form.written := by
      intro heq
      have hlt := length_written_lt_of_findsLonger hread hall hsome hvariadic htypes htypes'
      rw [heq] at hlt
      exact Nat.lt_irrefl _ hlt
    exact ⟨iff_of_false hne houtside, iff_of_false (fun heq => hne (hwritten heq)) houtside⟩

end Compare

end CursorQuery
