import CursorQuery.Proofs.Lowering.NameTable
import CursorQuery.Proofs.Lowering.Navigation
import CursorQuery.Proofs.Lowering.QualifiedName

/-!
This module contains what it means to look a name up from a scope. The search shortens the prefix of the
scope part by part, and this is the same as going from scope to scope towards the root, as long as no
part of a prefix has colons that could be taken for the ones between two parts.
-/

namespace CursorQuery

namespace Text

/-- The text has no `::` in it, and it does not make a longer one of a `::` in front of it. -/
structure IsBare (part : String) : Prop where
  head : part.toList.head? ≠ some ':'
  inner : ¬"::".toList <:+: part.toList

end Text

section Prefixes

variable {cs outer : List Char}

theorem outerPrefixes_cons_of_ne {c : Char} (h : c ≠ ':') :
    outerPrefixes (c :: cs) = outerPrefixes cs := by
  rw [outerPrefixes]
  exact fun _ hc => absurd hc h

theorem outerPrefixes_colon_cons_of_ne {c : Char} (h : c ≠ ':') :
    outerPrefixes (':' :: c :: cs) = outerPrefixes (c :: cs) := by
  rw [outerPrefixes]
  intro _ _ hcs
  exact absurd (List.cons.inj hcs).1 h

theorem outerPrefixes_append (hinner : ¬[':', ':'] <:+: cs) (hlast : cs.getLast? ≠ some ':')
    (outer : List Char) : outerPrefixes (cs ++ outer) = outerPrefixes outer := by
  induction cs with
  | nil => rfl
  | cons c cs ih =>
    have hcs : ¬[':', ':'] <:+: cs := fun h => hinner (h.trans (List.suffix_cons c cs).isInfix)
    by_cases hc : c = ':'
    · cases cs with
      | nil => simp [hc] at hlast
      | cons d cs =>
        have hd : d ≠ ':' := by
          intro hd
          apply hinner
          rw [hc, hd]
          exact ⟨[], cs, rfl⟩
        rw [List.getLast?_cons_cons] at hlast
        rw [hc, List.cons_append, List.cons_append, outerPrefixes_colon_cons_of_ne hd]
        exact ih hcs hlast
    · rw [List.cons_append, outerPrefixes_cons_of_ne hc]
      apply ih hcs
      cases cs with
      | nil => simp
      | cons d cs => simpa using hlast

theorem Text.IsBare.outerPrefixes_reverse {part : String} (h : Text.IsBare part) :
    outerPrefixes (part.toList.reverse ++ outer) = outerPrefixes outer := by
  apply outerPrefixes_append
  · intro hinner
    exact h.inner (List.reverse_infix.mp hinner)
  · rw [List.getLast?_reverse]
    exact h.head

theorem findSome?_cons_eq_or {α β : Type} (f : α → Option β) (a : α) (as : List α) :
    (a :: as).findSome? f = (f a).or (as.findSome? f) := by
  rw [List.findSome?_cons]
  cases f a with
  | none => rfl
  | some b => rfl

theorem findSome?_enclosingPrefixes {part : String} (h : Text.IsBare part) (around : String)
    (f : String → Option Nat) :
    (enclosingPrefixes (qualifiedIn around part)).findSome? f =
      (f (qualifiedIn around part)).or ((enclosingPrefixes around).findSome? f) := by
  unfold enclosingPrefixes
  rw [findSome?_cons_eq_or, findSome?_cons_eq_or]
  unfold qualifiedIn
  cases hempty : around.isEmpty with
  | true =>
    obtain rfl := String.isEmpty_iff.mp hempty
    -- Nothing is around the part, so only the empty prefix is left without it.
    have hlast : outerPrefixes part.toList.reverse = [[]] := by
      rw [← List.append_nil part.toList.reverse, h.outerPrefixes_reverse]
      rfl
    simp [hlast, outerPrefixes]
  | false =>
    have hnext : outerPrefixes (around ++ "::" ++ part).toList.reverse =
        around.toList.reverse :: outerPrefixes around.toList.reverse := by
      rw [String.toList_append, List.reverse_append, h.outerPrefixes_reverse]
      simp [outerPrefixes]
    rw [if_neg (by simp), hnext, List.map_cons, findSome?_cons_eq_or, List.reverse_reverse,
      String.ofList_toList]

end Prefixes

namespace Lowering

open Builder

variable {b b' : Builder} {actions : List Action} {action : Action}

theorem Runs.extends_of_mem (h : Runs b actions b') (hmem : action ∈ actions) :
    action.before.Extends b' ∧ action.after.Extends b' := by
  induction h with
  | done => simp at hmem
  | type _ later ih | tag _ later ih =>
    cases List.mem_cons.mp hmem with
    | inl heq =>
      rw [heq]
      exact ⟨later.toExtends, later.toExtends⟩
    | inr hmem => exact ih hmem
  | add _ _ later ih =>
    cases List.mem_cons.mp hmem with
    | inl heq =>
      rw [heq]
      exact ⟨(extends_add _ _ _).trans later.toExtends, later.toExtends⟩
    | inr hmem => exact ih hmem

end Lowering

namespace Builder

variable {b : Builder} {id : Nat} {chain : List Nat}

def parent? (b : Builder) (id : Nat) : Option Nat :=
  (b.cursor id).semanticParent

theorem lt_nextId_of_parent? {parent : Nat} (h : b.parent? id = some parent) : id < b.nextId := by
  by_contra hid
  have hnone : b.cursors[id]? = none := Array.getElem?_eq_none (Nat.le_of_not_lt hid)
  unfold parent? cursor at h
  rw [hnone] at h
  contradiction

theorem WellFormed.lt_of_parent? {parent : Nat} (hb : b.WellFormed) (h : b.parent? id = some parent) :
    parent < id :=
  hb.lt_of_semanticParent (lt_nextId_of_parent? h) h

theorem WellFormed.exists_climbs (hb : b.WellFormed) (id : Nat) : ∃ chain, Climbs b.parent? id chain := by
  have hbelow : ∀ id parent, b.parent? id = some parent → parent ∈ List.range b.nextId := by
    intro id parent h
    rw [List.mem_range]
    exact Nat.lt_trans (hb.lt_of_parent? h) (lt_nextId_of_parent? h)
  exact ⟨_, climbs_predecessorsIn (fun id => id) hbelow (fun _ _ => hb.lt_of_parent?) id⟩

theorem WellFormed.le_of_mem_climbs (hb : b.WellFormed) (h : Climbs b.parent? id chain) :
    ∀ outer ∈ id :: chain, outer ≤ id := by
  rw [List.forall_mem_cons]
  refine ⟨Nat.le_refl id, ?_⟩
  intro outer hmem
  exact Nat.le_of_lt (h.rank_lt (fun id => id) (fun _ _ => hb.lt_of_parent?) outer hmem)

theorem WellFormed.getLast?_of_climbs (hb : b.WellFormed) (h : Climbs b.parent? id chain)
    (hid : id < b.nextId) : (id :: chain).getLast? = some Cursor.root := by
  induction h with
  | @top id htop =>
    by_cases hroot : id = 0
    · rw [hroot]
      rfl
    · obtain ⟨parent, hparent, -, -⟩ := hb.semanticParent id (by omega) hid
      have hsome : b.parent? id = some parent := hparent
      rw [htop] at hsome
      contradiction
  | up hparent _ ih =>
    rw [List.getLast?_cons_cons]
    have := hb.lt_of_parent? hparent
    exact ih (by omega)

end Builder

namespace TranslationUnit

variable {source : Source} {tree : ParseTree} {options : Options} {b : Builder}

theorem extends_of_occurs (h : Occurs source tree options b) :
    b.Extends (build source tree options) := by
  have hruns := runs_build source tree options
  cases h with
  | inl h =>
    rw [h]
    exact hruns.toExtends
  | inr h =>
    obtain ⟨action, hmem, hb⟩ := h
    obtain ⟨hbefore, hafter⟩ := hruns.extends_of_mem hmem
    cases hb with
    | inl hb =>
      rw [hb]
      exact hbefore
    | inr hb =>
      rw [hb]
      exact hafter

theorem exists_part_of_occurs (hb : Occurs source tree options b) {id : Nat} (hid : id < b.nextId)
    (hroot : id ≠ Cursor.root) :
    ∃ owner part, b.parent? id = some owner ∧ owner < id ∧ (b.cursor owner).kind.isOwner
      ∧ (b.cursor id).kind ≠ .translationUnit ∧ HasComponent source tree (b.cursor id) part
      ∧ ((b.cursor id).kind.isNamed → (b.cursor id).qualifiedName = b.qualify owner part) := by
  have hext := extends_of_occurs hb
  have hlt : id < (ofParseTree source tree options).cursors.size :=
    Nat.lt_of_lt_of_le hid hext.nextId_le
  let v : Fin (ofParseTree source tree options).cursors.size := ⟨id, hlt⟩
  -- The cursors are those of the finished unit, where it is known how they have come about.
  have hcursor : ∀ w : Fin (ofParseTree source tree options).cursors.size, w ≤ v →
      (ofParseTree source tree options).cursor w = b.cursor w := by
    intro w hw
    rw [cursor_ofParseTree]
    exact hext.cursor_eq w (Nat.lt_of_le_of_lt hw hid)
  obtain ⟨before, scope, addition, hmem, hnext⟩ := exists_mem_trace (v := v) hroot
  obtain ⟨owner, hparent, hless, howner, -, hname⟩ := qualifiedName_of_mem_trace hmem hnext
  have hself := hcursor v (Nat.le_refl _)
  refine ⟨owner, addition.label before scope, ?_, hless, ?_, ?_, ?_, ?_⟩
  · have := semanticParent_of_model hparent
    rw [hself] at this
    exact this
  · rw [← hcursor owner (Nat.le_of_lt hless)]
    exact howner
  · rw [← hself]
    exact kind_ne_translationUnit hroot
  · rw [← hself, cursor_of_mem_trace hmem hnext]
    exact Addition.hasComponent_label (hasOrigin_trace source tree options _ hmem).2
  · rw [hself] at hname
    intro hnamed
    rw [hname hnamed]
    unfold Builder.qualify
    rw [hext.scopePrefix_eq (Nat.lt_trans hless hid)]

theorem findSome?_of_climbs (hb : Occurs source tree options b) {scope : Nat} {chain : List Nat}
    (h : Climbs b.parent? scope chain) (hscope : scope < b.nextId)
    (hkind : (b.cursor scope).kind.isOwner ∨ (b.cursor scope).kind.isTransparent)
    (hbare : ∀ outer ∈ scope :: chain, outer ≠ Cursor.root →
      (b.cursor outer).kind.isTransparent = false →
      ∀ part, HasComponent source tree (b.cursor outer) part → Text.IsBare part)
    (f : String → Option Nat) :
    (enclosingPrefixes (b.scopePrefix scope)).findSome? f =
      (scope :: chain).findSome? fun outer => f (b.scopePrefix outer) := by
  -- Scope by scope, the search for a name comes to the prefixes that the scopes have.
  have hwf := wellFormed_of_occurs hb
  induction h with
  | @top scope htop =>
    have hroot : scope = Cursor.root := by simpa using hwf.getLast?_of_climbs (.top htop) hscope
    have hempty : b.scopePrefix scope = "" := by
      rw [Builder.scopePrefix_of_semanticParent_eq_none htop]
      rw [← (extends_of_occurs hb).cursor_eq scope hscope, hroot, cursor_root_build]
      rfl
    simp [hempty, enclosingPrefixes, outerPrefixes, findSome?_cons_eq_or]
  | @up scope next rest hparent later ih =>
    rw [List.forall_mem_cons] at hbare
    have hless := hwf.lt_of_parent? hparent
    have hroot : scope ≠ Cursor.root := by
      intro h
      rw [h] at hless
      exact absurd hless (Nat.not_lt_zero _)
    obtain ⟨owner, part, howner, -, hownerKind, hnotRoot, hpart, hname⟩ :=
      exists_part_of_occurs hb hscope hroot
    rw [hparent] at howner
    obtain rfl := Option.some.inj howner
    have ih := ih (by omega) (.inl hownerKind) hbare.2
    rw [findSome?_cons_eq_or, ← ih]
    cases htransparent : (b.cursor scope).kind.isTransparent with
    | true =>
      -- The prefix stays the same, and its own part of the search is done twice.
      rw [Builder.scopePrefix_of_isTransparent hparent hless htransparent]
      unfold enclosingPrefixes
      rw [findSome?_cons_eq_or, ← Option.or_assoc, Option.or_self]
    | false =>
      have hnamed := CursorKind.isNamed_of_isOwner (hkind.resolve_right (by simp [htransparent]))
        hnotRoot htransparent
      rw [Builder.scopePrefix_of_counts htransparent, hname hnamed]
      exact findSome?_enclosingPrefixes (hbare.1 hroot htransparent part hpart) _ f

/--
A name without a leading `::` stands for whatever it names in the innermost scope that has such a name,
going from a scope to what it belongs to, up to the root.
-/
theorem resolve_of_occurs (hb : Occurs source tree options b) {scope : Nat} (hscope : scope < b.nextId)
    (hkind : (b.cursor scope).kind.isOwner ∨ (b.cursor scope).kind.isTransparent) :
    ∃ chain, Climbs b.parent? scope chain ∧ (scope :: chain).getLast? = some Cursor.root
      ∧ (∀ outer ∈ scope :: chain, b.PrefixSearch outer (b.scopePrefix outer))
      ∧ ((∀ outer ∈ scope :: chain, outer ≠ Cursor.root →
          (b.cursor outer).kind.isTransparent = false →
          ∀ part, HasComponent source tree (b.cursor outer) part → Text.IsBare part) →
        ∀ name : String, ¬"::".toList <+: name.toList →
          b.resolve name scope =
            (scope :: chain).findSome? fun outer => b.names.lookup (b.qualify outer name)) := by
  have hwf := wellFormed_of_occurs hb
  obtain ⟨chain, hchain⟩ := hwf.exists_climbs scope
  refine ⟨chain, hchain, hwf.getLast?_of_climbs hchain hscope, ?_, ?_⟩
  · intro outer houter
    exact hwf.prefixSearch (Nat.lt_of_le_of_lt (hwf.le_of_mem_climbs hchain outer houter) hscope)
  · intro hbare name hname
    unfold Builder.resolve
    rw [if_neg (by simpa using hname)]
    exact findSome?_of_climbs hb hchain hscope hkind hbare _

def nestedSource : Source where
  path := "a.cpp"
  text := "namespace n \x7b struct s \x7b\x7d; \x7d"

def nestedTree : ParseTree :=
  .node { label := "translation_unit", span := ⟨0, 27⟩ } [
    .node { label := "namespace_definition", span := ⟨0, 27⟩ } [
      .node { label := "namespace_identifier", field := some .name, span := ⟨10, 11⟩ } [],
      .node { label := "declaration_list", field := some .body, span := ⟨12, 27⟩ } [
        .node { label := "struct_specifier", span := ⟨14, 25⟩ } [
          .node { label := "type_identifier", field := some .name, span := ⟨21, 22⟩ } [],
          .node { label := "field_declaration_list", field := some .body, span := ⟨23, 25⟩ } []]]]]

theorem resolve_of_occurs_nested :
    let b := build nestedSource nestedTree {}
    Occurs nestedSource nestedTree {} b ∧ 2 < b.nextId ∧ (b.cursor 2).kind.isOwner
      ∧ ∃ chain, Climbs b.parent? 2 chain ∧ (2 :: chain).getLast? = some Cursor.root
        ∧ b.resolve "s" 2 =
          (2 :: chain).findSome? fun outer => b.names.lookup (b.qualify outer "s") := by
  intro b
  have hoccurs : Occurs nestedSource nestedTree {} b := occurs_build nestedSource nestedTree {}
  have hlt : 2 < b.nextId := by decide +kernel
  have hkind : (b.cursor 2).kind.isOwner := by decide +kernel
  obtain ⟨chain, hchain, hlast, -, hresolve⟩ := resolve_of_occurs hoccurs hlt (.inl hkind)
  refine ⟨hoccurs, hlt, hkind, chain, hchain, hlast, hresolve ?_ "s" (by decide +kernel)⟩
  intro outer houter hroot _ part hpart
  have hle := (wellFormed_of_occurs hoccurs).le_of_mem_climbs hchain outer houter
  have hspelled : (b.cursor outer).spelling ≠ "" := by
    have : ∀ outer ≤ 2, (b.cursor outer).spelling ≠ "" := by decide +kernel
    exact this outer hle
  have hbare : ∀ outer ≤ 2, Text.IsBare (b.cursor outer).spelling := by
    intro outer hle
    constructor
    · revert outer
      decide +kernel
    · revert outer
      decide +kernel
  cases hpart with
  | spelled => exact hbare outer hle
  | anonymousNamespace hname | unnamed hname => exact absurd hname hspelled

end TranslationUnit
end CursorQuery
