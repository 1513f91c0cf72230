import CursorQuery.Proofs.Lowering.Invariant

/-!
This module contains the proof that whatever lowering looks at is there. A look-up passes semantic
ancestors of the scope it starts from, and what it finds is in the table of names.
-/

namespace CursorQuery
namespace Builder

variable {b : Builder} {scope : Scope} {id : Nat}

theorem le_of_mem_prefixReads {read : Nat} (h : read ∈ b.prefixReads id) : read ≤ id := by
  fun_induction prefixReads b id with
  | case1 id parent hparent hclimb ih =>
    have hlt : parent < id := by simp_all
    cases List.mem_cons.mp h with
    | inl h => omega
    | inr h =>
      have := ih h
      omega
  | case2 => simp_all
  | case3 => simp_all

theorem lt_of_mem_resolveReads {name : String} {read : Nat} (hid : id < b.nextId)
    (h : read ∈ b.resolveReads name id) : read < b.nextId := by
  unfold resolveReads at h
  split at h
  · simp at h
  · have := le_of_mem_prefixReads h
    omega

theorem lt_of_mem_resolveScopeReads {scopes : List String} {read : Nat} (hscope : scope.ValidIn b)
    (h : read ∈ b.resolveScopeReads scopes scope) : read < b.nextId := by
  unfold resolveScopeReads at h
  split at h
  · simp at h
  · exact lt_of_mem_resolveReads hscope.semantic_lt h

theorem lt_of_mem_namedTypeReads {name : String} {read : Nat} (hb : b.WellFormed)
    (hid : id < b.nextId) (h : read ∈ b.namedTypeReads name id) : read < b.nextId := by
  cases List.mem_append.mp h with
  | inl h => exact lt_of_mem_resolveReads hid h
  | inr h =>
    obtain ⟨key, hkey⟩ := mem_names_of_resolve (Option.mem_toList.mp h)
    exact (hb.names _ hkey).1

theorem lt_of_mem_typeReads {type : WrittenType} {read : Nat} (hb : b.WellFormed)
    (hid : id < b.nextId) (h : read ∈ b.typeReads id type) : read < b.nextId := by
  cases type with
  | known type => simp [typeReads] at h
  | named name => exact lt_of_mem_namedTypeReads hb hid h
  | tagged fallback name => exact lt_of_mem_namedTypeReads hb hid h
  | template name? arguments =>
    obtain ⟨name, -, hname⟩ := List.mem_flatMap.mp h
    exact lt_of_mem_namedTypeReads hb hid hname

theorem lt_of_mem_tagReads {scopes : List String} {read : Nat} (hb : b.WellFormed)
    (hscope : scope.ValidIn b) (h : read ∈ b.tagReads scopes scope) : read < b.nextId := by
  have hsemantic := (hb.resolveScope hscope scopes).1
  cases List.mem_append.mp h with
  | inl h => exact lt_of_mem_resolveScopeReads hscope h
  | inr h =>
    have := le_of_mem_prefixReads h
    omega

theorem lt_of_mem_memberReads {scopes : List String} {read : Nat} (hb : b.WellFormed)
    (hscope : scope.ValidIn b) (h : read ∈ b.memberReads scopes scope) : read < b.nextId := by
  have hsemantic := (hb.resolveScope hscope scopes).1
  unfold memberReads at h
  dsimp only at h
  rw [List.mem_append, List.mem_append, List.mem_singleton] at h
  rcases h with (h | h) | h
  · exact lt_of_mem_tagReads hb hscope h
  · omega
  · split at h
    · cases List.mem_cons.mp h with
      | inl h => omega
      | inr h => exact (hb.mem_childrenOf.mp h).1
    · simp at h

end Builder

namespace Addition

variable {b : Builder} {scope : Scope}

theorem lt_of_mem_reads {addition : Addition} {read : Nat} (hb : b.WellFormed)
    (hscope : scope.ValidIn b) (h : read ∈ addition.reads b scope) : read < b.nextId := by
  have hpre : ∀ id ∈ b.prefixReads scope.semantic, id < b.nextId := by
    intro id hid
    exact Nat.lt_of_le_of_lt (Builder.le_of_mem_prefixReads hid) hscope.semantic_lt
  cases addition with
  | namespaceBlock | enumerator | typeAlias => exact hpre read h
  | base level written => exact Builder.lt_of_mem_typeReads hb hscope.semantic_lt h
  | record | enumeration => exact Builder.lt_of_mem_tagReads hb hscope h
  | function | object => exact Builder.lt_of_mem_memberReads hb hscope h
  | _ => simp [reads] at h

end Addition

namespace Lowering

open Builder

variable {b : Builder} {scope : Scope} {addition : Addition}

theorem inBounds_of_mem_reads_add {read : Read} (hb : b.WellFormed) (hscope : scope.ValidIn b)
    (h : read ∈ (Action.add b scope addition).reads) : read.InBounds := by
  have hpushed : (b.push scope (addition.cursor b scope)).nextId = b.nextId + 1 := by
    simp [push, nextId]
  simp only [Action.reads, List.mem_append, List.mem_singleton] at h
  rcases h with (h | h) | h
  · obtain ⟨id, hid, rfl⟩ := List.mem_map.mp h
    exact Addition.lt_of_mem_reads hb hscope hid
  · rw [h]
    exact hb.lexical_lt hscope
  · split at h
    · obtain ⟨id, hid, rfl⟩ := List.mem_map.mp h
      suffices id < (b.push scope (addition.cursor b scope)).nextId from this
      rw [hpushed]
      cases List.mem_cons.mp hid with
      | inl hid => omega
      | inr hid =>
        -- The new cursor is not in the table yet, so what has its name was there before.
        have hentry := mem_names_of_lookup (Option.mem_toList.mp hid)
        have := (hb.names _ hentry).1
        omega
    · simp at h

end Lowering
end CursorQuery
