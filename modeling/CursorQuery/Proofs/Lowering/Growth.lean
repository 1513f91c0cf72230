import CursorQuery.Unit.Addition

/-!
This module contains what one addition does to a unit that is being built: it puts a cursor at the
end, lists it as the last child of its lexical parent, and may enter its name into the table. Cursors
that are there already stay as they are.
-/

namespace CursorQuery

namespace Addition

def scopes : Addition → List String
  | .record _ _ head => head.name.scopes
  | .enumeration _ head => head.name.scopes
  | .function _ form => form.declarator.name.scopes
  | .object _ form => form.declarator.name.scopes
  | _ => []

def placed (addition : Addition) (b : Builder) (scope : Scope) : Cursor :=
  { addition.cursor b scope with
    lexicalParent := some scope.lexical
    semanticParent := some (b.resolveScope addition.scopes scope) }

theorem getD_semanticParent_cursor (addition : Addition) (b : Builder) (scope : Scope) :
    (addition.cursor b scope).semanticParent.getD scope.semantic =
      b.resolveScope addition.scopes scope := by
  cases addition <;> rfl

end Addition

namespace Builder

variable {b b' : Builder} {scope : Scope} {addition : Addition} {id : Nat}

@[simp]
theorem cursors_register (b : Builder) (id : Nat) : (b.register id).cursors = b.cursors := by
  unfold register
  dsimp only
  split
  · rfl
  · rfl

@[simp]
theorem childLists_register (b : Builder) (id : Nat) :
    (b.register id).childLists = b.childLists := by
  unfold register
  dsimp only
  split
  · rfl
  · rfl

theorem mem_names_register {entry : String × Nat} (h : entry ∈ (b.register id).names) :
    entry ∈ b.names ∨ entry.2 = id := by
  unfold register at h
  dsimp only at h
  split at h
  · exact .inl h
  · cases List.mem_cons.mp h with
    | inl h => exact .inr (by rw [h])
    | inr h => exact .inl h

theorem cursors_add (b : Builder) (scope : Scope) (addition : Addition) :
    (b.add scope addition).cursors = b.cursors.push (addition.placed b scope) := by
  have hpush : (b.push scope (addition.cursor b scope)).cursors =
      b.cursors.push (addition.placed b scope) := by
    simp only [push, Addition.placed, Addition.getD_semanticParent_cursor]
  unfold add
  dsimp only
  split
  · rw [cursors_register, hpush]
  · exact hpush

theorem childLists_add (b : Builder) (scope : Scope) (addition : Addition) :
    (b.add scope addition).childLists =
      (b.childLists.modify scope.lexical (· ++ [b.nextId])).push [] := by
  unfold add
  dsimp only
  split
  · rw [childLists_register]
    rfl
  · rfl

theorem mem_names_add {entry : String × Nat} (h : entry ∈ (b.add scope addition).names) :
    entry ∈ b.names ∨ (addition.isRegistered ∧ entry.2 = b.nextId) := by
  unfold add at h
  dsimp only at h
  split at h
  · next hregistered =>
    cases mem_names_register h with
    | inl h => exact .inl h
    | inr h => exact .inr ⟨hregistered, h⟩
  · exact .inl h

@[simp]
theorem nextId_add (b : Builder) (scope : Scope) (addition : Addition) :
    (b.add scope addition).nextId = b.nextId + 1 := by
  unfold nextId
  rw [cursors_add, Array.size_push]

theorem cursor_add_of_lt (h : id < b.nextId) : (b.add scope addition).cursor id = b.cursor id := by
  unfold cursor
  rw [cursors_add, Array.getElem?_push_lt h, Array.getElem?_eq_getElem h]

theorem cursor_add_nextId (b : Builder) (scope : Scope) (addition : Addition) :
    (b.add scope addition).cursor b.nextId = addition.placed b scope := by
  unfold cursor nextId
  rw [cursors_add, Array.getElem?_push_size]
  rfl

theorem size_childLists_add (b : Builder) (scope : Scope) (addition : Addition) :
    (b.add scope addition).childLists.size = b.childLists.size + 1 := by
  rw [childLists_add, Array.size_push, Array.size_modify]

theorem size_childLists_add_eq (hsize : b.childLists.size = b.nextId) :
    (b.add scope addition).childLists.size = (b.add scope addition).nextId := by
  rw [size_childLists_add, nextId_add, hsize]

theorem childrenOf_eq_nil (hsize : b.childLists.size = b.nextId) (hid : b.nextId ≤ id) :
    b.childrenOf id = [] := by
  unfold childrenOf
  rw [Array.getElem?_eq_none (by omega)]
  rfl

theorem childrenOf_add (hsize : b.childLists.size = b.nextId) (hscope : scope.lexical < b.nextId)
    (id : Nat) :
    (b.add scope addition).childrenOf id =
      if id = scope.lexical then b.childrenOf id ++ [b.nextId] else b.childrenOf id := by
  unfold childrenOf
  rw [childLists_add, Array.getElem?_push, Array.size_modify, Array.getElem?_modify]
  -- The new cursor has no children, and only its parent gets one more.
  by_cases hnew : id = b.childLists.size
  · have hother : b.childLists.size ≠ scope.lexical := by omega
    simp [hnew, hother]
  · by_cases hparent : scope.lexical = id
    · have hold : b.childLists[id]? = some b.childLists[id] := Array.getElem?_eq_getElem (by omega)
      simp [hnew, hparent, hold]
    · simp [hnew, hparent, Ne.symm hparent]

theorem childrenOf_add_nextId (hsize : b.childLists.size = b.nextId)
    (hscope : scope.lexical < b.nextId) (addition : Addition) :
    (b.add scope addition).childrenOf b.nextId = [] := by
  rw [childrenOf_add hsize hscope, if_neg (Nat.ne_of_gt hscope),
    childrenOf_eq_nil hsize (Nat.le_refl _)]

structure Extends (b b' : Builder) : Prop where
  nextId_le : b.nextId ≤ b'.nextId
  cursor_eq : ∀ id, id < b.nextId → b'.cursor id = b.cursor id

theorem Extends.refl (b : Builder) : b.Extends b where
  nextId_le := Nat.le_refl _
  cursor_eq _ _ := rfl

theorem Extends.trans {b₁ b₂ b₃ : Builder} (h₁ : b₁.Extends b₂) (h₂ : b₂.Extends b₃) :
    b₁.Extends b₃ where
  nextId_le := Nat.le_trans h₁.nextId_le h₂.nextId_le
  cursor_eq id hid := by
    rw [h₂.cursor_eq id (Nat.lt_of_lt_of_le hid h₁.nextId_le), h₁.cursor_eq id hid]

theorem extends_add (b : Builder) (scope : Scope) (addition : Addition) :
    b.Extends (b.add scope addition) where
  nextId_le := by simp
  cursor_eq _ hid := cursor_add_of_lt hid

theorem extends_addAll (b : Builder) (scope : Scope) (additions : List Addition) :
    b.Extends (b.addAll scope additions) := by
  induction additions generalizing b with
  | nil => exact .refl b
  | cons addition additions ih => exact (b.extends_add scope addition).trans (ih _)

theorem Extends.placed_eq (h : (b.add scope addition).Extends b') :
    b'.cursor b.nextId = addition.placed b scope := by
  rw [h.cursor_eq b.nextId (by simp), cursor_add_nextId]

/-- A cursor and its lexical ancestors, innermost first. -/
def lexicalPath (b : Builder) (id : Nat) : List Nat :=
  match (b.cursor id).lexicalParent with
  | some parent => if parent < id then id :: b.lexicalPath parent else [id]
  | none => [id]
termination_by id

theorem mem_lexicalPath_self (b : Builder) (id : Nat) : id ∈ b.lexicalPath id := by
  unfold lexicalPath
  split
  · split
    · simp
    · simp
  · simp

theorem lexicalPath_eq_cons {parent : Nat} (h : (b.cursor id).lexicalParent = some parent)
    (hlt : parent < id) : b.lexicalPath id = id :: b.lexicalPath parent := by
  rw [lexicalPath, h]
  simp [hlt]

theorem le_of_mem_lexicalPath {a : Nat} (h : a ∈ b.lexicalPath id) : a ≤ id := by
  fun_induction lexicalPath b id with
  | case1 id parent hparent hlt ih =>
    cases List.mem_cons.mp h with
    | inl h => omega
    | inr h =>
      have := ih h
      omega
  | case2 => simp_all
  | case3 => simp_all

theorem mem_lexicalPath_trans {a c : Nat} (h : a ∈ b.lexicalPath c)
    (hc : c ∈ b.lexicalPath id) : a ∈ b.lexicalPath id := by
  fun_induction lexicalPath b id with
  | case1 id parent hparent hlt ih =>
    cases List.mem_cons.mp hc with
    | inl hc =>
      rw [hc, lexicalPath_eq_cons hparent hlt] at h
      exact h
    | inr hc => exact List.mem_cons_of_mem _ (ih hc)
  | case2 id parent hparent hlt =>
    obtain rfl : c = id := by simpa using hc
    rw [lexicalPath, hparent] at h
    simpa [hlt] using h
  | case3 id hparent =>
    obtain rfl : c = id := by simpa using hc
    rw [lexicalPath, hparent] at h
    exact h

theorem Extends.lexicalPath_eq (h : b.Extends b') (hid : id < b.nextId) :
    b'.lexicalPath id = b.lexicalPath id := by
  fun_induction lexicalPath b id with
  | case1 id parent hparent hlt ih =>
    rw [← h.cursor_eq id hid] at hparent
    rw [lexicalPath_eq_cons hparent hlt, ih (by omega)]
  | case2 id parent hparent hlt =>
    rw [lexicalPath, h.cursor_eq id hid, hparent]
    simp [hlt]
  | case3 id hparent =>
    rw [lexicalPath, h.cursor_eq id hid, hparent]

end Builder
end CursorQuery
