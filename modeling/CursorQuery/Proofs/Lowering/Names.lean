import CursorQuery.Proofs.Lowering.Run

/-!
This module contains what an addition does to the table of names: at most one entry is put in front,
and it is for a cursor with a name.
-/

namespace CursorQuery

namespace Addition

/-- The name of an addition is entered into the table: it has one, and there is no definition that it
would hide without being one. -/
def isEntered (addition : Addition) (b : Builder) (scope : Scope) : Bool :=
  let cursor := addition.placed b scope
  addition.isRegistered
    && !(cursor.spelling.isEmpty || (b.isDefined cursor.qualifiedName && !cursor.isDefinition))

theorem isEntered_iff {addition : Addition} {b : Builder} {scope : Scope} :
    addition.isEntered b scope ↔
      addition.isRegistered ∧ (addition.placed b scope).spelling ≠ ""
        ∧ ((addition.placed b scope).isDefinition
          ∨ b.isDefined (addition.placed b scope).qualifiedName = false) := by
  simp [isEntered, or_comm]

end Addition

namespace Builder

variable {b : Builder} {scope : Scope} {addition : Addition} {id : Nat}

theorem isDefined_eq {b' : Builder} (hnames : b'.names = b.names)
    (hcursor : ∀ entry ∈ b.names, b'.cursor entry.2 = b.cursor entry.2) (name : String) :
    b'.isDefined name = b.isDefined name := by
  unfold isDefined
  rw [hnames]
  cases hlookup : b.names.lookup name with
  | none => rfl
  | some id =>
    dsimp only
    rw [hcursor _ (mem_names_of_lookup hlookup)]

def NamesBounded (b : Builder) : Prop :=
  ∀ entry ∈ b.names, entry.2 < b.nextId

theorem WellFormed.namesBounded (hb : b.WellFormed) : b.NamesBounded :=
  fun entry hentry => (hb.names entry hentry).1

theorem NamesBounded.add (h : b.NamesBounded) (scope : Scope) (addition : Addition) :
    (b.add scope addition).NamesBounded := by
  intro entry hentry
  rw [nextId_add]
  cases mem_names_add hentry with
  | inl hentry =>
    have := h entry hentry
    omega
  | inr hentry => omega

theorem names_add (hnames : b.NamesBounded) (scope : Scope) (addition : Addition) :
    (b.add scope addition).names =
      if addition.isEntered b scope then
        ((addition.placed b scope).qualifiedName, b.nextId) :: b.names
      else b.names := by
  let pushed := b.push scope (addition.cursor b scope)
  have hcursors : pushed.cursors = b.cursors.push (addition.placed b scope) := by
    simp only [pushed, push, Addition.placed, Addition.getD_semanticParent_cursor]
  have hnew : pushed.cursor b.nextId = addition.placed b scope := by
    unfold cursor nextId
    rw [hcursors, Array.getElem?_push_size]
    rfl
  have hdefined : pushed.isDefined (addition.placed b scope).qualifiedName =
      b.isDefined (addition.placed b scope).qualifiedName := by
    apply isDefined_eq (show pushed.names = b.names from rfl)
    intro entry hentry
    have hlt := hnames entry hentry
    unfold cursor
    rw [hcursors, Array.getElem?_push_lt hlt, Array.getElem?_eq_getElem hlt]
  unfold add Addition.isEntered
  dsimp only
  split
  · next hregistered =>
    unfold register
    dsimp only
    rw [hnew, hdefined]
    split
    · next hskip => simp [hskip, push]
    · next henter => simp [hregistered, henter, push]
  · next hregistered => simp [hregistered, push]

theorem lookup_names_add (hnames : b.NamesBounded) (scope : Scope) (addition : Addition)
    (name : String) :
    (b.add scope addition).names.lookup name =
      if addition.isEntered b scope ∧ name = (addition.placed b scope).qualifiedName then
        some b.nextId
      else b.names.lookup name := by
  rw [names_add hnames]
  by_cases hentered : addition.isEntered b scope
  · by_cases hname : name = (addition.placed b scope).qualifiedName
    · simp [hentered, hname]
    · have hother : (name == (addition.placed b scope).qualifiedName) = false := by simpa using hname
      simp [hentered, hname, List.lookup_cons, hother]
  · simp [hentered]

theorem isDefined_add (hnames : b.NamesBounded) (scope : Scope) (addition : Addition)
    (name : String) :
    (b.add scope addition).isDefined name =
      if addition.isEntered b scope ∧ name = (addition.placed b scope).qualifiedName then
        (addition.placed b scope).isDefinition
      else b.isDefined name := by
  unfold isDefined
  rw [lookup_names_add hnames]
  by_cases hnew : addition.isEntered b scope ∧ name = (addition.placed b scope).qualifiedName
  · rw [if_pos hnew, if_pos hnew]
    dsimp only
    rw [cursor_add_nextId]
  · rw [if_neg hnew, if_neg hnew]
    cases hlookup : b.names.lookup name with
    | none => rfl
    | some id =>
      dsimp only
      rw [cursor_add_of_lt (hnames _ (mem_names_of_lookup hlookup))]

def NamesSpelled (b : Builder) : Prop :=
  ∀ entry ∈ b.names, (b.cursor entry.2).spelling ≠ ""

theorem NamesSpelled.add (h : b.NamesSpelled) (hb : b.WellFormed) (scope : Scope)
    (addition : Addition) : (b.add scope addition).NamesSpelled := by
  have hold : ∀ entry ∈ b.names, ((b.add scope addition).cursor entry.2).spelling ≠ "" := by
    intro entry hentry
    rw [cursor_add_of_lt (hb.names entry hentry).1]
    exact h entry hentry
  intro entry hentry
  rw [names_add hb.namesBounded] at hentry
  split at hentry
  · next hentered =>
    cases List.mem_cons.mp hentry with
    | inl heq =>
      rw [heq, cursor_add_nextId]
      intro hempty
      simp [Addition.isEntered, hempty] at hentered
    | inr hentry => exact hold entry hentry
  · exact hold entry hentry

end Builder

namespace TranslationUnit

theorem namesSpelled_of_mem_trace {source : Source} {tree : ParseTree} {options : Options}
    {action : Lowering.Action} (h : action ∈ trace source tree options) :
    action.before.NamesSpelled := by
  have hstart : (start source tree).NamesSpelled := by simp [Builder.NamesSpelled, start]
  exact (runs_build source tree options).preserves (fun hb _ hnames => hnames.add hb _ _)
    (wellFormed_start source tree) hstart action h

end TranslationUnit
end CursorQuery
