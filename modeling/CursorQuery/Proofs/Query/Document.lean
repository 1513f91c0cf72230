import CursorQuery.Proofs.Formula
import CursorQuery.Query.File

/-!
This module contains which documents are read as which queries. What a query is written as is defined
on its own, along the query. A document is read as a query exactly if the query is written as the
document, and it is not read at all exactly if there is something in it, in the place of a query, that
cannot be one.
-/

namespace CursorQuery

section Vocabulary

variable {α : Type} {names : List α} {name : α → String}

theorem find?_name_eq_some_iff (hall : ∀ a, a ∈ names) (hnodup : (names.map name).Nodup) (s : String)
    (a : α) : names.find? (fun b => name b == s) = some a ↔ name a = s := by
  constructor
  · intro h
    simpa using List.find?_some h
  · intro h
    have hsome : (names.find? fun b => name b == s).isSome := by
      rw [List.find?_isSome]
      exact ⟨a, hall a, by simpa using h⟩
    obtain ⟨b, hb⟩ := Option.isSome_iff_exists.mp hsome
    have hname : name b = name a := by
      rw [h]
      simpa using List.find?_some hb
    rw [hb, List.inj_on_of_nodup_map hnodup (hall b) (hall a) hname]

theorem Category.ofName?_eq_some_iff (s : String) (category : Category) :
    Category.ofName? s = some category ↔ category.name = s :=
  find?_name_eq_some_iff (fun category => by cases category <;> decide) (by decide) s category

theorem CursorKind.ofName?_eq_some_iff (s : String) (kind : CursorKind) :
    CursorKind.ofName? s = some kind ↔ kind.name = s :=
  find?_name_eq_some_iff (fun kind => by cases kind <;> decide) (by decide) s kind

theorem Access.ofName?_eq_some_iff (s : String) (level : Access) :
    Access.ofName? s = some level ↔ level.name = s :=
  find?_name_eq_some_iff (fun level => by cases level <;> decide) (by decide) s level

theorem Step.ofName?_eq_some_iff (s : String) (step : Step) :
    Step.ofName? s = some step ↔ step.name = s :=
  find?_name_eq_some_iff (fun step => by cases step <;> decide) (by decide) s step

end Vocabulary

namespace Document

/-- A document that stands for nothing under the name of a constant. -/
def IsUnit (format : Format) (document : Document) : Prop :=
  match format with
  | .json => document = null
  | .toml => document = table [] ∨ document = list []

inductive Names (format : Format) : Document → String → Prop where
  | text (name : String) : Names format (string name) name
  | unit {value : Document} (name : String) (h : IsUnit format value) :
    Names format (single name value) name

inductive WritesLeaf (format : Format) : Leaf String → Document → Prop where
  | isA {family : Category} {value : Document} (h : Names format value family.name) :
    WritesLeaf format (.isA family) (single "is" value)
  | kind {kind : CursorKind} {value : Document} (h : Names format value kind.name) :
    WritesLeaf format (.kind kind) (single "kind" value)
  | access {level : Access} {value : Document} (h : Names format value level.name) :
    WritesLeaf format (.access level) (single "access" value)
  | name (pattern : String) : WritesLeaf format (.name pattern) (single "name" (string pattern))
  | typename (spelling : String) :
    WritesLeaf format (.typename spelling) (single "typename" (string spelling))
  | inFile (files : List String) :
    WritesLeaf format (.inFile files) (single "in_file" (list (files.map string)))

/--
A step and what `part` stands for are written as a table, in which other keys do not count and the
semantic parent may be left out, or as a list of both.
-/
inductive WritesAncestry (format : Format) : Step → Document → Document → Prop where
  | omitted {part : Document} {entries : List (String × Document)}
    (hstep : get? entries "step" = none) (hmatches : get? entries "matches" = some part) :
    WritesAncestry format .semanticParent part (table entries)
  | table {step : Step} {written part : Document} {entries : List (String × Document)}
    (hstep : get? entries "step" = some written) (hname : Names format written step.name)
    (hmatches : get? entries "matches" = some part) :
    WritesAncestry format step part (table entries)
  | list {step : Step} {written part : Document} {extra : List Document}
    (hname : Names format written step.name) (hextra : format = .json → extra = []) :
    WritesAncestry format step part (list (written :: part :: extra))

inductive Writes (format : Format) : Query → Document → Prop where
  | leaf {test : Leaf String} {document : Document} (h : WritesLeaf format test document) :
    Writes format (.leaf test) document
  | all {parts : List Query} {items : List Document} (h : List.Forall₂ (Writes format) parts items) :
    Writes format (.all parts) (single "all" (list items))
  | any {parts : List Query} {items : List Document} (h : List.Forall₂ (Writes format) parts items) :
    Writes format (.any parts) (single "any" (list items))
  | not {part : Query} {value : Document} (h : Writes format part value) :
    Writes format (.not part) (single "not" value)
  | anyChild {part : Query} {value : Document} (h : Writes format part value) :
    Writes format (.anyChild part) (single "any_child" value)
  | allChildren {part : Query} {value : Document} (h : Writes format part value) :
    Writes format (.allChildren part) (single "all_children" value)
  | anyPredecessor {step : Step} {part : Query} {inner value : Document} (h : Writes format part inner)
    (hvalue : WritesAncestry format step inner value) :
    Writes format (.anyPredecessor step part) (single "any_predecessor" value)
  | allPredecessors {step : Step} {part : Query} {inner value : Document} (h : Writes format part inner)
    (hvalue : WritesAncestry format step inner value) :
    Writes format (.allPredecessors step part) (single "all_predecessors" value)

def listKeys : List String :=
  ["all", "any"]

def operandKeys : List String :=
  ["not", "any_child", "all_children"]

def ancestryKeys : List String :=
  ["any_predecessor", "all_predecessors"]

def leafKeys : List String :=
  ["is", "kind", "access", "name", "typename", "in_file"]

/-- `PartOf part document`: the part stands in the place of a query, directly inside of the document. -/
inductive PartOf : Document → Document → Prop where
  | item {key : String} {items : List Document} {part : Document} (hkey : key ∈ listKeys)
    (h : part ∈ items) : PartOf part (single key (list items))
  | operand {key : String} {part : Document} (hkey : key ∈ operandKeys) : PartOf part (single key part)
  | field {key : String} {entries : List (String × Document)} {part : Document}
    (hkey : key ∈ ancestryKeys) (h : get? entries "matches" = some part) :
    PartOf part (single key (table entries))
  | second {key : String} {step part : Document} {extra : List Document} (hkey : key ∈ ancestryKeys) :
    PartOf part (single key (list (step :: part :: extra)))

/-- `Inside part document`: the part stands in the place of a query, at some depth of the document. -/
def Inside : Document → Document → Prop :=
  Relation.ReflTransGen PartOf

inductive MalformedAncestry (format : Format) : Document → Prop where
  | shape {value : Document} (htable : ∀ entries, value ≠ table entries)
    (hlist : ∀ step part extra, value ≠ list (step :: part :: extra)) : MalformedAncestry format value
  | noMatches {entries : List (String × Document)} (h : get? entries "matches" = none) :
    MalformedAncestry format (table entries)
  | step {entries : List (String × Document)} {value : Document}
    (hvalue : get? entries "step" = some value) (h : ∀ step : Step, ¬ Names format value step.name) :
    MalformedAncestry format (table entries)
  | first {value part : Document} {extra : List Document}
    (h : ∀ step : Step, ¬ Names format value step.name) :
    MalformedAncestry format (list (value :: part :: extra))
  | tooLong {step part : Document} {extra : List Document} (hformat : format = .json)
    (h : extra ≠ []) : MalformedAncestry format (list (step :: part :: extra))

/-- A document that is no query, whatever stands in the places of queries inside of it. -/
inductive Malformed (format : Format) : Document → Prop where
  | shape {document : Document} (h : ∀ key value, document ≠ single key value) :
    Malformed format document
  | key {key : String} {value : Document}
    (h : key ∉ listKeys ++ operandKeys ++ ancestryKeys ++ leafKeys) :
    Malformed format (single key value)
  | category {value : Document} (h : ∀ family : Category, ¬ Names format value family.name) :
    Malformed format (single "is" value)
  | kind {value : Document} (h : ∀ kind : CursorKind, ¬ Names format value kind.name) :
    Malformed format (single "kind" value)
  | access {value : Document} (h : ∀ level : Access, ¬ Names format value level.name) :
    Malformed format (single "access" value)
  | name {value : Document} (h : ∀ text, value ≠ string text) : Malformed format (single "name" value)
  | typename {value : Document} (h : ∀ text, value ≠ string text) :
    Malformed format (single "typename" value)
  | inFile {value : Document} (h : ∀ files : List String, value ≠ list (files.map string)) :
    Malformed format (single "in_file" value)
  | list {key : String} {value : Document} (hkey : key ∈ listKeys) (h : ∀ items, value ≠ list items) :
    Malformed format (single key value)
  | ancestry {key : String} {value : Document} (hkey : key ∈ ancestryKeys)
    (h : MalformedAncestry format value) : Malformed format (single key value)

inductive Shape (format : Format) : Document → Prop where
  | malformed {document : Document} (h : Malformed format document) : Shape format document
  | leaf {test : Leaf String} {document : Document} (h : WritesLeaf format test document) :
    Shape format document
  | all (items : List Document) : Shape format (single "all" (list items))
  | any (items : List Document) : Shape format (single "any" (list items))
  | not (part : Document) : Shape format (single "not" part)
  | anyChild (part : Document) : Shape format (single "any_child" part)
  | allChildren (part : Document) : Shape format (single "all_children" part)
  | anyPredecessor {step : Step} {part value : Document} (h : WritesAncestry format step part value) :
    Shape format (single "any_predecessor" value)
  | allPredecessors {step : Step} {part value : Document} (h : WritesAncestry format step part value) :
    Shape format (single "all_predecessors" value)

variable {format : Format}

section Constants

variable {α : Type} {value : Document} {name : α → String} {read : String → Option α}

theorem constant?_eq_some_iff {s : String} : value.constant? format = some s ↔ Names format value s := by
  constructor
  · intro h
    unfold constant? at h
    split at h
    · rw [← Option.some.inj h]
      exact .text _
    · split at h
      · rw [← Option.some.inj h]
        exact .unit _ rfl
      · rw [← Option.some.inj h]
        exact .unit _ (.inl rfl)
      · rw [← Option.some.inj h]
        exact .unit _ (.inr rfl)
      · contradiction
    · contradiction
  · intro h
    cases h with
    | text => rfl
    | unit _ h =>
      cases format with
      | json =>
        obtain rfl : _ = null := h
        rfl
      | toml =>
        obtain rfl | rfl : _ = table [] ∨ _ = list [] := h
        · rfl
        · rfl

theorem constant?_bind_eq_some_iff (hread : ∀ s a, read s = some a ↔ name a = s) (a : α) :
    (value.constant? format).bind read = some a ↔ Names format value (name a) := by
  simp only [Option.bind_eq_some_iff, constant?_eq_some_iff, hread, exists_eq_right']

theorem constant?_bind_eq_none_iff (hread : ∀ s a, read s = some a ↔ name a = s) :
    (value.constant? format).bind read = none ↔ ∀ a, ¬ Names format value (name a) := by
  simp only [Option.eq_none_iff_forall_ne_some, ne_eq, constant?_bind_eq_some_iff hread]

end Constants

section Leaves

variable {key : String} {value document : Document} {test : Leaf String}

theorem bind_ofName? {α β : Type} (name? : Option String) (read : String → Option α) (f : α → β) :
    (do return f (← read (← name?))) = (name?.bind read).map f := by
  cases name? with
  | none => rfl
  | some name =>
    rw [Option.bind_some, Option.map_eq_bind]
    rfl

theorem leaf?_is :
    leaf? format "is" value = ((value.constant? format).bind Category.ofName?).map .isA :=
  bind_ofName? _ _ _

theorem leaf?_kind :
    leaf? format "kind" value = ((value.constant? format).bind CursorKind.ofName?).map .kind :=
  bind_ofName? _ _ _

theorem leaf?_access :
    leaf? format "access" value = ((value.constant? format).bind Access.ofName?).map .access :=
  bind_ofName? _ _ _

theorem leaf?_name : leaf? format "name" value = value.text?.map .name := by
  rw [leaf?, Option.map_eq_bind]
  rfl

theorem leaf?_typename : leaf? format "typename" value = value.text?.map .typename := by
  rw [leaf?, Option.map_eq_bind]
  rfl

theorem leaf?_inFile : leaf? format "in_file" value = value.texts?.map .inFile := by
  rw [leaf?, Option.map_eq_bind]
  rfl

theorem text?_eq_some_iff {text : String} : value.text? = some text ↔ value = string text := by
  cases value with
  | string text' => simp [text?]
  | _ => simp [text?]

theorem text?_eq_none (h : ∀ text, value ≠ string text) : value.text? = none := by
  simpa only [Option.eq_none_iff_forall_ne_some, ne_eq, text?_eq_some_iff] using h

theorem mapM_text?_eq_some_iff {items : List Document} {files : List String} :
    items.mapM text? = some files ↔ items = files.map string := by
  induction items generalizing files with
  | nil => simp [eq_comm]
  | cons item items ih =>
    cases files with
    | nil => simp [Option.bind_eq_some_iff]
    | cons file files => simp [Option.bind_eq_some_iff, text?_eq_some_iff, ih]

theorem texts?_eq_some_iff {files : List String} :
    value.texts? = some files ↔ value = list (files.map string) := by
  cases value with
  | list items => simp [texts?, mapM_text?_eq_some_iff]
  | _ => simp [texts?]

theorem texts?_eq_none (h : ∀ files : List String, value ≠ list (files.map string)) :
    value.texts? = none := by
  simpa only [Option.eq_none_iff_forall_ne_some, ne_eq, texts?_eq_some_iff] using h

theorem query?_single (h : key ∉ listKeys ++ operandKeys ++ ancestryKeys) :
    query? format (single key value) = (leaf? format key value).map .leaf := by
  unfold query? single
  dsimp only
  split
  case h_8 => rfl
  all_goals simp [listKeys, operandKeys, ancestryKeys] at h

theorem leaf?_eq_none (h : key ∉ leafKeys) : leaf? format key value = none := by
  unfold leaf?
  split
  case h_7 => rfl
  all_goals simp [leafKeys] at h

theorem query?_leaf (h : WritesLeaf format test document) :
    query? format document = some (.leaf test) := by
  cases h with
  | isA h =>
    have hname := (constant?_bind_eq_some_iff Category.ofName?_eq_some_iff _).mpr h
    rw [query?_single (by decide), leaf?_is, hname]
    rfl
  | kind h =>
    have hname := (constant?_bind_eq_some_iff CursorKind.ofName?_eq_some_iff _).mpr h
    rw [query?_single (by decide), leaf?_kind, hname]
    rfl
  | access h =>
    have hname := (constant?_bind_eq_some_iff Access.ofName?_eq_some_iff _).mpr h
    rw [query?_single (by decide), leaf?_access, hname]
    rfl
  | name pattern => rfl
  | typename spelling => rfl
  | inFile files =>
    rw [query?_single (by decide), leaf?_inFile, texts?_eq_some_iff.mpr rfl]
    rfl

end Leaves

section Parts

variable {key : String} {value part : Document} {items : List Document} {step : Step}

theorem query?_single_all : query? format (single "all" value) = (queries? format value).map .all :=
  rfl

theorem query?_single_any : query? format (single "any" value) = (queries? format value).map .any :=
  rfl

theorem query?_not : query? format (single "not" part) = (query? format part).map .not :=
  rfl

theorem query?_anyChild : query? format (single "any_child" part) = (query? format part).map .anyChild :=
  rfl

theorem query?_allChildren :
    query? format (single "all_children" part) = (query? format part).map .allChildren :=
  rfl

theorem query?_single_anyPredecessor :
    query? format (single "any_predecessor" value) =
      (ancestorPart? format value).map fun (step, part) => .anyPredecessor step part :=
  rfl

theorem query?_single_allPredecessors :
    query? format (single "all_predecessors" value) =
      (ancestorPart? format value).map fun (step, part) => .allPredecessors step part :=
  rfl

theorem queryList?_eq_some_iff {parts : List Query} :
    queryList? format items = some parts ↔
      List.Forall₂ (fun part item => query? format item = some part) parts items := by
  induction items generalizing parts with
  | nil =>
    rw [queryList?, List.forall₂_nil_right_iff, Option.some.injEq, eq_comm]
  | cons item items ih =>
    rw [queryList?, List.forall₂_cons_right_iff]
    cases query? format item with
    | none => simp
    | some query => simp [ih, eq_comm]

theorem queryList?_eq_none_iff :
    queryList? format items = none ↔ ∃ item ∈ items, query? format item = none := by
  induction items with
  | nil => simp [queryList?]
  | cons item items ih =>
    rw [queryList?]
    cases hitem : query? format item with
    | none => simp [hitem]
    | some query => simp [hitem, ih]

theorem matches?_eq {entries : List (String × Document)} :
    matches? format entries = (get? entries "matches").bind (query? format) := by
  induction entries with
  | nil => rfl
  | cons entry entries ih =>
    rw [matches?, ih, get?, get?, List.lookup_cons]
    by_cases hkey : entry.1 = "matches"
    · simp [hkey]
    · have hlookup : ("matches" == entry.1) = false := by simpa using Ne.symm hkey
      simp [hkey, hlookup]

theorem allowsExtra_iff {extra : List Document} :
    allowsExtra format extra ↔ (format = .json → extra = []) := by
  cases format with
  | json => simp [allowsExtra]
  | toml => simp [allowsExtra]

theorem ancestorPart?_of_writes (h : WritesAncestry format step part value) :
    ancestorPart? format value = (query? format part).map (step, ·) := by
  have hstep {written : Document} {step : Step} (hname : Names format written step.name) :
      (written.constant? format).bind Step.ofName? = some step :=
    (constant?_bind_eq_some_iff Step.ofName?_eq_some_iff step).mpr hname
  cases h with
  | omitted hnone hmatches =>
    rw [ancestorPart?, step?, hnone, matches?_eq, hmatches, Option.bind_some]
    cases query? format part <;> rfl
  | table hsome hname hmatches =>
    rw [ancestorPart?, step?, hsome, matches?_eq, hmatches, Option.bind_some]
    dsimp only
    rw [hstep hname]
    cases query? format part <;> rfl
  | list hname hextra =>
    rw [ancestorPart?, hstep hname, allowsExtra_iff.mpr hextra]
    cases query? format part <;> rfl

theorem query?_anyPredecessor (h : WritesAncestry format step part value) :
    query? format (single "any_predecessor" value) =
      (query? format part).map (.anyPredecessor step) := by
  rw [query?_single_anyPredecessor, ancestorPart?_of_writes h, Option.map_map]
  rfl

theorem query?_allPredecessors (h : WritesAncestry format step part value) :
    query? format (single "all_predecessors" value) =
      (query? format part).map (.allPredecessors step) := by
  rw [query?_single_allPredecessors, ancestorPart?_of_writes h, Option.map_map]
  rfl

theorem query?_eq_none_of_ancestorPart? (hkey : key ∈ ancestryKeys)
    (h : ancestorPart? format value = none) : query? format (single key value) = none := by
  obtain rfl | rfl : key = "any_predecessor" ∨ key = "all_predecessors" := by
    simpa [ancestryKeys] using hkey
  · rw [query?_single_anyPredecessor, h]
    rfl
  · rw [query?_single_allPredecessors, h]
    rfl

theorem query?_eq_none_of_queries? (hkey : key ∈ listKeys) (h : queries? format value = none) :
    query? format (single key value) = none := by
  obtain rfl | rfl : key = "all" ∨ key = "any" := by simpa [listKeys] using hkey
  · rw [query?_single_all, h]
    rfl
  · rw [query?_single_any, h]
    rfl

end Parts

section Malformed

variable {key : String} {value part document : Document}

theorem ancestorPart?_malformed (h : MalformedAncestry format value) :
    ancestorPart? format value = none := by
  have hstep {value : Document} (h : ∀ step : Step, ¬ Names format value step.name) :
      (value.constant? format).bind Step.ofName? = none :=
    (constant?_bind_eq_none_iff Step.ofName?_eq_some_iff).mpr h
  cases h with
  | shape htable hlist =>
    unfold ancestorPart?
    split
    · exact absurd rfl (htable _)
    · exact absurd rfl (hlist _ _ _)
    · rfl
  | noMatches h =>
    rw [ancestorPart?, matches?_eq, h]
    cases step? format _ <;> rfl
  | step hvalue h =>
    rw [ancestorPart?, step?, hvalue]
    dsimp only
    rw [hstep h]
  | first h => rw [ancestorPart?, hstep h]
  | @tooLong _ _ extra hformat h =>
    have hextra : allowsExtra format extra = false := by
      rw [Bool.eq_false_iff, ne_eq, allowsExtra_iff]
      exact fun hextra => h (hextra hformat)
    rw [ancestorPart?, hextra]
    split <;> rfl

theorem query?_malformed (h : Malformed format document) : query? format document = none := by
  cases h with
  | shape h =>
    unfold query?
    split
    · exact absurd rfl (h _ _)
    · rfl
  | key h =>
    rw [List.mem_append, not_or] at h
    rw [query?_single h.1, leaf?_eq_none h.2]
    rfl
  | category h =>
    rw [query?_single (by decide), leaf?_is,
      (constant?_bind_eq_none_iff Category.ofName?_eq_some_iff).mpr h]
    rfl
  | kind h =>
    rw [query?_single (by decide), leaf?_kind,
      (constant?_bind_eq_none_iff CursorKind.ofName?_eq_some_iff).mpr h]
    rfl
  | access h =>
    rw [query?_single (by decide), leaf?_access,
      (constant?_bind_eq_none_iff Access.ofName?_eq_some_iff).mpr h]
    rfl
  | name h =>
    rw [query?_single (by decide), leaf?_name, text?_eq_none h]
    rfl
  | typename h =>
    rw [query?_single (by decide), leaf?_typename, text?_eq_none h]
    rfl
  | inFile h =>
    rw [query?_single (by decide), leaf?_inFile, texts?_eq_none h]
    rfl
  | list hkey h =>
    apply query?_eq_none_of_queries? hkey
    unfold queries?
    split
    · exact absurd rfl (h _)
    · rfl
  | ancestry hkey h => exact query?_eq_none_of_ancestorPart? hkey (ancestorPart?_malformed h)

theorem PartOf.query?_eq_none (hpart : PartOf part document) (h : query? format part = none) :
    query? format document = none := by
  cases hpart with
  | item hkey hmem =>
    apply query?_eq_none_of_queries? hkey
    rw [queries?, queryList?_eq_none_iff]
    exact ⟨part, hmem, h⟩
  | operand hkey =>
    obtain rfl | rfl | rfl : _ = "not" ∨ _ = "any_child" ∨ _ = "all_children" := by
      simpa [operandKeys] using hkey
    · rw [query?_not, h]
      rfl
    · rw [query?_anyChild, h]
      rfl
    · rw [query?_allChildren, h]
      rfl
  | field hkey hmatches =>
    apply query?_eq_none_of_ancestorPart? hkey
    rw [ancestorPart?, matches?_eq, hmatches, Option.bind_some, h]
    cases step? format _ <;> rfl
  | @second _ step _ _ hkey =>
    apply query?_eq_none_of_ancestorPart? hkey
    rw [ancestorPart?, h]
    cases (step.constant? format).bind Step.ofName? <;> rfl

theorem ancestry_shape (format : Format) (value : Document) :
    MalformedAncestry format value ∨ ∃ step part, WritesAncestry format step part value := by
  by_cases hshape : (∃ entries, value = table entries) ∨
      ∃ step part extra, value = list (step :: part :: extra)
  · rcases hshape with ⟨entries, rfl⟩ | ⟨written, part, extra, rfl⟩
    · cases hmatches : get? entries "matches" with
      | none => exact .inl (.noMatches hmatches)
      | some part =>
        cases hstep : get? entries "step" with
        | none => exact .inr ⟨_, part, .omitted hstep hmatches⟩
        | some written =>
          by_cases hname : ∃ step : Step, Names format written step.name
          · obtain ⟨step, hname⟩ := hname
            exact .inr ⟨step, part, .table hstep hname hmatches⟩
          · exact .inl (.step hstep (not_exists.mp hname))
    · by_cases hname : ∃ step : Step, Names format written step.name
      · obtain ⟨step, hname⟩ := hname
        by_cases hextra : format = .json → extra = []
        · exact .inr ⟨step, part, .list hname hextra⟩
        · rw [Classical.not_imp] at hextra
          exact .inl (.tooLong hextra.1 hextra.2)
      · exact .inl (.first (not_exists.mp hname))
  · simp only [not_or, not_exists] at hshape
    exact .inl (.shape hshape.1 hshape.2)

theorem shape_of_mem_listKeys (hkey : key ∈ listKeys) : Shape format (single key value) := by
  by_cases hitems : ∃ items, value = list items
  · obtain ⟨items, rfl⟩ := hitems
    obtain rfl | rfl : key = "all" ∨ key = "any" := by simpa [listKeys] using hkey
    · exact .all items
    · exact .any items
  · exact .malformed (.list hkey (not_exists.mp hitems))

theorem shape_of_mem_operandKeys (hkey : key ∈ operandKeys) : Shape format (single key value) := by
  obtain rfl | rfl | rfl : key = "not" ∨ key = "any_child" ∨ key = "all_children" := by
    simpa [operandKeys] using hkey
  · exact .not value
  · exact .anyChild value
  · exact .allChildren value

theorem shape_of_mem_ancestryKeys (hkey : key ∈ ancestryKeys) : Shape format (single key value) := by
  cases ancestry_shape format value with
  | inl hmalformed => exact .malformed (.ancestry hkey hmalformed)
  | inr hwrites =>
    obtain ⟨step, part, hwrites⟩ := hwrites
    obtain rfl | rfl : key = "any_predecessor" ∨ key = "all_predecessors" := by
      simpa [ancestryKeys] using hkey
    · exact .anyPredecessor hwrites
    · exact .allPredecessors hwrites

theorem shape_of_mem_leafKeys (hkey : key ∈ leafKeys) : Shape format (single key value) := by
  obtain rfl | rfl | rfl | rfl | rfl | rfl : key = "is" ∨ key = "kind" ∨ key = "access" ∨ key = "name"
      ∨ key = "typename" ∨ key = "in_file" := by
    simpa [leafKeys] using hkey
  · by_cases h : ∃ family : Category, Names format value family.name
    · exact .leaf (.isA h.choose_spec)
    · exact .malformed (.category (not_exists.mp h))
  · by_cases h : ∃ kind : CursorKind, Names format value kind.name
    · exact .leaf (.kind h.choose_spec)
    · exact .malformed (.kind (not_exists.mp h))
  · by_cases h : ∃ level : Access, Names format value level.name
    · exact .leaf (.access h.choose_spec)
    · exact .malformed (.access (not_exists.mp h))
  · by_cases h : ∃ text, value = string text
    · obtain ⟨text, rfl⟩ := h
      exact .leaf (.name text)
    · exact .malformed (.name (not_exists.mp h))
  · by_cases h : ∃ text, value = string text
    · obtain ⟨text, rfl⟩ := h
      exact .leaf (.typename text)
    · exact .malformed (.typename (not_exists.mp h))
  · by_cases h : ∃ files : List String, value = list (files.map string)
    · obtain ⟨files, rfl⟩ := h
      exact .leaf (.inFile files)
    · exact .malformed (.inFile (not_exists.mp h))

theorem shape (format : Format) (document : Document) : Shape format document := by
  by_cases hsingle : ∃ key value, document = single key value
  · obtain ⟨key, value, rfl⟩ := hsingle
    by_cases hkey : key ∈ listKeys ++ operandKeys ++ ancestryKeys ++ leafKeys
    · simp only [List.mem_append] at hkey
      obtain ((hkey | hkey) | hkey) | hkey := hkey
      · exact shape_of_mem_listKeys hkey
      · exact shape_of_mem_operandKeys hkey
      · exact shape_of_mem_ancestryKeys hkey
      · exact shape_of_mem_leafKeys hkey
    · exact .malformed (.key hkey)
  · simp only [not_exists] at hsingle
    exact .malformed (.shape hsingle)

end Malformed

section Exact

variable {document part : Document} {query : Query} {step : Step}

theorem WritesAncestry.partOf {key : String} {value : Document} (hkey : key ∈ ancestryKeys)
    (h : WritesAncestry format step part value) : PartOf part (single key value) := by
  cases h with
  | omitted _ hmatches => exact .field hkey hmatches
  | table _ _ hmatches => exact .field hkey hmatches
  | list => exact .second hkey

theorem sizeOf_lt_of_get? {entries : List (String × Document)} {key : String}
    (h : get? entries key = some part) : sizeOf part < sizeOf entries := by
  induction entries with
  | nil => contradiction
  | cons entry entries ih =>
    rw [get?, List.lookup_cons] at h
    split at h
    · obtain rfl := Option.some.inj h
      cases entry
      simp
      omega
    · have := ih h
      simp
      omega

theorem PartOf.sizeOf_lt (h : PartOf part document) : sizeOf part < sizeOf document := by
  cases h with
  | item _ hmem =>
    have := List.sizeOf_lt_of_mem hmem
    simp [single]
    omega
  | operand =>
    simp [single]
    omega
  | field _ hmatches =>
    have := sizeOf_lt_of_get? hmatches
    simp [single]
    omega
  | second =>
    simp [single]
    omega

theorem partOf_wellFounded : WellFounded PartOf :=
  Subrelation.wf (fun h => PartOf.sizeOf_lt h) (sizeOfWFRel (α := Document)).wf

theorem forall₂_imp_of_mem {α β : Type} {R S : α → β → Prop} {as : List α} {bs : List β}
    (h : List.Forall₂ R as bs) (himp : ∀ a ∈ as, ∀ b ∈ bs, R a b → S a b) : List.Forall₂ S as bs := by
  induction h with
  | nil => exact .nil
  | cons hab _ ih =>
    apply List.Forall₂.cons
    · exact himp _ List.mem_cons_self _ List.mem_cons_self hab
    · apply ih
      intro a ha b hb
      exact himp a (List.mem_cons_of_mem _ ha) b (List.mem_cons_of_mem _ hb)

theorem Writes.query?_eq_some (h : Writes format query document) :
    query? format document = some query := by
  induction query using Formula.induct generalizing document with
  | leaf test =>
    cases h with
    | leaf h => exact query?_leaf h
  | all parts ih =>
    cases h with
    | all h =>
      have hparts := forall₂_imp_of_mem h fun part hpart _ _ hwrites => ih part hpart hwrites
      rw [query?_single_all, queries?, queryList?_eq_some_iff.mpr hparts]
      rfl
  | any parts ih =>
    cases h with
    | any h =>
      have hparts := forall₂_imp_of_mem h fun part hpart _ _ hwrites => ih part hpart hwrites
      rw [query?_single_any, queries?, queryList?_eq_some_iff.mpr hparts]
      rfl
  | not part ih =>
    cases h with
    | not h =>
      rw [query?_not, ih h]
      rfl
  | anyChild part ih =>
    cases h with
    | anyChild h =>
      rw [query?_anyChild, ih h]
      rfl
  | allChildren part ih =>
    cases h with
    | allChildren h =>
      rw [query?_allChildren, ih h]
      rfl
  | anyPredecessor step part ih =>
    cases h with
    | anyPredecessor h hvalue =>
      rw [query?_anyPredecessor hvalue, ih h]
      rfl
  | allPredecessors step part ih =>
    cases h with
    | allPredecessors h hvalue =>
      rw [query?_allPredecessors hvalue, ih h]
      rfl

theorem writes_of_query?_eq_some (h : query? format document = some query) :
    Writes format query document := by
  -- The induction is on the documents that stand in the places of queries.
  induction document using partOf_wellFounded.induction generalizing query with
  | _ document ih =>
    cases shape format document with
    | malformed hmalformed =>
      rw [query?_malformed hmalformed] at h
      contradiction
    | leaf hwrites =>
      rw [query?_leaf hwrites] at h
      obtain rfl := Option.some.inj h
      exact .leaf hwrites
    | all items =>
      obtain ⟨parts, hparts, rfl⟩ := Option.map_eq_some_iff.mp h
      have hforall := queryList?_eq_some_iff.mp hparts
      exact .all (forall₂_imp_of_mem hforall fun _ _ _ hitem h => ih _ (.item (by decide) hitem) h)
    | any items =>
      obtain ⟨parts, hparts, rfl⟩ := Option.map_eq_some_iff.mp h
      have hforall := queryList?_eq_some_iff.mp hparts
      exact .any (forall₂_imp_of_mem hforall fun _ _ _ hitem h => ih _ (.item (by decide) hitem) h)
    | not part =>
      obtain ⟨part, hpart, rfl⟩ := Option.map_eq_some_iff.mp h
      exact .not (ih _ (.operand (by decide)) hpart)
    | anyChild part =>
      obtain ⟨part, hpart, rfl⟩ := Option.map_eq_some_iff.mp h
      exact .anyChild (ih _ (.operand (by decide)) hpart)
    | allChildren part =>
      obtain ⟨part, hpart, rfl⟩ := Option.map_eq_some_iff.mp h
      exact .allChildren (ih _ (.operand (by decide)) hpart)
    | anyPredecessor hvalue =>
      rw [query?_anyPredecessor hvalue] at h
      obtain ⟨part, hpart, rfl⟩ := Option.map_eq_some_iff.mp h
      exact .anyPredecessor (ih _ (hvalue.partOf (by decide)) hpart) hvalue
    | allPredecessors hvalue =>
      rw [query?_allPredecessors hvalue] at h
      obtain ⟨part, hpart, rfl⟩ := Option.map_eq_some_iff.mp h
      exact .allPredecessors (ih _ (hvalue.partOf (by decide)) hpart) hvalue

theorem query?_eq_some_iff : query? format document = some query ↔ Writes format query document :=
  ⟨writes_of_query?_eq_some, Writes.query?_eq_some⟩

theorem malformed_or_exists_partOf (h : query? format document = none) :
    Malformed format document ∨ ∃ part, PartOf part document ∧ query? format part = none := by
  -- Nothing but the shape of a document and its parts can be the reason that it is no query.
  cases shape format document with
  | malformed hmalformed => exact .inl hmalformed
  | leaf hwrites =>
    rw [query?_leaf hwrites] at h
    contradiction
  | all items | any items =>
    obtain ⟨item, hitem, hnone⟩ := queryList?_eq_none_iff.mp (Option.map_eq_none_iff.mp h)
    exact .inr ⟨item, .item (by decide) hitem, hnone⟩
  | not part | anyChild part | allChildren part =>
    exact .inr ⟨part, .operand (by decide), Option.map_eq_none_iff.mp h⟩
  | anyPredecessor hvalue =>
    rw [query?_anyPredecessor hvalue] at h
    exact .inr ⟨_, hvalue.partOf (by decide), Option.map_eq_none_iff.mp h⟩
  | allPredecessors hvalue =>
    rw [query?_allPredecessors hvalue] at h
    exact .inr ⟨_, hvalue.partOf (by decide), Option.map_eq_none_iff.mp h⟩

theorem query?_eq_none_iff :
    query? format document = none ↔ ∃ part, Inside part document ∧ Malformed format part := by
  constructor
  · intro h
    induction document using partOf_wellFounded.induction with
    | _ document ih =>
      cases malformed_or_exists_partOf h with
      | inl hmalformed => exact ⟨document, .refl, hmalformed⟩
      | inr hpart =>
        obtain ⟨part, hpart, hnone⟩ := hpart
        obtain ⟨inner, hinner, hmalformed⟩ := ih part hpart hnone
        exact ⟨inner, hinner.tail hpart, hmalformed⟩
  · rintro ⟨part, hinside, hmalformed⟩
    induction hinside with
    | refl => exact query?_malformed hmalformed
    | tail _ hpart ih => exact hpart.query?_eq_none ih

end Exact

section Written

theorem writes_ofLeaf (test : Leaf String) : WritesLeaf format test (ofLeaf test) := by
  cases test with
  | isA family => exact .isA (.text _)
  | kind kind => exact .kind (.text _)
  | access level => exact .access (.text _)
  | name pattern => exact .name pattern
  | typename spelling => exact .typename spelling
  | inFile files => exact .inFile files

theorem ofQueries_eq (parts : List Query) : ofQueries parts = parts.map ofQuery := by
  induction parts with
  | nil => rfl
  | cons part parts ih => rw [ofQueries, ih, List.map_cons]

theorem writes_ofAncestry (step : Step) (part : Document) :
    WritesAncestry format step part (ofAncestry step part) :=
  .table rfl (.text _) rfl

theorem writes_ofQuery (query : Query) : Writes format query (ofQuery query) := by
  induction query using Formula.induct with
  | leaf test => exact .leaf (writes_ofLeaf test)
  | all parts ih =>
    apply Writes.all
    rw [ofQueries_eq, List.forall₂_map_right_iff, List.forall₂_same]
    exact ih
  | any parts ih =>
    apply Writes.any
    rw [ofQueries_eq, List.forall₂_map_right_iff, List.forall₂_same]
    exact ih
  | not part ih => exact .not ih
  | anyChild part ih => exact .anyChild ih
  | allChildren part ih => exact .allChildren ih
  | anyPredecessor step part ih => exact .anyPredecessor ih (writes_ofAncestry step _)
  | allPredecessors step part ih => exact .allPredecessors ih (writes_ofAncestry step _)

theorem ofDocument?_eq_none {entries : List (String × Document)} {document : Document}
    (hquery : get? entries "query" = some document) (h : query? format document = none) :
    QueryFile.ofDocument? format (table entries) = none := by
  simp [QueryFile.ofDocument?, hquery, h]

variable [Pattern.Engine]

theorem load_eq_malformed {entries : List (String × Document)} {document : Document}
    (hquery : get? entries "query" = some document) (h : query? .toml document = none) :
    QueryFile.load (some (table entries)) = .error .malformed := by
  rw [QueryFile.load, Option.bind_some, ofDocument?_eq_none hquery h]

/--
A document is read as the query that is written as it, and every query is written as some document. A
document is not read exactly if something inside of it, at any depth, stands in the place of a query but
cannot be one, and then the query file around it is not read either.
-/
theorem reads_exactly_written (format : Format) :
    (∀ query document, query? format document = some query ↔ Writes format query document)
      ∧ (∀ query, Writes format query (ofQuery query))
      ∧ (∀ document, query? format document = none ↔
        ∃ part, Inside part document ∧ Malformed format part)
      ∧ ∀ entries document part, get? entries "query" = some document → Inside part document →
        Malformed .toml part → QueryFile.load (some (table entries)) = .error .malformed := by
  refine ⟨fun _ _ => query?_eq_some_iff, writes_ofQuery, fun _ => query?_eq_none_iff, ?_⟩
  intro entries document part hquery hinside hmalformed
  exact load_eq_malformed hquery (query?_eq_none_iff.mpr ⟨part, hinside, hmalformed⟩)

example : query? .json (single "any_predecessor" (table [("note", null),
      ("matches", single "is" (string "class"))])) =
    some (.anyPredecessor .semanticParent (.leaf (.isA .classDecl))) :=
  rfl

end Written

end Document
end CursorQuery
