import CursorQuery.Proofs.Query.NameMatching
import CursorQuery.Proofs.Query.Validation

/-!
This module contains what a query file and the flags of a command come to when they are put together: a
query that holds where the query of the file holds and every flag is satisfied.
-/

namespace CursorQuery

namespace Leaf

variable [Pattern.Engine] {pattern spelling : String}

theorem issue?_name_eq_none_iff :
    (name pattern).issue? = none ↔ Text.isBlankText pattern = false ∧ Pattern.isValid pattern := by
  simp only [issue?]
  cases Text.isBlankText pattern with
  | true => simp
  | false => simp

theorem issue?_typename_eq_none_iff :
    (typename spelling).issue? = none ↔ Text.isBlankText spelling = false := by
  simp only [issue?]
  cases Text.isBlankText spelling with
  | true => simp
  | false => simp

theorem describes_name_iff (hformed : Pattern.IsWellFormed pattern)
    (h : Pattern.isRejected pattern = false) (entity : Entity) :
    (name pattern).Describes entity ↔ Pattern.MatchesWhole pattern entity.spelling := by
  obtain ⟨expression, hread⟩ := hformed
  have hanchored := Pattern.parse_anchored_of_isValid hread (Pattern.isRejected_eq_false_iff.mp h)
  unfold Pattern.anchored at hanchored
  rw [Pattern.matchesWhole_iff hread, Describes, hanchored]
  simp [Regex.isMatch_between_anchors]

end Leaf

namespace FindArgs

variable [Pattern.Engine] {args : FindArgs} {base? : Option QueryFile}

def IsUnfiltered (args : FindArgs) : Prop :=
  args.categories = [] ∧ args.kind = none ∧ args.name = none ∧ args.typename = none
    ∧ args.access = none ∧ args.within = none

def HasPattern (args : FindArgs) (pattern : String) : Prop :=
  args.name = some pattern ∨ args.within = some pattern

/-- A flag has a blank value, or a pattern that is no regular expression by itself. -/
def HasBadValue (args : FindArgs) : Prop :=
  (∃ pattern, args.HasPattern pattern ∧ (Text.isBlankText pattern ∨ ¬ Pattern.isValid pattern))
    ∨ ∃ spelling, args.typename = some spelling ∧ Text.isBlankText spelling

/-- What the flags ask of a node, each of those that are given. -/
structure Admits {ν : Type} (args : FindArgs) (g : Graph ν) (v : ν) : Prop where
  categories : ∀ family ∈ args.categories, family.Describes (g.entity v)
  kind : ∀ kind, args.kind = some kind → (g.entity v).kind = kind
  name : ∀ pattern, args.name = some pattern → Pattern.MatchesWhole pattern (g.entity v).spelling
  typename : ∀ spelling, args.typename = some spelling →
    ∃ type, (g.entity v).type = some type ∧ type.spelling = spelling
  access : ∀ level, args.access = some level → (g.entity v).access = level
  within : ∀ pattern, args.within = some pattern →
    ∃ w, w ≠ v ∧ Reaches g.semanticParent v w ∧ Pattern.MatchesWhole pattern (g.entity w).spelling

omit [Pattern.Engine] in
theorem filters_eq_nil_iff : args.filters = [] ↔ args.IsUnfiltered := by
  simp [filters, IsUnfiltered]

omit [Pattern.Engine] in
theorem forall_mem_filters {P : Query → Prop} :
    (∀ part ∈ args.filters, P part) ↔
      (∀ family ∈ args.categories, P (.leaf (.isA family)))
      ∧ (∀ kind, args.kind = some kind → P (.leaf (.kind kind)))
      ∧ (∀ pattern, args.name = some pattern → P (.leaf (.name pattern)))
      ∧ (∀ spelling, args.typename = some spelling → P (.leaf (.typename spelling)))
      ∧ (∀ level, args.access = some level → P (.leaf (.access level)))
      ∧ ∀ pattern, args.within = some pattern →
        P (.anyPredecessor .semanticParent (.leaf (.name pattern))) := by
  simp [filters, or_imp, forall_and]

theorem not_hasBadValue_iff :
    ¬ args.HasBadValue ↔
      (∀ pattern, args.HasPattern pattern →
        Text.isBlankText pattern = false ∧ Pattern.isValid pattern)
      ∧ ∀ spelling, args.typename = some spelling → Text.isBlankText spelling = false := by
  simp [HasBadValue]

theorem issues_name_eq_nil_iff {pattern : String} :
    Query.issues (.leaf (.name pattern)) = [] ↔
      Text.isBlankText pattern = false ∧ Pattern.isValid pattern := by
  rw [Query.issues, Option.toList_eq_nil_iff, Leaf.issue?_name_eq_none_iff]

theorem issues_filters_eq_nil_iff :
    (∀ part ∈ args.filters, Query.issues part = []) ↔ ¬ args.HasBadValue := by
  rw [forall_mem_filters, not_hasBadValue_iff]
  constructor
  · rintro ⟨-, -, hname, htypename, -, hwithin⟩
    constructor
    · intro pattern hpattern
      cases hpattern with
      | inl hpattern => exact issues_name_eq_nil_iff.mp (hname pattern hpattern)
      | inr hpattern =>
        exact issues_name_eq_nil_iff.mp (List.map_eq_nil_iff.mp (hwithin pattern hpattern))
    · intro spelling hspelling
      exact Leaf.issue?_typename_eq_none_iff.mp (Option.toList_eq_nil_iff.mp (htypename spelling hspelling))
  · rintro ⟨hpatterns, htypename⟩
    refine ⟨fun _ _ => rfl, fun _ _ => rfl, ?_, ?_, fun _ _ => rfl, ?_⟩
    · intro pattern hpattern
      exact issues_name_eq_nil_iff.mpr (hpatterns pattern (.inl hpattern))
    · intro spelling hspelling
      exact Option.toList_eq_nil_iff.mpr
        (Leaf.issue?_typename_eq_none_iff.mpr (htypename spelling hspelling))
    · intro pattern hpattern
      exact List.map_eq_nil_iff.mpr (issues_name_eq_nil_iff.mpr (hpatterns pattern (.inr hpattern)))

theorem describes_filters_iff {ν : Type} (g : Graph ν) (v : ν)
    (hpatterns : ∀ pattern, args.HasPattern pattern →
      Pattern.IsWellFormed pattern ∧ Pattern.isRejected pattern = false) :
    (∀ part ∈ args.filters, Query.Describes part g v) ↔ args.Admits g v := by
  have hname {pattern : String} (hpattern : args.HasPattern pattern) (w : ν) :
      (Leaf.name pattern).Describes (g.entity w) ↔
        Pattern.MatchesWhole pattern (g.entity w).spelling :=
    Leaf.describes_name_iff (hpatterns pattern hpattern).1 (hpatterns pattern hpattern).2 _
  rw [forall_mem_filters]
  simp only [Query.Describes, Formula.Denotes]
  constructor
  · rintro ⟨hcategories, hkind, hspelling, htypename, haccess, hwithin⟩
    refine ⟨hcategories, hkind, ?_, htypename, haccess, ?_⟩
    · intro pattern hpattern
      exact (hname (.inl hpattern) v).mp (hspelling pattern hpattern)
    · intro pattern hpattern
      obtain ⟨w, hne, hreaches, hw⟩ := hwithin pattern hpattern
      exact ⟨w, hne, hreaches, (hname (.inr hpattern) w).mp hw⟩
  · intro h
    refine ⟨h.categories, h.kind, ?_, h.typename, h.access, ?_⟩
    · intro pattern hpattern
      exact (hname (.inl hpattern) v).mpr (h.name pattern hpattern)
    · intro pattern hpattern
      obtain ⟨w, hne, hreaches, hw⟩ := h.within pattern hpattern
      exact ⟨w, hne, hreaches, (hname (.inr hpattern) w).mpr hw⟩

omit [Pattern.Engine] in
theorem forall_patterns_filters_iff {P : String → Prop} :
    (∀ part ∈ args.filters, ∀ pattern ∈ Query.patterns part, P pattern) ↔
      ∀ pattern, args.HasPattern pattern → P pattern := by
  rw [forall_mem_filters]
  simp [Query.patterns, Formula.leaves, Leaf.pattern?, HasPattern, or_imp, forall_and]

end FindArgs

section Joins

variable [Pattern.Engine]

/-- A query that asks for all of the parts and for nothing else. -/
inductive Joins : List Query → Query → Prop where
  | single (part : Query) : Joins [part] part
  | all (parts : List Query) : Joins parts (.all parts)

variable {parts : List Query} {query : Query}

theorem Joins.issues_eq_nil_iff (h : Joins parts query) :
    Query.issues query = [] ↔ ∀ part ∈ parts, Query.issues part = [] := by
  cases h with
  | single => simp
  | all => rw [Query.issues, Query.issuesOfList_eq_nil_iff]

theorem Joins.describes_iff {ν : Type} (h : Joins parts query) (g : Graph ν) (v : ν) :
    query.Describes g v ↔ ∀ part ∈ parts, Query.Describes part g v := by
  cases h with
  | single => simp
  | all => rw [Query.Describes, Formula.Denotes]; rfl

omit [Pattern.Engine] in
theorem mem_patterns_all {parts : List Query} {pattern : String} :
    pattern ∈ Query.patterns (.all parts) ↔ ∃ part ∈ parts, pattern ∈ Query.patterns part := by
  simp only [Query.patterns, Formula.leaves]
  induction parts with
  | nil => simp [Formula.leavesOfList]
  | cons part parts ih =>
    rw [Formula.leavesOfList, List.filterMap_append, List.mem_append, ih]
    simp

omit [Pattern.Engine] in
theorem Joins.forall_patterns_iff (h : Joins parts query) {P : String → Prop} :
    (∀ pattern ∈ query.patterns, P pattern) ↔
      ∀ part ∈ parts, ∀ pattern ∈ Query.patterns part, P pattern := by
  cases h with
  | single => simp
  | all =>
    simp only [mem_patterns_all]
    grind

end Joins

namespace FindArgs

variable [Pattern.Engine] {args : FindArgs} {base? : Option QueryFile} {file : QueryFile}

def parts (args : FindArgs) (base? : Option QueryFile) : List Query :=
  (base?.map QueryFile.query).toList ++ args.filters

def optionsOver (args : FindArgs) (base? : Option QueryFile) : Options :=
  let base := (base?.map QueryFile.options).getD {}
  { base with detailed := base.detailed || args.detailed }

theorem combine_of_parts_eq_nil (h : args.parts base? = []) : args.combine base? = .error .noQuery := by
  unfold parts at h
  rw [List.append_eq_nil_iff] at h
  cases base? with
  | none =>
    unfold combine
    rw [h.2]
  | some base => simp at h

omit [Pattern.Engine] in
theorem checked_eq_ite (file : QueryFile) (issues : List Issue) :
    (match issues with
      | [] => Except.ok file
      | issues => .error (BuildError.invalid issues)) =
      if issues = [] then .ok file else .error (.invalid issues) := by
  cases issues with
  | nil => rfl
  | cons => rfl

theorem combine_of_parts_ne_nil (h : args.parts base? ≠ []) :
    ∃ file, Joins (args.parts base?) file.query ∧ file.options = args.optionsOver base?
      ∧ args.combine base? =
        if Query.issues file.query = [] then .ok file else .error (.invalid (Query.issues file.query)) := by
  -- Where there is a part at all, only the validation can fail.
  unfold parts at h ⊢
  unfold combine
  cases base? with
  | none =>
    cases hfilters : args.filters with
    | nil => simp [hfilters] at h
    | cons filter filters =>
      refine ⟨{ query := .all (filter :: filters), options := args.optionsOver none }, .all _, rfl, ?_⟩
      exact checked_eq_ite _ _
  | some base =>
    cases hfilters : args.filters with
    | nil =>
      refine ⟨{ base with options := args.optionsOver (some base) }, .single _, rfl, ?_⟩
      exact checked_eq_ite _ _
    | cons filter filters =>
      refine ⟨{ base with query := .all (base.query :: filter :: filters),
                          options := args.optionsOver (some base) }, .all _, rfl, ?_⟩
      exact checked_eq_ite _ _

end FindArgs

section Narrowing

variable [Pattern.Engine]

/--
A query narrows the query of a file by the flags. It compiles if the query of the file does, no pattern of
a flag ends in a comment, and all of them leave room for the anchors. Then it holds where the query of the
file holds and the flags are satisfied.
-/
structure Narrows (args : FindArgs) (base? : Option QueryFile) (file : QueryFile) : Prop where
  options : file.options = args.optionsOver base?
  compiles : (∃ compiled, file.query.compile = .ok compiled) ↔
    (∀ base, base? = some base → ∃ compiled, Query.compile base.query = .ok compiled)
      ∧ ∀ pattern, args.HasPattern pattern →
        ¬ Pattern.EndsInComment pattern ∧ Pattern.HasRoom pattern
  holds : ∀ compiled, file.query.compile = .ok compiled →
    ∀ (ν : Type) [DecidableEq ν] (g : Graph ν) (v : ν), compiled.holds g v = true ↔
      (∀ base, base? = some base → ∃ narrowed, Query.compile base.query = .ok narrowed
        ∧ narrowed.holds g v = true) ∧ args.Admits g v

variable {args : FindArgs} {base? : Option QueryFile} {file : QueryFile}

omit [Pattern.Engine] in
theorem forall_mem_parts {P : Query → Prop} :
    (∀ part ∈ args.parts base?, P part) ↔
      (∀ base, base? = some base → P base.query) ∧ ∀ part ∈ args.filters, P part := by
  simp [FindArgs.parts, or_imp, forall_and]

theorem narrows_of_joins (hjoins : Joins (args.parts base?) file.query)
    (hoptions : file.options = args.optionsOver base?)
    (hformed : ∀ pattern, args.HasPattern pattern → Pattern.IsWellFormed pattern) :
    Narrows args base? file where
  options := hoptions
  compiles := by
    rw [Query.exists_compile_eq_ok_iff, hjoins.forall_patterns_iff, forall_mem_parts,
      FindArgs.forall_patterns_filters_iff]
    simp only [Query.exists_compile_eq_ok_iff]
    apply and_congr_right
    intro _
    apply forall₂_congr
    intro pattern hpattern
    rw [← Pattern.isValid_anchored_iff (hformed pattern hpattern), Pattern.isRejected_eq_false_iff]
  holds := by
    intro compiled hcompiled ν _ g v
    have hpatterns := Query.exists_compile_eq_ok_iff.mp ⟨compiled, hcompiled⟩
    rw [hjoins.forall_patterns_iff, forall_mem_parts, FindArgs.forall_patterns_filters_iff] at hpatterns
    rw [Query.holds_iff_describes hcompiled, hjoins.describes_iff, forall_mem_parts,
      FindArgs.describes_filters_iff g v fun pattern hpattern =>
        ⟨hformed pattern hpattern, hpatterns.2 pattern hpattern⟩]
    apply and_congr_left
    intro _
    apply forall₂_congr
    intro base hbase
    obtain ⟨narrowed, hnarrowed⟩ := Query.exists_compile_eq_ok_iff.mpr (hpatterns.1 base hbase)
    simp [hnarrowed, Query.holds_iff_describes hnarrowed]

theorem combine_cases (hbase : ∀ base, base? = some base → Query.issues base.query = []) :
    (args.parts base? = [] ∧ ¬ args.HasBadValue ∧ args.combine base? = .error .noQuery)
      ∨ (args.parts base? ≠ [] ∧ args.HasBadValue
        ∧ ∃ issues, issues ≠ [] ∧ args.combine base? = .error (.invalid issues))
      ∨ (args.parts base? ≠ [] ∧ ¬ args.HasBadValue
        ∧ ∃ file, args.combine base? = .ok file ∧ Narrows args base? file) := by
  by_cases hparts : args.parts base? = []
  · left
    refine ⟨hparts, ?_, FindArgs.combine_of_parts_eq_nil hparts⟩
    rw [← FindArgs.issues_filters_eq_nil_iff, (List.append_eq_nil_iff.mp hparts).2]
    simp
  · right
    obtain ⟨file, hjoins, hoptions, hcombine⟩ := FindArgs.combine_of_parts_ne_nil hparts
    have hissues : Query.issues file.query = [] ↔ ¬ args.HasBadValue := by
      rw [hjoins.issues_eq_nil_iff, forall_mem_parts, FindArgs.issues_filters_eq_nil_iff]
      exact and_iff_right hbase
    rw [hcombine]
    by_cases hbad : args.HasBadValue
    · have hne : Query.issues file.query ≠ [] := fun h => hissues.mp h hbad
      rw [if_neg hne]
      exact .inl ⟨hparts, hbad, _, hne, rfl⟩
    · rw [if_pos (hissues.mpr hbad)]
      right
      refine ⟨hparts, hbad, file, rfl, narrows_of_joins hjoins hoptions ?_⟩
      intro pattern hpattern
      exact .of_isValid ((FindArgs.not_hasBadValue_iff.mp hbad).1 pattern hpattern).2

end Narrowing

namespace Session

variable {α β ε : Type}

theorem result_bind (first : Session α) (next : α → Session β) :
    (first >>= next).result = first.result.bind fun a => (next a).result := by
  change (first.andThen next).result = _
  unfold andThen
  cases first.result with
  | error message => rfl
  | ok a => rfl

theorem result_ofExcept (message : ε → String) (x : Except ε α) :
    (ofExcept message x).result = x.mapError message := by
  cases x with
  | error e => rfl
  | ok a => rfl

theorem bind_eq_ok_iff {first : Session α} {next : α → Session β} {b : β} :
    (first >>= next).result = .ok b ↔ ∃ a, first.result = .ok a ∧ (next a).result = .ok b := by
  rw [result_bind]
  cases first.result with
  | error message => simp [Except.bind]
  | ok a => simp [Except.bind]

theorem ofExcept_eq_ok_iff {message : ε → String} {x : Except ε α} {a : α} :
    (ofExcept message x).result = .ok a ↔ x = .ok a := by
  rw [result_ofExcept]
  cases x with
  | error e => simp [Except.mapError]
  | ok a => simp [Except.mapError]

theorem pure_eq_ok_iff {a b : α} : (pure a : Session α).result = .ok b ↔ a = b := by
  change Except.ok a = Except.ok b ↔ a = b
  rw [Except.ok.injEq]

theorem result_note (events : List Event) : (note events).result = .ok () :=
  rfl

end Session

section Messages

theorem head?_toList_append {s : String} {c : Char} (h : s.toList.head? = some c) (t : String) :
    (s ++ t).toList.head? = some c := by
  rw [String.toList_append, List.head?_append, h, Option.some_or]

theorem head?_message (issue : Issue) : issue.message.toList.head? = some '\'' := by
  cases issue with
  | emptyValue address => simp [Issue.message]
  | invalidPattern address pattern => simp [Issue.message]

theorem head?_messages (issue : Issue) (issues : List Issue) :
    (Issue.messages (issue :: issues)).toList.head? = some '\'' := by
  unfold Issue.messages
  cases issues with
  | nil => rw [List.map_singleton, String.intercalate_singleton, head?_message]
  | cons next issues =>
    rw [List.map_cons, List.map_cons, String.intercalate_cons_cons, String.append_assoc,
      head?_toList_append (head?_message issue)]

theorem ne_noQuery_message {message : String} (h : message.toList.head? ≠ some 'N') :
    message ≠ BuildError.noQuery.message := by
  -- The first character tells the message apart.
  rintro rfl
  exact h rfl

theorem invalid_message_ne_noQuery (issues : List Issue) :
    (BuildError.invalid issues).message ≠ BuildError.noQuery.message := by
  apply ne_noQuery_message
  cases issues with
  | nil => decide
  | cons issue issues =>
    rw [BuildError.message, head?_messages]
    decide

theorem load_message_ne_noQuery (path? : Option String) (e : LoadError) :
    e.message path? ≠ BuildError.noQuery.message := by
  apply ne_noQuery_message
  unfold LoadError.message
  cases e with
  | malformed => simp
  | invalid issues => simp

theorem read_message_ne_noQuery (path reason : String) :
    "failed to read query file " ++ path ++ ": " ++ reason ≠ BuildError.noQuery.message := by
  apply ne_noQuery_message
  simp

end Messages

namespace CommandLine

variable [Pattern.Engine] {fs : FileSystem} {args : FindArgs} {path : String} {file : QueryFile}

theorem loadQuery_result (fs : FileSystem) (path : String) :
    (loadQuery fs path).result =
      ((fs.read path).mapError fun reason =>
        "failed to read query file " ++ path ++ ": " ++ reason.message).bind fun read =>
          (QueryFile.load read.2.document?).mapError (LoadError.message (some path)) := by
  unfold loadQuery
  rw [Session.result_bind, Session.result_ofExcept]
  cases fs.read path with
  | error reason => rfl
  | ok read =>
    simp only [Session.result_bind, Session.result_ofExcept]
    cases h : QueryFile.load read.2.document? with
    | error e =>
      simp only [Except.mapError, Except.bind, h]
      rfl
    | ok file =>
      simp only [Except.mapError, Except.bind, h]
      rfl

inductive Loads (fs : FileSystem) : Option String → Option QueryFile → Prop where
  | absent : Loads fs none none
  | present {path : String} {file : QueryFile} (h : (loadQuery fs path).result = .ok file) :
    Loads fs (some path) (some file)

variable {base? : Option QueryFile}

theorem loadQuery_cases (fs : FileSystem) (path : String) :
    (∃ reason, (loadQuery fs path).result =
        .error ("failed to read query file " ++ path ++ ": " ++ reason))
      ∨ (∃ e : LoadError, (loadQuery fs path).result = .error (e.message (some path)))
      ∨ ∃ document? file, QueryFile.load document? = .ok file
        ∧ (loadQuery fs path).result = .ok file := by
  rw [loadQuery_result]
  cases fs.read path with
  | error reason => exact .inl ⟨reason.message, rfl⟩
  | ok read =>
    cases hload : QueryFile.load read.2.document? with
    | error e =>
      refine .inr (.inl ⟨e, ?_⟩)
      simp only [Except.mapError, Except.bind, hload]
    | ok file =>
      refine .inr (.inr ⟨_, file, hload, ?_⟩)
      simp only [Except.mapError, Except.bind, hload]

theorem issues_eq_nil_of_loadQuery (h : (loadQuery fs path).result = .ok file) :
    Query.issues file.query = [] := by
  obtain ⟨reason, hresult⟩ | ⟨e, hresult⟩ | ⟨document?, loaded, hload, hresult⟩ :=
    loadQuery_cases fs path
  · rw [hresult] at h
    contradiction
  · rw [hresult] at h
    contradiction
  · rw [hresult] at h
    obtain rfl := Except.ok.inj h
    exact (Query.Validated.loaded hload).issues_eq_nil

theorem loadQuery_ne_noQuery : (loadQuery fs path).result ≠ .error BuildError.noQuery.message := by
  obtain ⟨reason, hresult⟩ | ⟨e, hresult⟩ | ⟨-, file, -, hresult⟩ := loadQuery_cases fs path
  · rw [hresult, ne_eq, Except.error.injEq]
    exact read_message_ne_noQuery path reason
  · rw [hresult, ne_eq, Except.error.injEq]
    exact load_message_ne_noQuery (some path) e
  · rw [hresult]
    simp

theorem Loads.issues_eq_nil (h : Loads fs args.queryFile base?) :
    ∀ base, base? = some base → Query.issues base.query = [] := by
  intro base hbase
  generalize args.queryFile = path? at h
  cases h with
  | absent => contradiction
  | present h =>
    obtain rfl := Option.some.inj hbase
    exact issues_eq_nil_of_loadQuery h

theorem Loads.buildQuery_result (h : Loads fs args.queryFile base?) :
    (buildQuery fs args).result = (args.combine base?).mapError BuildError.message := by
  unfold buildQuery
  generalize args.queryFile = path? at h
  cases h with
  | absent => exact Session.result_ofExcept _ _
  | present h =>
    dsimp only
    rw [Session.result_bind, h]
    exact Session.result_ofExcept _ _

theorem exists_loads_or_error (fs : FileSystem) (args : FindArgs) :
    (∃ base?, Loads fs args.queryFile base?)
      ∨ ∃ path message, args.queryFile = some path ∧ (loadQuery fs path).result = .error message
        ∧ (buildQuery fs args).result = .error message := by
  unfold buildQuery
  cases args.queryFile with
  | none => exact .inl ⟨none, .absent⟩
  | some path =>
    cases h : (loadQuery fs path).result with
    | ok file => exact .inl ⟨some file, .present h⟩
    | error message =>
      refine .inr ⟨path, message, rfl, h, ?_⟩
      dsimp only
      rw [Session.result_bind, h]
      rfl

theorem Loads.parts_eq_nil_iff (h : Loads fs args.queryFile base?) :
    args.parts base? = [] ↔ args.queryFile = none ∧ args.IsUnfiltered := by
  rw [FindArgs.parts, List.append_eq_nil_iff, FindArgs.filters_eq_nil_iff]
  apply and_congr_left
  intro _
  generalize args.queryFile = path? at h
  cases h with
  | absent => simp
  | present h => simp

theorem Loads.outcome (h : Loads fs args.queryFile base?) :
    ((args.queryFile = none ∧ args.IsUnfiltered) ∧ ¬ args.HasBadValue
        ∧ (buildQuery fs args).result = .error BuildError.noQuery.message)
      ∨ (¬ (args.queryFile = none ∧ args.IsUnfiltered) ∧ args.HasBadValue
        ∧ ∃ issues, (buildQuery fs args).result = .error (BuildError.invalid issues).message)
      ∨ (¬ (args.queryFile = none ∧ args.IsUnfiltered) ∧ ¬ args.HasBadValue
        ∧ ∃ file, (buildQuery fs args).result = .ok file ∧ Narrows args base? file) := by
  rw [← h.parts_eq_nil_iff, h.buildQuery_result]
  obtain ⟨hparts, hbad, hcombine⟩ | ⟨hparts, hbad, issues, -, hcombine⟩ |
    ⟨hparts, hbad, file, hcombine, hnarrows⟩ := combine_cases h.issues_eq_nil
  · rw [hcombine]
    exact .inl ⟨hparts, hbad, rfl⟩
  · rw [hcombine]
    exact .inr (.inl ⟨hparts, hbad, issues, rfl⟩)
  · rw [hcombine]
    exact .inr (.inr ⟨hparts, hbad, file, rfl, hnarrows⟩)

/--
The query file and the flags make a query unless there are neither, loading the file fails, or a flag has a
bad value. The query narrows the query of the file.
-/
theorem buildQuery_narrows (fs : FileSystem) (args : FindArgs) :
    ((buildQuery fs args).result = .error BuildError.noQuery.message ↔
        args.queryFile = none ∧ args.IsUnfiltered)
      ∧ (∀ file, (buildQuery fs args).result = .ok file →
        ∃ base?, Loads fs args.queryFile base? ∧ Narrows args base? file)
      ∧ ∀ base?, Loads fs args.queryFile base? →
        ((∃ issues, (buildQuery fs args).result = .error (BuildError.invalid issues).message) ↔
          args.HasBadValue)
        ∧ ((∃ file, (buildQuery fs args).result = .ok file) ↔
          ¬ args.HasBadValue ∧ ¬ (args.queryFile = none ∧ args.IsUnfiltered)) := by
  refine ⟨?_, ?_, ?_⟩
  · cases exists_loads_or_error fs args with
    | inl hloads =>
      obtain ⟨base?, hloads⟩ := hloads
      obtain ⟨hnone, -, hresult⟩ | ⟨hsome, -, issues, hresult⟩ | ⟨hsome, -, file, hresult, -⟩ :=
        hloads.outcome
      · simp [hresult, hnone]
      · simp [hresult, hsome, invalid_message_ne_noQuery]
      · simp [hresult, hsome]
    | inr hfailed =>
      obtain ⟨path, message, hpath, hload, hresult⟩ := hfailed
      -- A file that cannot be loaded has another message.
      have hmessage : message ≠ BuildError.noQuery.message := by
        rintro rfl
        exact loadQuery_ne_noQuery hload
      simp [hresult, hpath, hmessage]
  · intro file hfile
    cases exists_loads_or_error fs args with
    | inl hloads =>
      obtain ⟨base?, hloads⟩ := hloads
      refine ⟨base?, hloads, ?_⟩
      obtain ⟨-, -, hresult⟩ | ⟨-, -, issues, hresult⟩ | ⟨-, -, file', hresult, hnarrows⟩ :=
        hloads.outcome
      · simp [hresult] at hfile
      · simp [hresult] at hfile
      · rw [hresult] at hfile
        obtain rfl := Except.ok.inj hfile
        exact hnarrows
    | inr hfailed =>
      obtain ⟨path, message, -, -, hresult⟩ := hfailed
      simp [hresult] at hfile
  · intro base? hloads
    obtain ⟨hnone, hbad, hresult⟩ | ⟨hsome, hbad, issues, hresult⟩ | ⟨hsome, hbad, file, hresult, -⟩ :=
      hloads.outcome
    · simp [hresult, hbad, hnone, (invalid_message_ne_noQuery _).symm]
    · refine ⟨⟨fun _ => hbad, fun _ => ⟨issues, hresult⟩⟩, ?_⟩
      simp [hresult, hbad]
    · simp [hresult, hbad, hsome]

end CommandLine

end CursorQuery
