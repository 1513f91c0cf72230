import CursorQuery.CommandLine.Run
import CursorQuery.Proofs.CommandLine.Combination
import CursorQuery.Proofs.CommandLine.Record
import CursorQuery.Proofs.Lowering.Preorder
import CursorQuery.Proofs.Query.Compile

/-!
This module contains what a search prints. All that can fail comes before anything is printed, so a
search prints nothing, or one record for every cursor that the query describes: those of one file after
those of the other, and each file from top to bottom.
-/

namespace CursorQuery

namespace Model

variable {ν : Type} (m : Model ν) (p : ν → Bool)

theorem search_eq_filter (root : ν) : m.search p root = (m.listing root).filter p := by
  unfold search walk
  dsimp only
  rw [takeAll_found, remaining_start]

end Model

namespace TranslationUnit

theorem val_of_node? {unit : TranslationUnit} {id : Nat} {v : Fin unit.cursors.size}
    (h : unit.node? id = some v) : v.val = id := by
  obtain ⟨hid, hv⟩ := Option.dite_none_right_eq_some.mp h
  rw [← Option.some.inj hv]

theorem exists_node?_root (source : Source) (tree : ParseTree) (options : Options) :
    ∃ root, (ofParseTree source tree options).node? Cursor.root = some root :=
  ⟨_, dif_pos (wellFormed_build source tree options).nextId_pos⟩

end TranslationUnit

namespace FileSystem

variable {fs : FileSystem} {paths : List String}

def Exists (fs : FileSystem) (path : String) : Prop :=
  ∃ entry, fs.find path = .ok entry

def IsReadable (fs : FileSystem) (path : String) : Prop :=
  ∃ contents, fs.read path = .ok contents

inductive Names (fs : FileSystem) (path : String) : List String → Prop where
  | file {contents : StoredFile} (hfind : fs.find path = .ok (.file contents)) : Names fs path [path]
  | directory {entries : List (String × Entry)} (hfind : fs.find path = .ok (.directory entries)) :
    Names fs path (Entry.sourcesOfList path entries)

def Collects (fs : FileSystem) (paths files : List String) : Prop :=
  ∃ parts, List.Forall₂ fs.Names paths parts ∧ parts.flatten = files

theorem collects_nil {files : List String} : fs.Collects [] files ↔ files = [] := by
  simp [Collects, eq_comm]

theorem collects_cons {path : String} {files : List String} :
    fs.Collects (path :: paths) files ↔
      ∃ part rest, fs.Names path part ∧ fs.Collects paths rest ∧ part ++ rest = files := by
  unfold Collects
  simp only [List.forall₂_cons_left_iff]
  grind

theorem collect_eq_ok_iff {files : List String} :
    fs.collect paths = .ok files ↔ fs.Collects paths files := by
  induction paths generalizing files with
  | nil => simp [collect, collects_nil, eq_comm]
  | cons path paths ih =>
    rw [collect, collects_cons]
    simp only [← ih]
    constructor
    · intro h
      cases hfind : fs.find path with
      | error reason => simp [hfind] at h
      | ok entry =>
        rw [hfind] at h
        obtain ⟨rest, hrest, rfl⟩ := Formula.map_eq_ok h
        cases entry with
        | file contents => exact ⟨_, rest, .file hfind, hrest, rfl⟩
        | directory entries => exact ⟨_, rest, .directory hfind, hrest, rfl⟩
    · rintro ⟨-, rest, hfind | hfind, hrest, rfl⟩
      · rw [hfind, hrest]
        rfl
      · rw [hfind, hrest]
        rfl

theorem Collects.unique {files files' : List String} (h : fs.Collects paths files)
    (h' : fs.Collects paths files') : files = files' := by
  rw [← collect_eq_ok_iff] at h h'
  exact Except.ok.inj (h.symm.trans h')

theorem exists_names_iff {path : String} : (∃ part, fs.Names path part) ↔ fs.Exists path := by
  constructor
  · rintro ⟨-, hfind | hfind⟩
    · exact ⟨_, hfind⟩
    · exact ⟨_, hfind⟩
  · rintro ⟨entry, hfind⟩
    cases entry with
    | file contents => exact ⟨_, .file hfind⟩
    | directory entries => exact ⟨_, .directory hfind⟩

theorem exists_collects_iff :
    (∃ files, fs.Collects paths files) ↔ ∀ path ∈ paths, fs.Exists path := by
  induction paths with
  | nil => simp [collects_nil]
  | cons path paths ih =>
    rw [List.forall_mem_cons, ← ih, ← exists_names_iff]
    simp only [collects_cons]
    grind

end FileSystem

namespace CommandLine

section Search

variable [Pattern.Engine] {fs : FileSystem} {options : Options} {args : FindArgs}

/-- Why a search cannot be made. -/
inductive IsBlocked (fs : FileSystem) (args : FindArgs) : Prop where
  | noQuery (h : ∀ file, (buildQuery fs args).result ≠ .ok file)
  | badPattern {file : QueryFile} (hbuilt : (buildQuery fs args).result = .ok file)
    (h : ∀ query, Query.compile file.query ≠ .ok query)
  | missing {path : String} (hpath : path ∈ args.paths) (h : ¬ fs.Exists path)
  | unreadable {files : List String} {path : String} (hfiles : fs.Collects args.paths files)
    (hpath : path ∈ files) (h : ¬ fs.IsReadable path)

theorem not_isBlocked_iff :
    ¬ IsBlocked fs args ↔
      (∃ file, (buildQuery fs args).result = .ok file
        ∧ ∃ query, Query.compile file.query = .ok query)
      ∧ ∃ files, fs.Collects args.paths files ∧ ∀ path ∈ files, fs.IsReadable path := by
  constructor
  · intro h
    constructor
    · by_contra hnone
      push Not at hnone
      cases hbuilt : (buildQuery fs args).result with
      | error message => exact h (.noQuery (by simp [hbuilt]))
      | ok file => exact h (.badPattern hbuilt (hnone file hbuilt))
    · have hexist : ∀ path ∈ args.paths, fs.Exists path := by
        intro path hpath
        by_contra hmissing
        exact h (.missing hpath hmissing)
      obtain ⟨files, hfiles⟩ := FileSystem.exists_collects_iff.mpr hexist
      refine ⟨files, hfiles, ?_⟩
      intro path hpath
      by_contra hunreadable
      exact h (.unreadable hfiles hpath hunreadable)
  · rintro ⟨⟨file, hbuilt, query, hquery⟩, files, hfiles, hreadable⟩ hblocked
    cases hblocked with
    | noQuery h => exact h file hbuilt
    | badPattern hbuilt' h =>
      obtain rfl := Except.ok.inj (hbuilt.symm.trans hbuilt')
      exact h query hquery
    | missing hpath h => exact h (FileSystem.exists_collects_iff.mp ⟨files, hfiles⟩ _ hpath)
    | unreadable hfiles' hpath h =>
      obtain rfl := hfiles.unique hfiles'
      exact h (hreadable _ hpath)

section Units

def Parses (fs : FileSystem) (options : Options) (path : String) (unit : TranslationUnit) : Prop :=
  ∃ text contents, fs.read path = .ok (text, contents)
    ∧ unit = .ofParseTree { path, text } contents.tree options

omit [Pattern.Engine] in
theorem parseFile_eq_ok_iff {path : String} {unit : TranslationUnit} :
    (parseFile fs options path).result = .ok unit ↔ Parses fs options path unit := by
  unfold parseFile Parses
  rw [Session.bind_eq_ok_iff]
  simp only [Session.ofExcept_eq_ok_iff, Session.bind_eq_ok_iff, Session.result_note,
    Session.pure_eq_ok_iff, true_and, exists_const]
  constructor
  · rintro ⟨⟨text, contents⟩, hread, rfl⟩
    exact ⟨text, contents, hread, rfl⟩
  · rintro ⟨text, contents, hread, rfl⟩
    exact ⟨(text, contents), hread, rfl⟩

omit [Pattern.Engine] in
theorem parseFiles_eq_ok_iff {files : List String} {units : List TranslationUnit} :
    (parseFiles fs options files).result = .ok units ↔
      List.Forall₂ (Parses fs options) files units := by
  induction files generalizing units with
  | nil =>
    rw [parseFiles, Session.pure_eq_ok_iff, List.forall₂_nil_left_iff]
    exact eq_comm
  | cons path files ih =>
    rw [parseFiles, List.forall₂_cons_left_iff]
    simp only [Session.bind_eq_ok_iff, Session.pure_eq_ok_iff, parseFile_eq_ok_iff, ih]
    grind

omit [Pattern.Engine] in
theorem exists_parses_iff {files : List String} :
    (∃ units, List.Forall₂ (Parses fs options) files units) ↔ ∀ path ∈ files, fs.IsReadable path := by
  induction files with
  | nil => simp
  | cons path files ih =>
    rw [List.forall_mem_cons, ← ih]
    constructor
    · rintro ⟨units, hunits⟩
      cases hunits with
      | cons hparses hunits =>
        obtain ⟨text, contents, hread, -⟩ := hparses
        exact ⟨⟨_, hread⟩, _, hunits⟩
    · rintro ⟨⟨⟨text, contents⟩, hread⟩, units, hunits⟩
      exact ⟨_, .cons ⟨text, contents, hread, rfl⟩ hunits⟩

end Units

section Reports

/-- The nodes of a unit that a query describes, each of them once and in pre-order. -/
structure Lists (query : Query) (unit : TranslationUnit) (vs : List (Fin unit.cursors.size)) :
    Prop where
  nodup : vs.Nodup
  preorder : ∃ root, unit.node? Cursor.root = some root ∧ vs.Sublist (unit.model.listing root)
  mem_iff : ∀ v, v ∈ vs ↔ query.Describes unit.model v

/-- The records of files: one for each pair of a file and a node of it that the query describes. -/
inductive Reports (fs : FileSystem) (file : QueryFile) (json : Bool) :
    List String → List String → Prop where
  | nil : Reports fs file json [] []
  | cons {path : String} {unit : TranslationUnit} {vs : List (Fin unit.cursors.size)}
    {files records later : List String} (hparses : Parses fs file.options path unit)
    (hlists : Lists file.query unit vs)
    (hrecords : List.Forall₂ (IsRecord unit json) (vs.map unit.cursor) records)
    (hlater : Reports fs file json files later) :
    Reports fs file json (path :: files) (records ++ later)

variable {file : QueryFile} {query : CompiledQuery}

section Listing

variable (source : Source) (tree : ParseTree)

omit [Pattern.Engine] in
theorem matchesIn_ofParseTree (query : CompiledQuery) :
    let unit := TranslationUnit.ofParseTree source tree options
    matchesIn query unit =
      ((List.finRange unit.cursors.size).filter (query.holds unit.model)).map unit.cursor := by
  intro unit
  obtain ⟨root, hroot⟩ := TranslationUnit.exists_node?_root source tree options
  unfold matchesIn
  rw [hroot]
  dsimp only
  rw [Model.search_eq_filter,
    TranslationUnit.listing_root_ofParseTree (TranslationUnit.val_of_node? hroot)]

theorem lists_filter (hquery : Query.compile file.query = .ok query) :
    let unit := TranslationUnit.ofParseTree source tree options
    Lists file.query unit ((List.finRange unit.cursors.size).filter (query.holds unit.model)) := by
  intro unit
  obtain ⟨root, hroot⟩ := TranslationUnit.exists_node?_root source tree options
  have hlisting : unit.model.listing root = List.finRange _ :=
    TranslationUnit.listing_root_ofParseTree (TranslationUnit.val_of_node? hroot)
  constructor
  · exact (List.nodup_finRange _).filter _
  · exact ⟨root, hroot, hlisting ▸ List.filter_sublist⟩
  · intro v
    rw [List.mem_filter, Query.holds_iff_describes hquery]
    simp

end Listing

theorem exists_lists {path : String} {unit : TranslationUnit} (json : Bool)
    (hquery : Query.compile file.query = .ok query) (hparses : Parses fs options path unit) :
    ∃ vs, Lists file.query unit vs
      ∧ List.Forall₂ (IsRecord unit json) (vs.map unit.cursor) (unitLines json query unit) := by
  obtain ⟨text, contents, -, rfl⟩ := hparses
  refine ⟨_, lists_filter _ _ hquery, ?_⟩
  rw [unitLines, matchesIn_ofParseTree]
  exact forall₂_isRecord _ json _

theorem reports_flatMap {files : List String} {units : List TranslationUnit} (json : Bool)
    (hquery : Query.compile file.query = .ok query)
    (hparses : List.Forall₂ (Parses fs file.options) files units) :
    Reports fs file json files (units.flatMap (unitLines json query)) := by
  induction hparses with
  | nil => exact .nil
  | cons hparse _ ih =>
    obtain ⟨vs, hlists, hrecords⟩ := exists_lists json hquery hparse
    rw [List.flatMap_cons]
    exact .cons hparse hlists hrecords ih

end Reports

theorem find_eq_ok_iff {records : List String} :
    (find fs args).result = .ok records ↔
      ∃ file files units query, (buildQuery fs args).result = .ok file
        ∧ fs.Collects args.paths files ∧ List.Forall₂ (Parses fs file.options) files units
        ∧ Query.compile file.query = .ok query
        ∧ units.flatMap (unitLines args.json query) = records := by
  unfold find
  simp only [Session.bind_eq_ok_iff, Session.ofExcept_eq_ok_iff, Session.result_note,
    Session.pure_eq_ok_iff, FileSystem.collect_eq_ok_iff, parseFiles_eq_ok_iff, true_and, exists_const]
  constructor
  · rintro ⟨file, hbuilt, files, hfiles, units, hunits, query, hquery, hrecords⟩
    exact ⟨file, files, units, query, hbuilt, hfiles, hunits, hquery, hrecords⟩
  · rintro ⟨file, files, units, query, hbuilt, hfiles, hunits, hquery, hrecords⟩
    exact ⟨file, hbuilt, files, hfiles, units, hunits, query, hquery, hrecords⟩

theorem exists_find_eq_ok_iff :
    (∃ records, (find fs args).result = .ok records) ↔ ¬ IsBlocked fs args := by
  simp only [find_eq_ok_iff, not_isBlocked_iff]
  constructor
  · rintro ⟨-, file, files, units, query, hbuilt, hfiles, hunits, hquery, -⟩
    exact ⟨⟨file, hbuilt, query, hquery⟩, files, hfiles, exists_parses_iff.mp ⟨units, hunits⟩⟩
  · rintro ⟨⟨file, hbuilt, query, hquery⟩, files, hfiles, hreadable⟩
    obtain ⟨units, hunits⟩ := exists_parses_iff.mpr hreadable
    exact ⟨_, file, files, units, query, hbuilt, hfiles, hunits, hquery, rfl⟩

theorem reports_of_find {records : List String} (h : (find fs args).result = .ok records) :
    ∃ file files, (buildQuery fs args).result = .ok file ∧ fs.Collects args.paths files
      ∧ Reports fs file args.json files records := by
  obtain ⟨file, files, units, query, hbuilt, hfiles, hunits, hquery, rfl⟩ := find_eq_ok_iff.mp h
  exact ⟨file, files, hbuilt, hfiles, reports_flatMap args.json hquery hunits⟩

theorem findOutcome_of_error {message : String} (h : (find fs args).result = .error message) :
    (findOutcome fs args).code = 1 ∧ (findOutcome fs args).stdout = "" := by
  simp only [findOutcome, h]
  exact ⟨rfl, rfl⟩

theorem findOutcome_of_ok {records : List String} (h : (find fs args).result = .ok records) :
    (findOutcome fs args).stdout = String.join (records.map (· ++ "\n"))
      ∧ ((findOutcome fs args).code = 0 ↔ records ≠ []) := by
  simp only [findOutcome, h]
  cases records with
  | nil => simp [unlines]
  | cons record records => simp [unlines]

/--
A search that something is in the way of fails and prints nothing. Any other search prints one record
for each pair of a file and a node that the query describes, and succeeds if there is any.
-/
theorem run_find_allOrNothing (fs : FileSystem) (arguments : List String) :
    let outcome := run fs arguments
    (∀ error, Arguments.read arguments = .error error → outcome.code ≠ 0 ∧ outcome.stdout = "")
    ∧ ∀ verbosity args, Arguments.read arguments = .ok (.run verbosity (.find args)) →
      (IsBlocked fs args → outcome.code ≠ 0 ∧ outcome.stdout = "")
      ∧ (¬ IsBlocked fs args → ∃ file files records,
        (buildQuery fs args).result = .ok file ∧ fs.Collects args.paths files
        ∧ Reports fs file args.json files records
        ∧ outcome.stdout = String.join (records.map (· ++ "\n"))
        ∧ (outcome.code = 0 ↔ records ≠ [])) := by
  intro outcome
  constructor
  · intro error hread
    have houtcome : outcome = { code := 2, stderr := error.message ++ "\n" } := by
      simp only [outcome, run, hread]
    rw [houtcome]
    simp
  · intro verbosity args hread
    have hcode : outcome.code = (findOutcome fs args).code := by
      simp only [outcome, run, hread, commandOutcome]
    have hstdout : outcome.stdout = (findOutcome fs args).stdout := by
      simp only [outcome, run, hread, commandOutcome]
    rw [hcode, hstdout]
    constructor
    · intro hblocked
      cases hfind : (find fs args).result with
      | error message =>
        have hfailed := findOutcome_of_error hfind
        simp [hfailed]
      | ok records => exact absurd hblocked (exists_find_eq_ok_iff.mp ⟨records, hfind⟩)
    · intro hfree
      obtain ⟨records, hfind⟩ := exists_find_eq_ok_iff.mpr hfree
      obtain ⟨file, files, hbuilt, hfiles, hreports⟩ := reports_of_find hfind
      exact ⟨file, files, records, hbuilt, hfiles, hreports, findOutcome_of_ok hfind⟩

end Search

def header (name : Char) : StoredFile where
  text? := some ("struct " ++ String.singleton name ++ " \x7b \x7d;\n")
  tree := .node { label := "translation_unit", span := ⟨0, 14⟩ } [
    .node { label := "struct_specifier", span := ⟨0, 12⟩ } [
      .node { label := "type_identifier", field := some .name, span := ⟨7, 8⟩ } [],
      .node { label := "field_declaration_list", field := some .body, span := ⟨9, 12⟩ } []]]
  document? := none

/-- The headers `a.h` and `c.h`, and between them `b.h`, which is no text. -/
def headers : FileSystem where
  root := .directory [
    ("a.h", .file (header 'A')),
    ("b.h", .file { header 'B' with text? := none }),
    ("c.h", .file (header 'C'))]
  workingDirectory := []

def headerArgs (json : Bool) (paths : List String) : FindArgs where
  paths := paths
  categories := [.classDefinition]
  json := json

theorem read_headerArgs :
    Arguments.read ["find", "a.h", "c.h", "--is", "class_definition"] =
        .ok (.run 0 (.find (headerArgs false ["a.h", "c.h"])))
      ∧ Arguments.read ["find", "a.h", "c.h", "--is", "class_definition", "--json"] =
        .ok (.run 0 (.find (headerArgs true ["a.h", "c.h"])))
      ∧ Arguments.read ["find", "a.h", "b.h", "--is", "class_definition"] =
        .ok (.run 0 (.find (headerArgs false ["a.h", "b.h"]))) := by
  decide +kernel

theorem isBlocked_headers : IsBlocked headers (headerArgs false ["a.h", "b.h"]) := by
  have hfiles : headers.Collects ["a.h", "b.h"] ["a.h", "b.h"] := by
    rw [← FileSystem.collect_eq_ok_iff]
    decide +kernel
  have hpath : "b.h" ∈ ["a.h", "b.h"] := by
    decide
  have hread : headers.read "b.h" = .error .notText := by
    rfl
  apply IsBlocked.unreadable hfiles hpath
  rintro ⟨contents, hcontents⟩
  rw [hread] at hcontents
  contradiction

def headerRecords (json : Bool) : List String :=
  if json then [
    "\x7b\"file\":\"a.h\",\"line\":1,\"column\":8,\"kind\":\"struct_decl\",\"spelling\":\"A\","
      ++ "\"displayname\":\"A\",\"qualified_name\":\"A\",\"type\":\"A\",\"access\":\"none\","
      ++ "\"is_definition\":true\x7d",
    "\x7b\"file\":\"c.h\",\"line\":1,\"column\":8,\"kind\":\"struct_decl\",\"spelling\":\"C\","
      ++ "\"displayname\":\"C\",\"qualified_name\":\"C\",\"type\":\"C\",\"access\":\"none\","
      ++ "\"is_definition\":true\x7d"]
  else ["a.h:1:8 STRUCT_DECL A [A]", "c.h:1:8 STRUCT_DECL C [C]"]

theorem find_headers (json : Bool) :
    (find headers (headerArgs json ["a.h", "c.h"])).result = .ok (headerRecords json) := by
  have hunits : List.Forall₂ (Parses headers {}) ["a.h", "c.h"]
      [.ofParseTree { path := "a.h", text := "struct A \x7b \x7d;\n" } (header 'A').tree {},
        .ofParseTree { path := "c.h", text := "struct C \x7b \x7d;\n" } (header 'C').tree {}] :=
    .cons ⟨_, _, rfl, rfl⟩ (.cons ⟨_, _, rfl, rfl⟩ .nil)
  rw [find_eq_ok_iff]
  refine ⟨_, _, _, .all [.leaf (.isA .classDefinition)], rfl, FileSystem.collect_eq_ok_iff.mp rfl,
    hunits, rfl, ?_⟩
  simp only [List.flatMap_cons, List.flatMap_nil, unitLines, matchesIn_ofParseTree]
  cases json with
  | false => decide +kernel
  | true => decide +kernel

theorem not_isBlocked_headers (json : Bool) :
    ¬ IsBlocked headers (headerArgs json ["a.h", "c.h"]) :=
  exists_find_eq_ok_iff.mp ⟨_, find_headers json⟩

theorem run_headers {arguments : List String} {json : Bool}
    (hread : Arguments.read arguments = .ok (.run 0 (.find (headerArgs json ["a.h", "c.h"])))) :
    (run headers arguments).stdout = String.join ((headerRecords json).map (· ++ "\n"))
      ∧ (run headers arguments).code = 0 := by
  have houtcome := findOutcome_of_ok (find_headers json)
  simp only [run, hread, commandOutcome]
  refine ⟨houtcome.1, houtcome.2.mpr ?_⟩
  cases json with
  | false | true => decide

theorem run_find_allOrNothing_headers :
    let plain := ["find", "a.h", "c.h", "--is", "class_definition"]
    let json := ["find", "a.h", "c.h", "--is", "class_definition", "--json"]
    let blocked := ["find", "a.h", "b.h", "--is", "class_definition"]
    (Arguments.read plain = .ok (.run 0 (.find (headerArgs false ["a.h", "c.h"])))
      ∧ ¬ IsBlocked headers (headerArgs false ["a.h", "c.h"])
      ∧ (run headers plain).stdout = "a.h:1:8 STRUCT_DECL A [A]\nc.h:1:8 STRUCT_DECL C [C]\n"
      ∧ (run headers plain).code = 0
      ∧ ∃ file files records, (buildQuery headers (headerArgs false ["a.h", "c.h"])).result = .ok file
        ∧ headers.Collects ["a.h", "c.h"] files ∧ Reports headers file false files records
        ∧ (run headers plain).stdout = String.join (records.map (· ++ "\n"))
        ∧ ((run headers plain).code = 0 ↔ records ≠ []))
    ∧ (Arguments.read json = .ok (.run 0 (.find (headerArgs true ["a.h", "c.h"])))
      ∧ ¬ IsBlocked headers (headerArgs true ["a.h", "c.h"])
      ∧ (run headers json).stdout = String.join ((headerRecords true).map (· ++ "\n"))
      ∧ (run headers json).code = 0
      ∧ ∃ file files records, (buildQuery headers (headerArgs true ["a.h", "c.h"])).result = .ok file
        ∧ headers.Collects ["a.h", "c.h"] files ∧ Reports headers file true files records
        ∧ (run headers json).stdout = String.join (records.map (· ++ "\n"))
        ∧ ((run headers json).code = 0 ↔ records ≠ []))
    ∧ (Arguments.read blocked = .ok (.run 0 (.find (headerArgs false ["a.h", "b.h"])))
      ∧ IsBlocked headers (headerArgs false ["a.h", "b.h"])
      ∧ (run headers blocked).code ≠ 0 ∧ (run headers blocked).stdout = "") := by
  obtain ⟨hplain, hjson, hblocked⟩ := read_headerArgs
  obtain ⟨hplainLines, hplainCode⟩ := run_headers hplain
  obtain ⟨hjsonLines, hjsonCode⟩ := run_headers hjson
  refine ⟨⟨hplain, not_isBlocked_headers false, hplainLines, hplainCode, ?_⟩,
    ⟨hjson, not_isBlocked_headers true, hjsonLines, hjsonCode, ?_⟩, hblocked, isBlocked_headers, ?_⟩
  · exact ((run_find_allOrNothing headers _).2 0 _ hplain).2 (not_isBlocked_headers false)
  · exact ((run_find_allOrNothing headers _).2 0 _ hjson).2 (not_isBlocked_headers true)
  · exact ((run_find_allOrNothing headers _).2 0 _ hblocked).1 isBlocked_headers

end CommandLine

end CursorQuery
