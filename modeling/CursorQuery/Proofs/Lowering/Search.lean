import CursorQuery.Proofs.Lowering.NameTable
import CursorQuery.Proofs.Lowering.Lookup

/-!
This module contains the search for a name cut into parts: what is found inside of some of the scopes
around it, and what is found further out. The inner a scope, the longer is its prefix, so types that are
found in different scopes are spelled differently.
-/

namespace CursorQuery

def innerPrefixes (inner : String) : List String :=
  (enclosingPrefixes inner).filter (!·.isEmpty)

section Prefixes

theorem outerPrefixes_eq_append (cs : List Char) :
    ∃ count, outerPrefixes cs =
      (outerPrefixes cs).filter (!·.isEmpty) ++ List.replicate (count + 1) [] := by
  fun_induction outerPrefixes cs with
  | case1 => exact ⟨0, rfl⟩
  | case2 rest ih =>
    cases rest with
    | nil => exact ⟨1, rfl⟩
    | cons c rest =>
      obtain ⟨count, ih⟩ := ih
      refine ⟨count, ?_⟩
      rw [List.filter_cons_of_pos rfl, List.cons_append, ← ih]
  | case3 _ _ _ ih => exact ih

theorem pairwise_outerPrefixes (cs : List Char) :
    ((outerPrefixes cs).filter (!·.isEmpty)).Pairwise (fun inner outer => outer.length < inner.length)
      ∧ ∀ outer ∈ (outerPrefixes cs).filter (!·.isEmpty), outer.length < cs.length := by
  fun_induction outerPrefixes cs with
  | case1 => simp
  | case2 rest ih =>
    have hshorter : ∀ outer ∈ (outerPrefixes rest).filter (!·.isEmpty),
        outer.length < (':' :: ':' :: rest).length := by
      intro outer houter
      have := ih.2 outer houter
      simp only [List.length_cons]
      omega
    by_cases hrest : rest = []
    · rw [List.filter_cons_of_neg (by simp [hrest])]
      exact ⟨ih.1, hshorter⟩
    · rw [List.filter_cons_of_pos (by simp [hrest]), List.pairwise_cons, List.forall_mem_cons]
      exact ⟨⟨ih.2, ih.1⟩, by simp only [List.length_cons]; omega, hshorter⟩
  | case3 c rest _ ih =>
    refine ⟨ih.1, ?_⟩
    intro outer houter
    exact Nat.lt_succ_of_lt (ih.2 outer houter)

theorem filter_map_ofList_reverse (css : List (List Char)) :
    (css.map fun cs => String.ofList cs.reverse).filter (!·.isEmpty) =
      (css.filter (!·.isEmpty)).map fun cs => String.ofList cs.reverse := by
  rw [List.filter_map]
  congr 2
  funext cs
  cases cs with
  | nil => rfl
  | cons c cs => simp

theorem enclosingPrefixes_eq_append (inner : String) :
    ∃ count, enclosingPrefixes inner = innerPrefixes inner ++ List.replicate (count + 1) "" := by
  obtain ⟨count, houter⟩ := outerPrefixes_eq_append inner.toList.reverse
  unfold innerPrefixes enclosingPrefixes
  by_cases hempty : inner = ""
  · subst hempty
    exact ⟨1, rfl⟩
  · refine ⟨count, ?_⟩
    rw [List.filter_cons_of_pos (by simp [hempty]), filter_map_ofList_reverse]
    have houter := congrArg (List.map fun cs => String.ofList cs.reverse) houter
    rw [List.map_append, List.map_replicate] at houter
    exact congrArg (inner :: ·) houter

theorem pairwise_innerPrefixes (inner : String) :
    (innerPrefixes inner).Pairwise fun inner outer => outer.length < inner.length := by
  obtain ⟨hpairwise, hshorter⟩ := pairwise_outerPrefixes inner.toList.reverse
  have hlength : ∀ cs : List Char, (String.ofList cs.reverse).length = cs.length := by
    simp [← String.length_toList]
  have houter : ((outerPrefixes inner.toList.reverse).map fun cs =>
      String.ofList cs.reverse).filter (!·.isEmpty) |>.Pairwise fun inner outer =>
        outer.length < inner.length := by
    rw [filter_map_ofList_reverse, List.pairwise_map]
    simpa only [hlength] using hpairwise
  unfold innerPrefixes enclosingPrefixes
  rw [List.filter_cons]
  split
  · rw [List.pairwise_cons, filter_map_ofList_reverse, List.forall_mem_map]
    rw [filter_map_ofList_reverse] at houter
    refine ⟨?_, houter⟩
    intro cs hcs
    have := hshorter cs hcs
    rwa [List.length_reverse, String.length_toList, ← hlength cs] at this
  · exact houter

end Prefixes

namespace Builder

variable {b : Builder} {name scope around : String} {prefixes inner outer : List String} {id : Nat}

/-- The qualified names that the search for a name from a scope with this prefix tries. -/
def searchKeys (scope name : String) : List String :=
  if "::".toList.isPrefixOf name.toList then [String.ofList (name.toList.drop 2)]
  else (enclosingPrefixes scope).map (qualifiedIn · name)

def search (b : Builder) (scope name : String) : Option Nat :=
  (searchKeys scope name).findSome? fun key => b.names.lookup key

def findIn (b : Builder) (prefixes : List String) (name : String) : Option Nat :=
  if "::".toList.isPrefixOf name.toList then none
  else prefixes.findSome? fun outer => b.names.lookup (qualifiedIn outer name)

def findGlobal (b : Builder) (name : String) : Option Nat :=
  if "::".toList.isPrefixOf name.toList then b.names.lookup (String.ofList (name.toList.drop 2))
  else b.names.lookup name

theorem findIn_append :
    b.findIn (inner ++ outer) name = (b.findIn inner name).or (b.findIn outer name) := by
  unfold findIn
  split
  · rfl
  · rw [List.findSome?_append]

theorem exists_of_findIn (h : b.findIn prefixes name = some id) :
    ¬"::".toList.isPrefixOf name.toList
      ∧ ∃ outer ∈ prefixes, b.names.lookup (qualifiedIn outer name) = some id := by
  unfold findIn at h
  split at h
  · contradiction
  · next hname => exact ⟨hname, List.exists_of_findSome?_eq_some h⟩

theorem resolve_eq_search (b : Builder) (name : String) (id : Nat) :
    b.resolve name id = b.search (b.scopePrefix id) name := by
  unfold resolve search searchKeys
  split
  · simp [findSome?_cons_eq_or]
  · rw [List.findSome?_map]
    rfl

theorem search_congr {b' : Builder}
    (h : ∀ key ∈ searchKeys scope name, b'.names.lookup key = b.names.lookup key) :
    b'.search scope name = b.search scope name := by
  unfold search
  generalize searchKeys scope name = keys at h
  induction keys with
  | nil => rfl
  | cons key keys ih =>
    rw [List.forall_mem_cons] at h
    rw [findSome?_cons_eq_or, findSome?_cons_eq_or, h.1, ih h.2]

theorem search_eq_or (b : Builder) (scope name : String) :
    b.search scope name = (b.findIn (innerPrefixes scope) name).or (b.findGlobal name) := by
  unfold search searchKeys findIn findGlobal
  split
  · simp [findSome?_cons_eq_or]
  · obtain ⟨count, hprefixes⟩ := enclosingPrefixes_eq_append scope
    rw [List.findSome?_map, hprefixes, List.findSome?_append]
    rw [List.findSome?_replicate_of_pos (Nat.succ_pos count)]
    rfl

theorem search_empty (hname : ¬"::".toList <+: name.toList) :
    b.search "" name = b.names.lookup name := by
  rw [search_eq_or]
  unfold findIn findGlobal
  rw [if_neg (by simpa using hname), if_neg (by simpa using hname)]
  rfl

theorem search_eq_findIn_or (h : innerPrefixes scope = inner ++ innerPrefixes around) (name : String) :
    b.search scope name = (b.findIn inner name).or (b.search around name) := by
  rw [search_eq_or, search_eq_or, h, findIn_append, Option.or_assoc]

end Builder

namespace CursorKind

def typeKind? : CursorKind → Option TypeKind
  | classDecl | structDecl | unionDecl | classTemplate => some .record
  | enumDecl => some .enumeration
  | typedefDecl | typeAliasDecl => some .typedefName
  | _ => none

end CursorKind

namespace Builder

variable {b : Builder} {name : String} {id : Nat}

def introduced? (b : Builder) (id : Nat) : Option CType :=
  (b.cursor id).kind.typeKind?.map fun kind => { kind, spelling := (b.cursor id).qualifiedName }

def typeFound (b : Builder) (name : String) (found? : Option Nat) : CType :=
  (found?.bind b.introduced?).getD { kind := .unexposed, spelling := name }

theorem spelling_of_introduced? {type : CType} (h : b.introduced? id = some type) :
    type.spelling = (b.cursor id).qualifiedName := by
  obtain ⟨kind, -, rfl⟩ := Option.map_eq_some_iff.mp h
  rfl

theorem kind_of_introduced? {type : CType} (h : b.introduced? id = some type) :
    type.kind ≠ .unexposed := by
  obtain ⟨kind, hkind, rfl⟩ := Option.map_eq_some_iff.mp h
  rintro rfl
  cases hcursor : (b.cursor id).kind with
  | _ => simp [hcursor, CursorKind.typeKind?] at hkind

theorem kind_typeFound (b : Builder) (name : String) (found? : Option Nat) :
    (b.typeFound name found?).kind ∈ [.record, .enumeration, .typedefName, .unexposed] := by
  unfold typeFound
  cases found? with
  | none => simp
  | some id =>
    simp only [Option.bind_some, introduced?]
    cases (b.cursor id).kind with
    | _ => simp [CursorKind.typeKind?]

theorem namedType_eq_typeFound (b : Builder) (name : String) (scope : Nat) :
    b.namedType name scope = b.typeFound name (b.resolve name scope) := by
  unfold namedType typeFound
  cases b.resolve name scope with
  | none => rfl
  | some id =>
    simp only [Option.bind_some, introduced?]
    cases (b.cursor id).kind with
    | _ => rfl

end Builder

theorem length_qualifiedIn {outer : String} (h : outer ≠ "") (name : String) :
    (qualifiedIn outer name).length = outer.length + 2 + name.length := by
  unfold qualifiedIn
  rw [if_neg (by simpa using h), String.length_append, String.length_append]
  rfl

namespace TranslationUnit

variable {source : Source} {tree : ParseTree} {options : Options} {b : Builder}
  {name scope around : String} {inner : List String} {id : Nat}

theorem qualifiedName_of_lookup (hb : Occurs source tree options b) (h : b.names.lookup name = some id) :
    (b.cursor id).qualifiedName = name := by
  have hlatest := namesLatest_of_occurs hb name
  rw [h] at hlatest
  exact hlatest.candidate.qualifiedName

theorem length_typeFound_lt (hb : Occurs source tree options b)
    (hprefixes : innerPrefixes scope = inner ++ innerPrefixes around)
    (hfound : b.findIn inner name = some id) {type : CType} (htype : b.introduced? id = some type) :
    (b.typeFound name (b.search around name)).spelling.length < type.spelling.length := by
  obtain ⟨hname, first, hfirst, hlookup⟩ := Builder.exists_of_findIn hfound
  have hsome : ∀ outer ∈ inner ++ innerPrefixes around, outer ≠ "" := by
    rw [← hprefixes]
    intro outer houter
    simpa using (List.mem_filter.mp houter).2
  have hshorter := pairwise_innerPrefixes scope
  rw [hprefixes, List.pairwise_append] at hshorter
  rw [Builder.spelling_of_introduced? htype, qualifiedName_of_lookup hb hlookup,
    length_qualifiedIn (hsome first (List.mem_append_left _ hfirst))]
  unfold Builder.typeFound
  -- Further out it is found behind a shorter prefix, or behind none, or it is the bare name.
  cases haround : (b.search around name).bind b.introduced? with
  | none =>
    simp only [Option.getD_none]
    omega
  | some type' =>
    obtain ⟨id', hid', htype'⟩ := Option.bind_eq_some_iff.mp haround
    rw [Option.getD_some, Builder.spelling_of_introduced? htype']
    rw [Builder.search_eq_or, Option.or_eq_some_iff] at hid'
    cases hid' with
    | inl hid' =>
      obtain ⟨-, second, hsecond, hlookup'⟩ := Builder.exists_of_findIn hid'
      have hless := hshorter.2.2 first hfirst second hsecond
      rw [qualifiedName_of_lookup hb hlookup',
        length_qualifiedIn (hsome second (List.mem_append_right _ hsecond))]
      omega
    | inr hid' =>
      have hlookup' := hid'.2
      unfold Builder.findGlobal at hlookup'
      rw [if_neg hname] at hlookup'
      rw [qualifiedName_of_lookup hb hlookup']
      omega

theorem typeFound_search_eq_iff (hb : Occurs source tree options b)
    (hprefixes : innerPrefixes scope = inner ++ innerPrefixes around) (name : String) :
    b.typeFound name (b.search scope name) = b.typeFound name (b.search around name) ↔
      ∀ id ∈ b.findIn inner name,
        b.introduced? id = none ∧ (b.search around name).bind b.introduced? = none := by
  rw [Builder.search_eq_findIn_or hprefixes]
  cases hfound : b.findIn inner name with
  | none => simp
  | some id =>
    simp only [Option.some_or, Option.mem_some, forall_eq']
    cases htype : b.introduced? id with
    -- A type inside has a longer spelling than anything that is found further out.
    | some type =>
      have hlt := length_typeFound_lt hb hprefixes hfound htype
      have hsome : b.typeFound name (some id) = type := by simp [Builder.typeFound, htype]
      rw [hsome]
      refine iff_of_false ?_ (by simp)
      intro heq
      rw [← heq] at hlt
      exact Nat.lt_irrefl _ hlt
    -- What is no type hides the types further out, if there are any.
    | none =>
      have hnone : b.typeFound name (some id) = { kind := .unexposed, spelling := name } := by
        simp [Builder.typeFound, htype]
      rw [hnone]
      unfold Builder.typeFound
      cases haround : (b.search around name).bind b.introduced? with
      | none => simp
      | some around =>
        obtain ⟨_, -, haround⟩ := Option.bind_eq_some_iff.mp haround
        refine iff_of_false ?_ (by simp)
        rintro rfl
        exact Builder.kind_of_introduced? haround rfl

end TranslationUnit
end CursorQuery
