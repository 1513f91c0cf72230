import CursorQuery.Model.Listing
import CursorQuery.Proofs.Walk

/-!
This module contains what a rendered tree looks like and why it can be read back. A rendering has one
line for each node in pre-order. What is in front of a label tells how deep the node lies, and the
labels with their depths tell the tree.
-/

namespace CursorQuery

namespace Tree

variable {α : Type}

/-- The subtree at a path: the numbers of the children to go to, from the root on. -/
def at? : Tree α → List Nat → Option (Tree α)
  | t, [] => some t
  | node _ ts, i :: path => ts[i]?.bind fun t => t.at? path

mutual

def paths : Tree α → List (List Nat)
  | node _ ts => [] :: forestPaths 0 ts

def forestPaths (first : Nat) : List (Tree α) → List (List Nat)
  | [] => []
  | t :: ts => (paths t).map (first :: ·) ++ forestPaths (first + 1) ts

end

/--
For each proper ancestor of the node at a path, the root apart and from the outside in: whether it has
a later sibling.
-/
def openAncestors : Tree α → List Nat → List Bool
  | _, [] => []
  | _, [_] => []
  | node _ ts, i :: j :: path =>
    decide (i + 1 < ts.length) :: (ts[i]?.map fun t => t.openAncestors (j :: path)).getD []

def barText (isOpen : Bool) : String :=
  if isOpen then "  |" else "   "

def indentText : List Bool → String
  | [] => ""
  | isOpen :: bars => barText isOpen ++ indentText bars

def lineText (bars : List Bool) (label : String) : String :=
  indentText bars ++ "  +--" ++ label

def labelAt (t : Tree String) (path : List Nat) : String :=
  ((t.at? path).map value).getD ""

/-- The line of the node at a path. -/
def lineAt (t : Tree String) (path : List Nat) : String :=
  if path.isEmpty then t.labelAt path else lineText (t.openAncestors path) (t.labelAt path)

def forestOutline (bars : List Bool) : List (Tree α) → List (List Bool × α)
  | [] => []
  | node a ts :: rest =>
    (bars, a) :: (forestOutline (bars ++ [!rest.isEmpty]) ts ++ forestOutline bars rest)

mutual

theorem map_at?_paths (t : Tree α) :
    t.paths.map (fun path => (t.at? path).map value) = t.preorder.map some := by
  match t with
  | node a ts =>
    rw [paths, preorder, List.map_cons, List.map_cons]
    exact congrArg _ (map_at?_forestPaths a [] ts)

theorem map_at?_forestPaths (a : α) (before ts : List (Tree α)) :
    (forestPaths before.length ts).map (fun path => ((node a (before ++ ts)).at? path).map value) =
      (forestPreorder ts).map some := by
  match ts with
  | [] => rfl
  | t :: ts =>
    have hlater := map_at?_forestPaths a (before ++ [t]) ts
    rw [List.length_append, List.append_assoc] at hlater
    rw [forestPaths, forestPreorder, List.map_append, List.map_append, List.map_map, ← map_at?_paths t]
    congr 1
    apply List.map_congr_left
    intro path _
    simp [at?]

end

theorem ne_nil_of_mem_forestPaths {first : Nat} {ts : List (Tree α)} {path : List Nat}
    (h : path ∈ forestPaths first ts) : path ≠ [] := by
  induction ts generalizing first with
  | nil => contradiction
  | cons t ts ih =>
    rw [forestPaths, List.mem_append] at h
    cases h with
    | inl h =>
      obtain ⟨rest, -, rfl⟩ := List.mem_map.mp h
      exact List.cons_ne_nil first rest
    | inr h => exact ih h

theorem openAncestors_cons {a : α} {before rest : List (Tree α)} {t : Tree α} {path : List Nat}
    (h : path ≠ []) :
    (node a (before ++ t :: rest)).openAncestors (before.length :: path) =
      (!rest.isEmpty) :: t.openAncestors path := by
  cases path with
  | nil => contradiction
  | cons j path =>
    have hopen : decide (before.length + 1 < (before ++ t :: rest).length) = !rest.isEmpty := by
      cases rest <;> simp
    rw [openAncestors, hopen]
    simp

theorem lines_forestOutline (a : String) (bars : List Bool) (before ts : List (Tree String)) :
    (forestOutline bars ts).map (fun (bars, label) => lineText bars label) =
      (forestPaths before.length ts).map fun path =>
        lineText (bars ++ (node a (before ++ ts)).openAncestors path)
          ((node a (before ++ ts)).labelAt path) := by
  match ts with
  | [] => rw [forestOutline, forestPaths, List.map_nil, List.map_nil]
  | node b cs :: rest =>
    have hinside := lines_forestOutline b (bars ++ [!rest.isEmpty]) [] cs
    have hlater := lines_forestOutline a bars (before ++ [node b cs]) rest
    rw [List.length_append, List.append_assoc] at hlater
    rw [forestOutline, forestPaths, paths, List.map_cons, List.map_cons, List.map_append,
      List.cons_append, List.map_cons, List.map_append, List.map_map, hinside, hlater]
    congr 1
    · simp [openAncestors, labelAt, at?, value]
    · congr 1
      apply List.map_congr_left
      intro path hpath
      simp only [Function.comp_apply]
      rw [openAncestors_cons (ne_nil_of_mem_forestPaths hpath)]
      simp [labelAt, at?]

def textOfLines (lines : List String) : List Char :=
  lines.flatMap fun line => line.toList ++ ['\n']

theorem splitOn_textOfLines {lines : List String} (h : ∀ line ∈ lines, '\n' ∉ line.toList) :
    (textOfLines lines).splitOn '\n' = lines.map String.toList ++ [[]] := by
  induction lines with
  | nil => rfl
  | cons line lines ih =>
    rw [List.forall_mem_cons] at h
    have htext : textOfLines (line :: lines) = line.toList ++ '\n' :: textOfLines lines := by
      simp [textOfLines]
    rw [htext, List.splitOn_append_cons_self_of_not_mem h.1, ih h.2]
    rfl

theorem indentText_append (bars : List Bool) (isOpen : Bool) :
    indentText (bars ++ [isOpen]) = indentText bars ++ barText isOpen := by
  induction bars with
  | nil => simp [indentText]
  | cons first bars ih => rw [List.cons_append, indentText, indentText, ih, String.append_assoc]

theorem not_mem_indentText (bars : List Bool) : '\n' ∉ (indentText bars).toList := by
  induction bars with
  | nil => simp [indentText]
  | cons isOpen bars ih => cases isOpen <;> simp [indentText, barText, ih]

theorem toList_renderForest (bars : List Bool) (ts : List (Tree String)) :
    (renderForest (indentText bars) ts).toList =
      textOfLines ((forestOutline bars ts).map fun (bars, label) => lineText bars label) := by
  match ts with
  | [] =>
    rw [renderForest, forestOutline]
    rfl
  | node label ts :: rest =>
    have hinside := toList_renderForest (bars ++ [!rest.isEmpty]) ts
    have hlater := toList_renderForest bars rest
    have hbar : barText (!rest.isEmpty) = if rest.isEmpty then "   " else "  |" := by
      cases rest with
      | _ => rfl
    rw [indentText_append, hbar] at hinside
    rw [renderForest, forestOutline]
    simp only [String.toList_append, hinside, hlater]
    simp [textOfLines, lineText]

theorem map_lineAt_paths (label : String) (ts : List (Tree String)) :
    (node label ts).paths.map (node label ts).lineAt =
      label :: (forestOutline [] ts).map fun (bars, label) => lineText bars label := by
  rw [paths, List.map_cons, lines_forestOutline label [] [] ts]
  congr 1
  apply List.map_congr_left
  intro path hpath
  simp [lineAt, ne_nil_of_mem_forestPaths hpath]

theorem toList_render (t : Tree String) : t.render.toList = textOfLines (t.paths.map t.lineAt) := by
  cases t with
  | node label ts =>
    have htext := toList_renderForest [] ts
    rw [indentText] at htext
    rw [render, map_lineAt_paths]
    simp [textOfLines, htext]

theorem barText_append_inj {isOpen isOpen' : Bool} {s s' : String}
    (h : barText isOpen ++ s = barText isOpen' ++ s') : isOpen = isOpen' ∧ s = s' := by
  have hchars := congrArg String.toList h
  rw [String.toList_append, String.toList_append] at hchars
  -- Bars and blanks differ in their third character.
  cases isOpen with
  | false =>
    cases isOpen' with
    | false => exact ⟨rfl, String.toList_injective (by simpa [barText] using hchars)⟩
    | true => simp [barText] at hchars
  | true =>
    cases isOpen' with
    | false => simp [barText] at hchars
    | true => exact ⟨rfl, String.toList_injective (by simpa [barText] using hchars)⟩

theorem lineText_nil_ne (label s : String) (isOpen : Bool) :
    lineText [] label ≠ barText isOpen ++ s := by
  intro h
  have hchars := congrArg String.toList h
  cases isOpen with
  | _ => simp [lineText, indentText, barText] at hchars

theorem lineText_cons (isOpen : Bool) (bars : List Bool) (label : String) :
    lineText (isOpen :: bars) label = barText isOpen ++ lineText bars label := by
  simp only [lineText, indentText, String.append_assoc]

theorem lineText_inj {bars bars' : List Bool} {label label' : String}
    (h : lineText bars label = lineText bars' label') : bars = bars' ∧ label = label' := by
  induction bars generalizing bars' with
  | nil =>
    cases bars' with
    | nil => exact ⟨rfl, by simpa [lineText, indentText] using h⟩
    | cons isOpen' bars' =>
      rw [lineText_cons] at h
      exact absurd h (lineText_nil_ne label _ isOpen')
  | cons isOpen bars ih =>
    rw [lineText_cons] at h
    cases bars' with
    | nil => exact absurd h.symm (lineText_nil_ne label' _ isOpen)
    | cons isOpen' bars' =>
      rw [lineText_cons] at h
      obtain ⟨rfl, hlater⟩ := barText_append_inj h
      obtain ⟨rfl, rfl⟩ := ih hlater
      exact ⟨rfl, rfl⟩

def StartsAbove (depth : Nat) (entries : List (List Bool × α)) : Prop :=
  ∀ entry ∈ entries.head?, entry.1.length < depth

theorem not_startsAbove_cons {depth : Nat} {entry : List Bool × α} {entries : List (List Bool × α)}
    (hdepth : entry.1.length = depth) : ¬StartsAbove depth (entry :: entries) := by
  intro h
  have := h entry rfl
  omega

theorem StartsAbove.append {bars : List Bool} {rest : List (List Bool × α)}
    (h : StartsAbove bars.length rest) (ts : List (Tree α)) :
    StartsAbove (bars.length + 1) (forestOutline bars ts ++ rest) := by
  intro entry hentry
  cases ts with
  | nil =>
    rw [forestOutline, List.nil_append] at hentry
    exact Nat.lt_succ_of_lt (h entry hentry)
  | cons t ts =>
    cases t with
    | node a cs =>
      rw [forestOutline] at hentry
      obtain rfl : (bars, a) = entry := by simpa using hentry
      exact Nat.lt_succ_self bars.length

theorem forestOutline_append_inj {bars bars' : List Bool} (hbars : bars.length = bars'.length)
    {ts us : List (Tree α)} {rest rest' : List (List Bool × α)} (hrest : StartsAbove bars.length rest)
    (hrest' : StartsAbove bars'.length rest')
    (h : forestOutline bars ts ++ rest = forestOutline bars' us ++ rest') : ts = us ∧ rest = rest' := by
  match ts, us with
  | [], [] =>
    rw [forestOutline, forestOutline] at h
    exact ⟨rfl, h⟩
  | [], node b ds :: us =>
    rw [forestOutline, forestOutline, List.nil_append] at h
    rw [h] at hrest
    exact absurd hrest (not_startsAbove_cons hbars.symm)
  | node a cs :: ts, [] =>
    rw [forestOutline, forestOutline, List.nil_append] at h
    rw [← h] at hrest'
    exact absurd hrest' (not_startsAbove_cons hbars)
  -- The depths tell where the trees below the first nodes end, so these trees are the same, and so
  -- are the ones beside them.
  | node a cs :: ts, node b ds :: us =>
    rw [forestOutline, forestOutline, List.cons_append, List.cons_append, List.cons.injEq,
      List.append_assoc, List.append_assoc] at h
    obtain ⟨hfirst, hbelow⟩ := h
    obtain ⟨-, rfl⟩ := Prod.mk.inj hfirst
    have hdeeper : (bars ++ [!ts.isEmpty]).length = (bars' ++ [!us.isEmpty]).length := by
      rw [List.length_append, List.length_append, hbars]
      rfl
    have hends : StartsAbove (bars ++ [!ts.isEmpty]).length (forestOutline bars ts ++ rest) := by
      rw [List.length_append]
      exact hrest.append ts
    have hends' : StartsAbove (bars' ++ [!us.isEmpty]).length (forestOutline bars' us ++ rest') := by
      rw [List.length_append]
      exact hrest'.append us
    obtain ⟨rfl, hbeside⟩ := forestOutline_append_inj hdeeper hends hends' hbelow
    obtain ⟨rfl, hlater⟩ := forestOutline_append_inj hbars hrest hrest' hbeside
    exact ⟨rfl, hlater⟩

theorem map_labelAt_paths (t : Tree String) : t.paths.map t.labelAt = t.preorder := by
  have hsome := congrArg (List.map fun label? : Option String => label?.getD "") (map_at?_paths t)
  rw [List.map_map, List.map_map] at hsome
  exact hsome.trans (List.map_id _)

theorem forestOutline_inj {bars : List Bool} {ts us : List (Tree α)}
    (h : forestOutline bars ts = forestOutline bars us) : ts = us := by
  have hnone : StartsAbove bars.length ([] : List (List Bool × α)) := by simp [StartsAbove]
  exact (forestOutline_append_inj rfl hnone hnone (congrArg (· ++ []) h)).1

def HasLineLabels (t : Tree String) : Prop :=
  ∀ label ∈ t.preorder, '\n' ∉ label.toList

theorem HasLineLabels.lineAt {t : Tree String} (h : t.HasLineLabels) :
    ∀ line ∈ t.paths.map t.lineAt, '\n' ∉ line.toList := by
  rw [List.forall_mem_map]
  intro path hpath
  have hlabel : '\n' ∉ (t.labelAt path).toList := by
    have hsome : (t.at? path).map value ∈ t.preorder.map some := by
      rw [← map_at?_paths]
      exact List.mem_map_of_mem hpath
    obtain ⟨label, hmem, hat⟩ := List.mem_map.mp hsome
    rw [labelAt, ← hat]
    exact h label hmem
  unfold Tree.lineAt
  split
  · exact hlabel
  · simp [lineText, hlabel, not_mem_indentText]

theorem HasLineLabels.splitOn_render {t : Tree String} (h : t.HasLineLabels) :
    t.render.toList.splitOn '\n' = t.paths.map (fun path => (t.lineAt path).toList) ++ [[]] := by
  rw [toList_render, splitOn_textOfLines h.lineAt, List.map_map]
  rfl

theorem HasLineLabels.render_inj {t u : Tree String} (ht : t.HasLineLabels) (hu : u.HasLineLabels)
    (h : t.render = u.render) : t = u := by
  have hsplit := congrArg (fun text : String => text.toList.splitOn '\n') h
  rw [toList_render, toList_render, splitOn_textOfLines ht.lineAt, splitOn_textOfLines hu.lineAt,
    List.append_left_inj, List.map_inj_right fun _ _ => String.toList_injective] at hsplit
  cases t with
  | node a ts =>
    cases u with
    | node b us =>
      rw [map_lineAt_paths, map_lineAt_paths, List.cons.injEq, List.map_inj_right] at hsplit
      · rw [hsplit.1, forestOutline_inj hsplit.2]
      · rintro ⟨bars, label⟩ ⟨bars', label'⟩ hline
        obtain ⟨rfl, rfl⟩ := lineText_inj hline
        rfl

mutual

theorem preorder_map {β : Type} (f : α → β) (t : Tree α) : (t.map f).preorder = t.preorder.map f := by
  match t with
  | node a ts => rw [map, preorder, preorder, List.map_cons, forestPreorder_mapForest f ts]

theorem forestPreorder_mapForest {β : Type} (f : α → β) (ts : List (Tree α)) :
    forestPreorder (mapForest f ts) = (forestPreorder ts).map f := by
  match ts with
  | [] => rfl
  | t :: ts =>
    rw [mapForest, forestPreorder, forestPreorder, List.map_append, preorder_map f t,
      forestPreorder_mapForest f ts]

end

end Tree

namespace Model

variable {ν μ : Type}

def labels (m : Model ν) (root : ν) : Tree String :=
  (m.tree root).map fun v => (m.entity v).label

def HasLineLabels (m : Model ν) (root : ν) : Prop :=
  ∀ v ∈ m.descendants root, '\n' ∉ (m.entity v).label.toList

theorem preorder_labels (m : Model ν) (root : ν) :
    (m.labels root).preorder = (m.descendants root).map fun v => (m.entity v).label := by
  rw [labels, Tree.preorder_map, descendants_eq_listing]
  rfl

theorem HasLineLabels.labels {m : Model ν} {root : ν} (h : m.HasLineLabels root) :
    (m.labels root).HasLineLabels := by
  unfold Tree.HasLineLabels
  rw [preorder_labels, List.forall_mem_map]
  exact h

/--
A dump has one line for each node in pre-order: its label, and in front of it, below the root, what
tells for each of the ancestors whether it has a later sibling. So from the dump the labels are known
and where they stand.
-/
theorem dump_lines (m : Model ν) (root : ν) (h : m.HasLineLabels root) :
    let t := m.labels root
    t.paths.map t.labelAt = (m.descendants root).map (fun v => (m.entity v).label)
      ∧ (m.dump root).toList.splitOn '\n' = t.paths.map (fun path => (t.lineAt path).toList) ++ [[]]
      ∧ ∀ {μ : Type} (m' : Model μ) (root' : μ), m'.HasLineLabels root' →
        m'.dump root' = m.dump root → m'.labels root' = m.labels root := by
  refine ⟨?_, h.labels.splitOn_render, ?_⟩
  · rw [Tree.map_labelAt_paths, preorder_labels]
  · intro μ m' root' h' hdump
    exact h'.labels.render_inj h.labels hdump

def apartNodes : Array ListedNode :=
  #[{ entity := { kind := .namespaceDecl, spelling := "n" }, children := [1, 3] },
    { entity := { kind := .classDecl, spelling := "|  +--A" }, children := [2] },
    { entity := { kind := .fieldDecl, spelling := "x" } },
    { entity := { kind := .fieldDecl, spelling := "x" } }]

/-- The same with one field that is listed twice. -/
def sharedNodes : Array ListedNode :=
  #[{ entity := { kind := .namespaceDecl, spelling := "n" }, children := [1, 2] },
    { entity := { kind := .classDecl, spelling := "|  +--A" }, children := [2] },
    { entity := { kind := .fieldDecl, spelling := "x" } }]

def apart : Model (Fin 4) :=
  ListedNode.model apartNodes

def shared : Model (Fin 3) :=
  ListedNode.model sharedNodes

def renderedTree : Tree String :=
  .node "NAMESPACE n"
    [.node "CLASS_DECL |  +--A" [.node "FIELD_DECL x" []], .node "FIELD_DECL x" []]

theorem labels_apart : apart.labels 0 = renderedTree := by
  have hfirst : apart.tree 2 = .node 2 [] := tree_eq ..
  have hsecond : apart.tree 3 = .node 3 [] := tree_eq ..
  have hclass : apart.tree 1 = .node 1 [apart.tree 2] := tree_eq ..
  have hroot : apart.tree 0 = .node 0 [apart.tree 1, apart.tree 3] := tree_eq ..
  rw [labels, hroot, hclass, hfirst, hsecond]
  rfl

theorem labels_shared : shared.labels 0 = renderedTree := by
  have hfield : shared.tree 2 = .node 2 [] := tree_eq ..
  have hclass : shared.tree 1 = .node 1 [shared.tree 2] := tree_eq ..
  have hroot : shared.tree 0 = .node 0 [shared.tree 1, shared.tree 2] := tree_eq ..
  rw [labels, hroot, hclass, hfield]
  rfl

theorem dump_lines_shared :
    apart.HasLineLabels 0 ∧ shared.HasLineLabels 0 ∧ shared.dump 0 = apart.dump 0
      ∧ shared.labels 0 = apart.labels 0
      ∧ (apart.dump 0).toList.splitOn '\n' =
        ["NAMESPACE n", "  +--CLASS_DECL |  +--A", "  |  +--FIELD_DECL x", "  +--FIELD_DECL x"].map
          String.toList ++ [[]] := by
  have hapart : ∀ v, '\n' ∉ (apart.entity v).label.toList := by decide
  have hshared : ∀ v, '\n' ∉ (shared.entity v).label.toList := by decide
  have hdump : shared.dump 0 = apart.dump 0 :=
    congrArg Tree.render (labels_shared.trans labels_apart.symm)
  obtain ⟨-, hlines, hinj⟩ := dump_lines apart 0 fun v _ => hapart v
  refine ⟨fun v _ => hapart v, fun v _ => hshared v, hdump,
    hinj shared 0 (fun v _ => hshared v) hdump, ?_⟩
  rw [hlines, labels_apart]
  decide +kernel

end Model
end CursorQuery
