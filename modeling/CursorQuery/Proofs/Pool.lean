import Mathlib.Data.List.Nodup
import CursorQuery.Unit.Frontend

/-!
This module contains the safety of the pool of parsers. A history is what a thread does with its pool:
it makes calls, and within each of them it parses and makes further calls, depending on what came of the
ones before. Whatever it does, no two calls in progress have the same parser, and none has the one in the
pool.
-/

namespace CursorQuery

/-- What is done within `depth` calls in progress. It ends with a result. -/
inductive Routine : Nat → Type → Type 1 where
  | done {depth : Nat} {α : Type} (result : α) : Routine depth α
  | parse {depth : Nat} {α : Type} (holder : Fin depth) (input : Input)
    (next : Except FrontendError TranslationUnit → Routine depth α) : Routine depth α
  | call {depth : Nat} {α β : Type} (body : Routine (depth + 1) β)
    (next : Except FrontendError β → Routine depth α) : Routine depth α

namespace Pool

inductive Observation where
  | working (held : List Parser) (slot : Option Parser)
  | parsed (parser : Parser) (input : Input) (result : Except FrontendError TranslationUnit)
  | returned (slot : Option Parser)
  | refused (error : FrontendError) (before after : Option Parser)

def observe {α : Type} (before after : Option Parser) :
    Except FrontendError (α × List Observation) → List Observation
  | .ok (_, inner) => inner ++ [.returned after]
  | .error error => [.refused error before after]

end Pool

namespace Routine

variable (canCreate : Nat → Bool) (read : String → Except ReadError (String × ParseTree))

def run : {depth : Nat} → {α : Type} → Routine depth α → Vector Parser depth → Pool →
    (α × List Pool.Observation) × Pool
  | _, _, .done result, held, pool => ((result, [.working held.toList pool.slot]), pool)
  | _, _, .parse holder input next, held, pool =>
    let result := Pool.parseInput read held[holder] input
    let ((answer, later), after) := run (next result) held pool
    ((answer, .working held.toList pool.slot :: .parsed held[holder] input result :: later), after)
  | _, _, .call body next, held, pool =>
    let (outcome, after) :=
      Pool.withParser canCreate (fun parser pool => run body (held.push parser) pool) pool
    let ((answer, later), last) := run (next (outcome.map (·.1))) held after
    ((answer,
      .working held.toList pool.slot :: Pool.observe pool.slot after.slot outcome ++ later), last)

end Routine

namespace Pool

section Instances

def instances (pool : Pool) (held : List Parser) : List Parser :=
  held ++ pool.slot.toList

/-- The instances are pairwise distinct and have the default options. The next one is a new one. -/
structure IsSafe (pool : Pool) (held : List Parser) : Prop where
  nodup : ((pool.instances held).map (·.serial)).Nodup
  options : ∀ parser ∈ pool.instances held, parser.options = {}
  isOld : ∀ parser ∈ pool.instances held, parser.serial < pool.attempts

variable {pool later : Pool} {held held' : List Parser} {parser : Parser}

theorem isSafe_empty : IsSafe {} [] := by
  constructor
  · exact List.nodup_nil
  · simp [instances]
  · simp [instances]

theorem IsSafe.of_sublist (h : pool.IsSafe held)
    (hsub : (later.instances held').Sublist (pool.instances held))
    (hattempts : pool.attempts ≤ later.attempts) : later.IsSafe held' := by
  constructor
  · exact h.nodup.sublist (hsub.map _)
  · intro parser hparser
    exact h.options parser (hsub.subset hparser)
  · intro parser hparser
    have := h.isOld parser (hsub.subset hparser)
    omega

def refill (pool : Pool) (parser : Parser) : Pool :=
  { pool with slot := some (pool.slot.getD parser) }

theorem IsSafe.refill (h : pool.IsSafe (held ++ [parser])) : (pool.refill parser).IsSafe held := by
  refine h.of_sublist ?_ (Nat.le_refl _)
  unfold instances Pool.refill
  -- Either the parser moves into the pool, or it is dropped.
  cases pool.slot with
  | none => simp
  | some other => simp

inductive Lends (canCreate : Nat → Bool) (pool : Pool) : Parser → Pool → Prop where
  | pooled {parser : Parser} (h : pool.slot = some parser) :
    Lends canCreate pool parser { pool with slot := none }
  | created (hempty : pool.slot = none) (hcreate : canCreate pool.attempts = true) :
    Lends canCreate pool { serial := pool.attempts }
      { slot := none, attempts := pool.attempts + 1 }

variable {canCreate : Nat → Bool}

theorem IsSafe.lends (h : pool.IsSafe held) (hlends : Lends canCreate pool parser later) :
    later.IsSafe (held ++ [parser]) := by
  cases hlends with
  | pooled hslot =>
    refine h.of_sublist ?_ (Nat.le_refl _)
    simp [instances, hslot]
  | created hempty hcreate =>
    have hinstances : instances { slot := none, attempts := pool.attempts + 1 }
        (held ++ [{ serial := pool.attempts }]) =
        pool.instances held ++ [{ serial := pool.attempts }] := by
      simp [instances, hempty]
    constructor
    · rw [hinstances, List.map_append, List.nodup_append]
      refine ⟨h.nodup, List.nodup_singleton _, ?_⟩
      intro serial hserial new hnew
      obtain ⟨parser, hparser, rfl⟩ := List.mem_map.mp hserial
      rw [List.mem_singleton.mp hnew]
      exact Nat.ne_of_lt (h.isOld parser hparser)
    · rw [hinstances, List.forall_mem_append, List.forall_mem_singleton]
      exact ⟨h.options, rfl⟩
    · rw [hinstances, List.forall_mem_append, List.forall_mem_singleton]
      refine ⟨?_, Nat.lt_succ_self _⟩
      intro parser hparser
      exact Nat.lt_succ_of_lt (h.isOld parser hparser)

variable {α : Type}

theorem withParser_cases (canCreate : Nat → Bool) (f : Parser → Pool → α × Pool) (pool : Pool) :
    (∃ parser lent, Lends canCreate pool parser lent
        ∧ withParser canCreate f pool = (.ok (f parser lent).1, (f parser lent).2.refill parser))
      ∨ (pool.slot = none ∧ canCreate pool.attempts = false
        ∧ withParser canCreate f pool =
          (.error .noParser, { pool with attempts := pool.attempts + 1 })) := by
  unfold withParser
  cases hslot : pool.slot with
  | some parser => exact .inl ⟨parser, _, .pooled hslot, rfl⟩
  | none =>
    cases hcreate : canCreate pool.attempts with
    | true => exact .inl ⟨_, _, .created hslot hcreate, rfl⟩
    | false => exact .inr ⟨rfl, rfl, rfl⟩

end Instances

section Runs

variable (canCreate : Nat → Bool) (read : String → Except ReadError (String × ParseTree))

def Observation.IsSafe : Observation → Prop
  | working held slot =>
    ((held ++ slot.toList).map (·.serial)).Nodup
      ∧ ∀ parser ∈ held ++ slot.toList, parser.options = {}
  | parsed _ input result => ∀ serial, result = parseInput read { serial } input
  | returned slot => slot.isSome
  | refused error before after => error = .noParser ∧ before = none ∧ after = before

theorem parseInput_congr {parser parser' : Parser} (h : parser.options = parser'.options)
    (input : Input) : parseInput read parser input = parseInput read parser' input := by
  cases input with
  | text source tree => simp [parseInput, Parser.parse, h]
  | file path => simp [parseInput, Parser.parse, h]

theorem IsSafe.working {pool : Pool} {held : List Parser} (h : pool.IsSafe held) :
    Observation.IsSafe read (.working held pool.slot) :=
  ⟨h.nodup, h.options⟩

theorem isSafe_run {depth : Nat} {α : Type} (routine : Routine depth α) (held : Vector Parser depth)
    (pool : Pool) (h : pool.IsSafe held.toList) :
    (∀ observation ∈ (routine.run canCreate read held pool).1.2, observation.IsSafe read)
      ∧ (routine.run canCreate read held pool).2.IsSafe held.toList := by
  induction routine generalizing pool with
  | done result =>
    simp only [Routine.run, List.forall_mem_singleton]
    exact ⟨h.working read, h⟩
  | parse holder input next ih =>
    simp only [Routine.run, List.forall_mem_cons]
    obtain ⟨hlater, hafter⟩ := ih (parseInput read held[holder] input) held pool h
    refine ⟨⟨h.working read, ?_, hlater⟩, hafter⟩
    intro serial
    apply parseInput_congr
    apply h.options
    unfold instances
    simp
  | call body next ihbody ihnext =>
    simp only [Routine.run, List.forall_mem_cons, List.cons_append, List.forall_mem_append]
    obtain ⟨parser, lent, hlends, hcall⟩ | ⟨hempty, hcreate, hcall⟩ := withParser_cases canCreate
      (fun parser pool => body.run canCreate read (held.push parser) pool) pool
    -- The closure runs with one more parser held. At its end that parser goes back into the pool.
    · have hlent := h.lends hlends
      rw [← Vector.toList_push] at hlent
      obtain ⟨hinner, hleft⟩ := ihbody (held.push parser) lent hlent
      rw [Vector.toList_push] at hleft
      rw [hcall]
      obtain ⟨hlater, hafter⟩ := ihnext _ held _ hleft.refill
      refine ⟨⟨h.working read, ?_, hlater⟩, hafter⟩
      simp only [observe, List.forall_mem_append, List.forall_mem_singleton]
      exact ⟨hinner, rfl⟩
    -- Without a parser nothing but the number of attempts changes.
    · rw [hcall]
      have hsame : IsSafe { pool with attempts := pool.attempts + 1 } held.toList :=
        h.of_sublist (.refl _) (Nat.le_succ _)
      obtain ⟨hlater, hafter⟩ := ihnext _ held _ hsame
      refine ⟨⟨h.working read, ?_, hlater⟩, hafter⟩
      simp only [observe, List.forall_mem_singleton]
      exact ⟨rfl, hempty, rfl⟩

theorem run_call_of_refused {depth : Nat} {α β : Type} {pool : Pool} (body : Routine (depth + 1) α)
    (next : Except FrontendError α → Routine depth β) (held : Vector Parser depth)
    (hempty : pool.slot = none) (hcreate : canCreate pool.attempts = false) :
    let later := (next (.error .noParser)).run canCreate read held
      { slot := none, attempts := pool.attempts + 1 }
    (Routine.call body next).run canCreate read held pool =
      ((later.1.1, .working held.toList none :: .refused .noParser none none :: later.1.2),
        later.2) := by
  intro later
  obtain ⟨parser, lent, hlends, -⟩ | ⟨-, -, hcall⟩ := withParser_cases canCreate
    (fun parser pool => body.run canCreate read (held.push parser) pool) pool
  · cases hlends with
    | pooled hslot => simp [hempty] at hslot
    | created _ hcreate' => simp [hcreate] at hcreate'
  · simp only [Routine.run, hcall, hempty]
    rfl

/--
Whatever a thread does, nothing is wrong with what is seen of it. A call for which there is no parser does
not run its closure and leaves the pool empty.
-/
theorem run_isSafe {α : Type} (history : Routine 0 α) :
    (∀ observation ∈ (history.run canCreate read #v[] {}).1.2, observation.IsSafe read)
    ∧ ∀ (depth : Nat) (β γ : Type) (body : Routine (depth + 1) β)
      (next : Except FrontendError β → Routine depth γ) (held : Vector Parser depth) (pool : Pool),
      pool.slot = none → canCreate pool.attempts = false →
        let later := (next (.error .noParser)).run canCreate read held
          { slot := none, attempts := pool.attempts + 1 }
        (Routine.call body next).run canCreate read held pool =
          ((later.1.1, .working held.toList none :: .refused .noParser none none :: later.1.2),
            later.2) := by
  constructor
  · exact (isSafe_run canCreate read history #v[] {} isSafe_empty).1
  · intro depth β γ body next held pool hempty hcreate
    exact run_call_of_refused canCreate read body next held hempty hcreate

/-- A call that finds no parser, within a call within a call. The two parse with both parsers. -/
def nestedCalls : Routine 0 Nat :=
  let third := .done 3
  let second := .call third fun _ =>
    .parse 0 (.file "a.h") fun _ => .parse 1 (.file "b.h") fun _ => .done 2
  let first := .call second fun _ => .done 1
  .call first fun _ => .done 0

theorem run_isSafe_nestedCalls :
    let canCreate := fun attempt => decide (attempt < 2)
    let read : String → Except ReadError (String × ParseTree) := fun _ => .error .notFound
    let first : Parser := { serial := 0 }
    let second : Parser := { serial := 1 }
    let seen := (nestedCalls.run canCreate read #v[] {}).1.2
    seen = [.working [] none, .working [first] none, .working [first, second] none,
        .refused .noParser none none, .working [first, second] none,
        .parsed first (.file "a.h") (.error (.unreadable "a.h" .notFound)),
        .working [first, second] none,
        .parsed second (.file "b.h") (.error (.unreadable "b.h" .notFound)),
        .working [first, second] none, .returned (some second),
        .working [first] (some second), .returned (some second), .working [] (some second)]
    ∧ (∀ observation ∈ seen, observation.IsSafe read)
    ∧ let pool : Pool := { slot := none, attempts := 2 }
      pool.slot = none ∧ canCreate pool.attempts = false
        ∧ (Routine.call (.done 3) fun _ => .done 2).run canCreate read #v[first, second] pool =
          ((2, [.working [first, second] none, .refused .noParser none none,
            .working [first, second] none]), { slot := none, attempts := 3 }) := by
  intro canCreate read first second seen
  obtain ⟨hsafe, hrefused⟩ := run_isSafe canCreate read nestedCalls
  refine ⟨rfl, hsafe, rfl, rfl, ?_⟩
  exact hrefused 2 Nat Nat (.done 3) (fun _ => .done 2) #v[first, second] _ rfl rfl

end Runs

end Pool

section Parsing

variable (canCreate : Nat → Bool) (read : String → Except ReadError (String × ParseTree))

theorem Pool.withParser_map {α β : Type} (f : Parser → Pool → α × Pool) (g : α → β) (pool : Pool) :
    withParser canCreate (fun parser pool => (g (f parser pool).1, (f parser pool).2)) pool =
      ((withParser canCreate f pool).1.map g, (withParser canCreate f pool).2) := by
  unfold withParser
  cases pool.slot with
  | some parser => rfl
  | none =>
    cases canCreate pool.attempts with
    | true => rfl
    | false => rfl

namespace Routine

variable {depth : Nat} {α : Type}

def outcome (routine : Routine depth α) (held : Vector Parser depth) (pool : Pool) : α × Pool :=
  let ((result, _), after) := routine.run canCreate read held pool
  (result, after)

def each : List Input → (List (Except FrontendError TranslationUnit) → Routine depth α) →
    Routine depth α
  | [], next => next []
  | input :: inputs, next =>
    .call (.parse (Fin.last depth) input .done) fun result =>
      each inputs fun results => next (result.bind id :: results)

def nested (input : Input) (inputs : List Input) :
    Routine depth (List (Except FrontendError TranslationUnit)) :=
  .call
    (.parse (Fin.last depth) input fun result => each inputs fun results => .done (result :: results))
    fun
      | .ok results => .done results
      | .error error => .done [.error error]

theorem outcome_call {β : Type} (body : Routine (depth + 1) β)
    (next : Except FrontendError β → Routine depth α) (held : Vector Parser depth) (pool : Pool) :
    (call body next).outcome canCreate read held pool =
      let called := Pool.withParser canCreate
        (fun parser pool => body.outcome canCreate read (held.push parser) pool) pool
      (next called.1).outcome canCreate read held called.2 := by
  have hmap := Pool.withParser_map canCreate
    (fun parser pool => body.run canCreate read (held.push parser) pool) Prod.fst pool
  unfold outcome at hmap ⊢
  dsimp only at hmap ⊢
  rw [hmap, run]

theorem outcome_parse_last (input : Input) (held : Vector Parser depth) (parser : Parser) (pool : Pool)
    (next : Except FrontendError TranslationUnit → Routine (depth + 1) α) :
    (parse (Fin.last depth) input next).outcome canCreate read (held.push parser) pool =
      (next (Pool.parseInput read parser input)).outcome canCreate read (held.push parser) pool := by
  simp [outcome, run]

theorem outcome_done (result : α) (held : Vector Parser depth) (pool : Pool) :
    (done result).outcome canCreate read held pool = (result, pool) := by
  simp [outcome, run]

theorem outcome_each (inputs : List Input)
    (next : List (Except FrontendError TranslationUnit) → Routine depth α)
    (held : Vector Parser depth) (pool : Pool) :
    (each inputs next).outcome canCreate read held pool =
      let parsed := Pool.parseEach canCreate read inputs pool
      (next parsed.1).outcome canCreate read held parsed.2 := by
  induction inputs generalizing next pool with
  | nil => rfl
  | cons input inputs ih =>
    simp only [each, outcome_call, outcome_parse_last, outcome_done, ih]
    rfl

end Routine

namespace Pool

theorem parseEach_eq_outcome (inputs : List Input) (pool : Pool) :
    parseEach canCreate read inputs pool =
      (Routine.each inputs .done).outcome canCreate read #v[] pool := by
  rw [Routine.outcome_each, Routine.outcome_done]

theorem parseNested_eq_outcome (input : Input) (inputs : List Input) (pool : Pool) :
    parseNested canCreate read (input :: inputs) pool =
      (Routine.nested input inputs).outcome canCreate read #v[] pool := by
  simp only [Routine.nested, Routine.outcome_call, Routine.outcome_parse_last, Routine.outcome_each,
    Routine.outcome_done, parseNested]
  generalize withParser canCreate _ pool = called
  obtain ⟨results, after⟩ := called
  cases results with
  | ok results => rw [Routine.outcome_done]
  | error error => rw [Routine.outcome_done]

end Pool

end Parsing

end CursorQuery
