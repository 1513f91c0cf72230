import CursorQuery.Unit.Basic

/-!
This module contains the way from files to translation units: what can go wrong, the parsers, and the
pool from which they are taken.

A pool keeps at most one parser for later. A call takes it out, or makes a new one, and puts it back
at its end unless another one is there by then. So calls within calls never share a parser.
-/

namespace CursorQuery

inductive ReadError where
  | notFound
  | isDirectory
  | notDirectory
  | notText
  deriving Repr, DecidableEq

namespace ReadError

def message : ReadError → String
  | notFound => "No such file or directory (os error 2)"
  | isDirectory => "Is a directory (os error 21)"
  | notDirectory => "Not a directory (os error 20)"
  | notText => "stream did not contain valid UTF-8"

end ReadError

/-- What keeps a unit from being made. A parser that has its language and all the time it needs gives a
tree for every text, so there is no case for a parser that gives none. -/
inductive FrontendError where
  | noParser
  | unreadable (path : String) (reason : ReadError)
  deriving Repr, DecidableEq

namespace FrontendError

def message : FrontendError → String
  | noParser => "failed to set C++ language for parser"
  | unreadable path reason => "I/O error reading " ++ path ++ ": " ++ reason.message

end FrontendError

structure Parser where
  serial : Nat
  options : Options := {}
  deriving Repr, DecidableEq

namespace Parser

def parse (parser : Parser) (source : Source) (tree : ParseTree) : TranslationUnit :=
  .ofParseTree source tree parser.options

end Parser

inductive Input where
  | text (source : Source) (tree : ParseTree)
  | file (path : String)

structure Pool where
  slot : Option Parser := none
  attempts : Nat := 0
  deriving Repr, DecidableEq

namespace Pool

variable {α : Type}

def lend (parser : Parser) (f : Parser → Pool → α × Pool) (pool : Pool) : α × Pool :=
  let (result, after) := f parser { pool with slot := none }
  (result, { after with slot := some (after.slot.getD parser) })

/--
Runs `f` with the parser of the pool, or with a new one if the pool has none. `canCreate` says which
attempts to make a parser succeed; after one that does not, `f` is not run.
-/
def withParser (canCreate : Nat → Bool) (f : Parser → Pool → α × Pool) (pool : Pool) :
    Except FrontendError α × Pool :=
  match pool.slot with
  | some parser =>
    let (result, after) := lend parser f pool
    (.ok result, after)
  | none =>
    let pool' := { pool with attempts := pool.attempts + 1 }
    if canCreate pool.attempts then
      let (result, after) := lend { serial := pool.attempts } f pool'
      (.ok result, after)
    else (.error .noParser, pool')

def parseInput (read : String → Except ReadError (String × ParseTree)) (parser : Parser) :
    Input → Except FrontendError TranslationUnit
  | .text source tree => .ok (parser.parse source tree)
  | .file path =>
    match read path with
    | .ok (text, tree) => .ok (parser.parse { path, text } tree)
    | .error reason => .error (.unreadable path reason)

def parseOne (canCreate : Nat → Bool) (read : String → Except ReadError (String × ParseTree))
    (input : Input) (pool : Pool) : Except FrontendError TranslationUnit × Pool :=
  let (result, after) :=
    withParser canCreate (fun parser pool => (parseInput read parser input, pool)) pool
  (result.bind id, after)

def parseEach (canCreate : Nat → Bool) (read : String → Except ReadError (String × ParseTree)) :
    List Input → Pool → List (Except FrontendError TranslationUnit) × Pool
  | [], pool => ([], pool)
  | input :: inputs, pool =>
    let (result, pool) := parseOne canCreate read input pool
    let (results, pool) := parseEach canCreate read inputs pool
    (result :: results, pool)

def parseNested (canCreate : Nat → Bool) (read : String → Except ReadError (String × ParseTree))
    (inputs : List Input) (pool : Pool) : List (Except FrontendError TranslationUnit) × Pool :=
  match inputs with
  | [] => ([], pool)
  | input :: inputs =>
    let (results, after) :=
      withParser canCreate (fun parser pool =>
        let result := parseInput read parser input
        let (results, pool) := parseEach canCreate read inputs pool
        (result :: results, pool)) pool
    match results with
    | .ok results => (results, after)
    | .error e => ([.error e], after)

end Pool

end CursorQuery
