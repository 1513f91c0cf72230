import CursorQuery.Pattern.CharClass

/-!
This module contains regular expressions and matching. Only whether there is a match is of interest,
so an expression maps a place in a text to the set of places at which a match from there can end, and
greedy and lazy repetition are the same.
-/

namespace CursorQuery

open Character

inductive Look where
  | textStart
  | textEnd
  | lineStart
  | lineEnd
  | wideLineStart
  | wideLineEnd
  | wordBoundary
  | wordInside
  | wordStart
  | wordEnd
  | wordStartHalf
  | wordEndHalf
  deriving Repr, DecidableEq

structure Place where
  before : Option Char
  after : List Char
  deriving Repr, DecidableEq

namespace Look

def holds (isWordChar : Char → Bool) (look : Look) (place : Place) : Bool :=
  let wordBefore := place.before.any isWordChar
  let wordAfter := place.after.head?.any isWordChar
  match look with
  | .textStart => place.before.isNone
  | .textEnd => place.after.isEmpty
  | .lineStart => place.before.isNone || place.before == some '\n'
  | .lineEnd => place.after.isEmpty || place.after.head? == some '\n'
  | .wideLineStart =>
    place.before.isNone || place.before == some '\n'
      || (place.before == some '\r' && place.after.head? != some '\n')
  | .wideLineEnd =>
    place.after.isEmpty || place.after.head? == some '\r'
      || (place.after.head? == some '\n' && place.before != some '\r')
  | .wordBoundary => wordBefore != wordAfter
  | .wordInside => wordBefore == wordAfter
  | .wordStart => !wordBefore && wordAfter
  | .wordEnd => wordBefore && !wordAfter
  | .wordStartHalf => !wordBefore
  | .wordEndHalf => !wordAfter

end Look

inductive Regex where
  | empty
  | char (cls : CharClass)
  | look (condition : Look) (ascii : Bool)
  | seq (a b : Regex)
  | alt (a b : Regex)
  | rep (a : Regex) (least : Nat) (most : Option Nat)
  deriving Repr, DecidableEq

namespace Regex

def stepAll (step : Place → List Place) (places : List Place) : List Place :=
  (places.flatMap step).eraseDups

def exactly (step : Place → List Place) : Nat → List Place → List Place
  | 0, places => places
  | n + 1, places => exactly step n (stepAll step places)

def atMost (step : Place → List Place) : Nat → List Place → List Place
  | 0, places => places
  | n + 1, places => (places ++ atMost step n (stepAll step places)).eraseDups

/--
The places at which a match that starts at `place` can end. More repetitions than there are
characters left, plus one, reach nothing new, because all but that many match the empty text.
-/
def ends : Regex → Place → List Place
  | empty, place => [place]
  | char cls, place =>
    match place.after with
    | [] => []
    | c :: rest => if cls.mem c then [{ before := some c, after := rest }] else []
  | look condition ascii, place =>
    let isWordChar := if ascii then CharClass.mem .asciiWord else isWord
    if condition.holds isWordChar place then [place] else []
  | seq a b, place => stepAll (ends b) (ends a place)
  | alt a b, place => (ends a place ++ ends b place).eraseDups
  | rep a least most, place =>
    let bound := place.after.length + 1
    let first := exactly (ends a) (min least bound) [place]
    match most with
    | none => atMost (ends a) bound first
    | some most => atMost (ends a) (min (most - least) bound) first

def places (before : Option Char) : List Char → List Place
  | [] => [{ before, after := [] }]
  | c :: rest => { before, after := c :: rest } :: places (some c) rest

def isMatch (regex : Regex) (text : String) : Bool :=
  (places none text.toList).any fun place => !(ends regex place).isEmpty

def seqAll : List Regex → Regex
  | [] => empty
  | [r] => r
  | r :: rest => seq r (seqAll rest)

def altAll : List Regex → Regex
  | [] => char .nothing
  | [r] => r
  | r :: rest => alt r (altAll rest)

end Regex
end CursorQuery
