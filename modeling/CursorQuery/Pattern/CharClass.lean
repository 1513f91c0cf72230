import CursorQuery.Character.Blank
import CursorQuery.Character.Digit
import CursorQuery.Character.Fold
import CursorQuery.Character.Word

/-!
This module contains character classes: sets of characters in the form in which a pattern writes them.
-/

namespace CursorQuery

open Character

inductive CharClass where
  | nothing
  | range (lo hi : Char)
  | table (ranges : List (Nat × Nat))
  | word
  | digit
  | blank
  | union (a b : CharClass)
  | inter (a b : CharClass)
  | compl (a : CharClass)
  | anyCase (a : CharClass)
  | anyAsciiCase (a : CharClass)
  deriving Repr, DecidableEq

namespace CharClass

def mem : CharClass → Char → Bool
  | nothing, _ => false
  | range lo hi, c => lo ≤ c && c ≤ hi
  | table ranges, c => inRanges ranges c.toNat
  | word, c => isWord c
  | digit, c => isDigit c
  | blank, c => isBlank c
  | union a b, c => mem a c || mem b c
  | inter a b, c => mem a c && mem b c
  | compl a, c => !mem a c
  | anyCase a, c => (caseVariants c).any (mem a)
  | anyAsciiCase a, c => mem a c || mem a (swapAsciiCase c)

def single (c : Char) : CharClass :=
  range c c

def ofRanges (ranges : List (Char × Char)) : CharClass :=
  ranges.foldl (fun cls (lo, hi) => union cls (range lo hi)) nothing

def diff (a b : CharClass) : CharClass :=
  inter a (compl b)

def symmDiff (a b : CharClass) : CharClass :=
  union (diff a b) (diff b a)

def isAscii (cls : CharClass) : Bool :=
  (List.range 0x80).all fun n => !cls.mem (Char.ofNat (0x80 + n))

def asciiDigit : CharClass :=
  range '0' '9'

def asciiWord : CharClass :=
  ofRanges [('0', '9'), ('A', 'Z'), ('_', '_'), ('a', 'z')]

def asciiBlank : CharClass :=
  ofRanges [('\t', '\r'), (' ', ' ')]

def named? (name : String) : Option CharClass :=
  match name with
  | "alnum" => some (ofRanges [('0', '9'), ('A', 'Z'), ('a', 'z')])
  | "alpha" => some (ofRanges [('A', 'Z'), ('a', 'z')])
  | "ascii" => some (range '\x00' '\x7f')
  | "blank" => some (ofRanges [('\t', '\t'), (' ', ' ')])
  | "cntrl" => some (ofRanges [('\x00', '\x1f'), ('\x7f', '\x7f')])
  | "digit" => some asciiDigit
  | "graph" => some (range '!' '~')
  | "lower" => some (range 'a' 'z')
  | "print" => some (range ' ' '~')
  | "punct" => some (ofRanges [('!', '/'), (':', '@'), ('[', '\x60'), ('\x7b', '~')])
  | "space" => some asciiBlank
  | "upper" => some (range 'A' 'Z')
  | "word" => some asciiWord
  | "xdigit" => some (ofRanges [('0', '9'), ('A', 'F'), ('a', 'f')])
  | _ => none

end CharClass
end CursorQuery
