import CursorQuery.Pattern.Parser
import CursorQuery.Pattern.Property

/-!
This module contains the engine that the program runs with. The size of a compiled pattern is estimated
from the states of its automaton: about one for each range of characters, copied for each repetition.
-/

namespace CursorQuery

namespace CharClass

def rangeCount : CharClass → Nat
  | nothing | range .. => 1
  | table ranges => ranges.length
  | word => Character.wordRanges.length
  | digit => Character.digitRanges.length
  | blank => Character.blankRanges.length
  | union a b | inter a b => rangeCount a + rangeCount b
  | compl a => rangeCount a + 1
  | anyCase a => 3 * rangeCount a
  | anyAsciiCase a => 2 * rangeCount a

end CharClass

namespace Regex

def isEmptyOnly : Regex → Bool
  | empty | look .. => true
  | char _ => false
  | seq a b | alt a b => isEmptyOnly a && isEmptyOnly b
  | rep a _ most => isEmptyOnly a || most == some 0

def stateCount : Regex → Nat
  | empty | look .. => 1
  | char cls => cls.rangeCount
  | seq a b => stateCount a + stateCount b
  | alt a b => stateCount a + stateCount b + 1
  | rep a least most =>
    -- Nothing is gained by matching the empty text more than once.
    let copies := max least (most.getD 1)
    let copies := if isEmptyOnly a then min copies 1 else copies
    copies * stateCount a + (most.getD 0 - least) + 1

end Regex

namespace Pattern

def stateSize : Nat := 24

def estimatedSize (pattern : String) : Nat :=
  -- Reading does not ask for the size.
  let _ : Engine := { property? := Property.standard?, compiledSize _ := 0 }
  match read pattern with
  | .ok expression => stateSize * expression.value.stateCount
  | .error _ => 0

instance : Engine where
  property? := Property.standard?
  compiledSize := estimatedSize

end Pattern
end CursorQuery
