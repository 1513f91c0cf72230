import CursorQuery.Query.Basic

/-!
This module contains the validation of queries: the values in a query that make no sense, each with
the place where it stands.
-/

namespace CursorQuery

inductive Segment where
  | all (index : Nat)
  | any (index : Nat)
  | not
  | anyChild
  | allChildren
  | anyPredecessor
  | allPredecessors
  | name
  | typename
  | inFile
  deriving Repr, DecidableEq

namespace Segment

def display : Segment → String
  | all index => ".all[" ++ Nat.repr index ++ "]"
  | any index => ".any[" ++ Nat.repr index ++ "]"
  | not => ".not"
  | anyChild => ".any_child"
  | allChildren => ".all_children"
  | anyPredecessor => ".any_predecessor.matches"
  | allPredecessors => ".all_predecessors.matches"
  | name => ".name"
  | typename => ".typename"
  | inFile => ".in_file"

end Segment

abbrev Address := List Segment

namespace Address

def display (address : Address) : String :=
  "query" ++ String.join (address.map Segment.display)

end Address

inductive Issue where
  | emptyValue (address : Address)
  | invalidPattern (address : Address) (pattern : String)
  deriving Repr, DecidableEq

namespace Issue

def address : Issue → Address
  | emptyValue address => address
  | invalidPattern address _ => address

def message : Issue → String
  | emptyValue address => "'" ++ address.display ++ "' must not be empty"
  | invalidPattern address pattern =>
    "'" ++ address.display ++ "' has invalid pattern '" ++ pattern ++ "': regex parse error:"

def under (segment : Segment) : Issue → Issue
  | emptyValue address => emptyValue (segment :: address)
  | invalidPattern address pattern => invalidPattern (segment :: address) pattern

def messages (issues : List Issue) : String :=
  String.intercalate "\n" (issues.map message)

end Issue

namespace Leaf

variable [Pattern.Engine]

/--
What is wrong with a leaf: a pattern or type name that is blank, a pattern that is not a regular
expression by itself, a list of files that is empty or names a blank file.
-/
def issue? : Leaf String → Option Issue
  | .name pattern =>
    if Text.isBlankText pattern then some (.emptyValue [.name])
    else if Pattern.isValid pattern then none
    else some (.invalidPattern [.name] pattern)
  | .typename spelling => if Text.isBlankText spelling then some (.emptyValue [.typename]) else none
  | .inFile files =>
    if files.isEmpty || files.any Text.isBlankText then some (.emptyValue [.inFile]) else none
  | .isA _ | .kind _ | .access _ => none

end Leaf

namespace Query

variable [Pattern.Engine]

mutual

def issues : Formula Step (Leaf String) → List Issue
  | .leaf leaf => leaf.issue?.toList
  | .all parts => issuesOfList .all 0 parts
  | .any parts => issuesOfList .any 0 parts
  | .not part => (issues part).map (Issue.under .not)
  | .anyChild part => (issues part).map (Issue.under .anyChild)
  | .allChildren part => (issues part).map (Issue.under .allChildren)
  | .anyPredecessor _ part => (issues part).map (Issue.under .anyPredecessor)
  | .allPredecessors _ part => (issues part).map (Issue.under .allPredecessors)

def issuesOfList (segment : Nat → Segment) (index : Nat) :
    List (Formula Step (Leaf String)) → List Issue
  | [] => []
  | part :: parts =>
    (issues part).map (Issue.under (segment index)) ++ issuesOfList segment (index + 1) parts

end

end Query
end CursorQuery
