import CursorQuery.Character.Blank

/-!
This module contains the ways a text is cut up: trimming and splitting at white space, and splitting
at the `::` between the parts of a scoped name.

The rules are stated on lists of characters; the versions on `String` only convert.
-/

namespace CursorQuery
namespace Text

open Character

def consHead {α : Type} (a : α) (parts : List (List α)) : List (List α) :=
  match parts with
  | [] => [[a]]
  | part :: rest => (a :: part) :: rest

def splitWhere {α : Type} (p : α → Bool) : List α → List (List α)
  | [] => [[]]
  | a :: as => if p a then [] :: splitWhere p as else consHead a (splitWhere p as)

/-- The runs between the occurrences of `::`, found from the left without overlap. -/
def splitColons : List Char → List (List Char)
  | [] => [[]]
  | ':' :: ':' :: cs => [] :: splitColons cs
  | c :: cs => consHead c (splitColons cs)

def trimEndChars (cs : List Char) : List Char :=
  (cs.reverse.dropWhile isBlank).reverse

def trimChars (cs : List Char) : List Char :=
  trimEndChars (cs.dropWhile isBlank)

def trimEnd (s : String) : String :=
  String.ofList (trimEndChars s.toList)

def trim (s : String) : String :=
  String.ofList (trimChars s.toList)

def isBlankText (s : String) : Bool :=
  s.toList.all isBlank

def words (s : String) : List String :=
  ((splitWhere isBlank s.toList).filter (!·.isEmpty)).map String.ofList

def collapse (s : String) : String :=
  String.intercalate " " (words s)

/-- The parts of a scoped name, trimmed, without the empty ones: `a :: b::c` has the parts
`a`, `b` and `c`, and so has `::a::b::c`. -/
def scopedParts (s : String) : List String :=
  (((splitColons s.toList).map trimChars).filter (!·.isEmpty)).map String.ofList

def joinScoped (parts : List String) : String :=
  String.intercalate "::" parts

def normalizeScoped (s : String) : String :=
  joinScoped (scopedParts s)

def dropRepeated (lead cs : List Char) : List Char :=
  go cs.length cs
where
  go : Nat → List Char → List Char
    | 0, cs => cs
    | fuel + 1, cs =>
      if !lead.isEmpty && lead.isPrefixOf cs then go fuel (cs.drop lead.length) else cs

def lowerAscii (s : String) : String :=
  String.ofList (s.toList.map Char.toLower)

def upperAscii (s : String) : String :=
  String.ofList (s.toList.map Char.toUpper)

end Text
end CursorQuery
