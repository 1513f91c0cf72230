import CursorQuery.Cursor.Location

/-!
This module contains source texts. Offsets into a text count the bytes of its UTF-8 form.
-/

namespace CursorQuery

structure Source where
  path : String
  text : String
  deriving Repr, DecidableEq, Inhabited

namespace Source

def dropBytes : Nat → List Char → List Char
  | 0, cs => cs
  | _, [] => []
  | n + 1, c :: cs => dropBytes (n + 1 - c.utf8Size) cs

def takeBytes : Nat → List Char → List Char
  | 0, _ => []
  | _, [] => []
  | n + 1, c :: cs => c :: takeBytes (n + 1 - c.utf8Size) cs

def slice (source : Source) (span : Span) : String :=
  String.ofList (takeBytes (span.stop - span.start) (dropBytes span.start source.text.toList))

def byteLength : List Char → Nat
  | [] => 0
  | c :: cs => c.utf8Size + byteLength cs

def location (source : Source) (offset : Nat) : Location :=
  let before := takeBytes offset source.text.toList
  { file := source.path
    line := before.count '\n' + 1
    column := byteLength (before.reverse.takeWhile (· != '\n')) + 1
    offset }

end Source
end CursorQuery
