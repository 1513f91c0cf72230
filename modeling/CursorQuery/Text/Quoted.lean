import CursorQuery.Character.Printable

/-!
This module contains quoted texts: how a text is shown between double quotes so that every character
of it can be told. Backslashes, quotes and the common control characters have short escapes, other
characters without a visible form are written by code point.
-/

namespace CursorQuery
namespace Quoted

open Character

def hex (n : Nat) : String :=
  String.ofList (Nat.toDigits 16 n)

def escape (quote : Char) (c : Char) : String :=
  if c == '\x00' then "\\0"
  else if c == '\t' then "\\t"
  else if c == '\r' then "\\r"
  else if c == '\n' then "\\n"
  else if c == '\\' || c == '"' || c == quote then String.ofList ['\\', c]
  else if isPrintable c then String.singleton c
  else "\\u\x7b" ++ hex c.toNat ++ "\x7d"

def text (s : String) : String :=
  "\"" ++ String.join (s.toList.map (escape '"')) ++ "\""

def path (s : String) : String :=
  "\"" ++ String.join (s.toList.map (escape '\'')) ++ "\""

end Quoted
end CursorQuery
