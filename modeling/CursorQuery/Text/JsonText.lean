import CursorQuery.Text.Quoted

/-!
This module contains texts as JSON writes them.
-/

namespace CursorQuery
namespace JsonText

def padZeros (width : Nat) (s : String) : String :=
  String.ofList (List.replicate (width - s.length) '0') ++ s

def escape (c : Char) : String :=
  if c == '"' then "\\\""
  else if c == '\\' then "\\\\"
  else if c == '\x08' then "\\b"
  else if c == '\x0c' then "\\f"
  else if c == '\n' then "\\n"
  else if c == '\r' then "\\r"
  else if c == '\t' then "\\t"
  else if c.toNat < 0x20 then "\\u" ++ padZeros 4 (Quoted.hex c.toNat)
  else String.singleton c

def string (s : String) : String :=
  "\"" ++ String.join (s.toList.map escape) ++ "\""

def bool (value : Bool) : String :=
  if value then "true" else "false"

def nat? (n? : Option Nat) : String :=
  match n? with
  | some n => Nat.repr n
  | none => "null"

def object (entries : List (String × String)) : String :=
  "\x7b" ++ String.intercalate "," (entries.map fun (key, value) => string key ++ ":" ++ value)
    ++ "\x7d"

end JsonText
end CursorQuery
