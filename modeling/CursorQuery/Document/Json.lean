import CursorQuery.Document.Basic

/-!
This module contains the reader of documents in JSON notation. Every round of it uses up at least one
character, so the length of the text bounds its rounds.
-/

namespace CursorQuery
namespace Document

def isJsonSpace (c : Char) : Bool :=
  c == ' ' || c == '\t' || c == '\n' || c == '\r'

def skipJsonSpace (cs : List Char) : List Char :=
  cs.dropWhile isJsonSpace

def readHex4 (cs : List Char) : Option (Nat × List Char) := do
  let digit (c : Char) : Option Nat :=
    if c.isDigit then some (c.toNat - '0'.toNat)
    else if 'a' ≤ c && c ≤ 'f' then some (c.toNat - 'a'.toNat + 10)
    else if 'A' ≤ c && c ≤ 'F' then some (c.toNat - 'A'.toNat + 10)
    else none
  let a :: b :: c :: d :: rest := cs | none
  return (((← digit a) * 16 + (← digit b)) * 256 + (← digit c) * 16 + (← digit d), rest)

def readCodePoint (cs : List Char) : Option (Char × List Char) := do
  let (first, rest) ← readHex4 cs
  if 0xD800 ≤ first && first < 0xDC00 then
    let '\\' :: 'u' :: rest := rest | none
    let (second, rest) ← readHex4 rest
    if 0xDC00 ≤ second && second < 0xE000 then
      return (Char.ofNat (0x10000 + (first - 0xD800) * 0x400 + (second - 0xDC00)), rest)
    else none
  else if 0xDC00 ≤ first && first < 0xE000 then none
  else return (Char.ofNat first, rest)

def readJsonEscape (cs : List Char) : Option (Char × List Char) :=
  match cs with
  | 'b' :: rest => some ('\x08', rest)
  | 'f' :: rest => some ('\x0c', rest)
  | 'n' :: rest => some ('\n', rest)
  | 'r' :: rest => some ('\r', rest)
  | 't' :: rest => some ('\t', rest)
  | 'u' :: rest => readCodePoint rest
  | c :: rest => if c == '"' || c == '\\' || c == '/' then some (c, rest) else none
  | [] => none

def readJsonText : Nat → List Char → List Char → Option (String × List Char)
  | 0, _, _ => none
  | _ + 1, _, [] => none
  | fuel + 1, read, c :: cs =>
    if c == '"' then some (String.ofList read.reverse, cs)
    else if c == '\\' then
      match readJsonEscape cs with
      | some (escaped, rest) => readJsonText fuel (escaped :: read) rest
      | none => none
    else if c.toNat < 0x20 then none
    else readJsonText fuel (c :: read) cs

def isNumberChar (c : Char) : Bool :=
  c.isDigit || c == '-' || c == '+' || c == '.' || c == 'e' || c == 'E'

def readAtom (cs : List Char) : Option (Document × List Char) :=
  match cs with
  | 'n' :: 'u' :: 'l' :: 'l' :: rest => some (null, rest)
  | 't' :: 'r' :: 'u' :: 'e' :: rest => some (bool true, rest)
  | 'f' :: 'a' :: 'l' :: 's' :: 'e' :: rest => some (bool false, rest)
  | _ =>
    let text := cs.takeWhile isNumberChar
    if text.any Char.isDigit then
      some (number (String.ofList text), cs.dropWhile isNumberChar)
    else none

mutual

def readJson : Nat → List Char → Option (Document × List Char)
  | 0, _ => none
  | fuel + 1, cs =>
    match skipJsonSpace cs with
    | '"' :: rest =>
      (readJsonText (rest.length + 1) [] rest).map fun (text, rest) => (string text, rest)
    | '[' :: rest =>
      match skipJsonSpace rest with
      | ']' :: rest => some (list [], rest)
      | rest => (readJsonItems fuel rest).map fun (items, rest) => (list items, rest)
    | '\x7b' :: rest =>
      match skipJsonSpace rest with
      | '\x7d' :: rest => some (table [], rest)
      | rest => (readJsonEntries fuel rest).map fun (entries, rest) => (table entries, rest)
    | rest => readAtom rest

def readJsonItems : Nat → List Char → Option (List Document × List Char)
  | 0, _ => none
  | fuel + 1, cs =>
    match readJson fuel cs with
    | none => none
    | some (item, rest) =>
      match skipJsonSpace rest with
      | ',' :: rest => (readJsonItems fuel rest).map fun (items, rest) => (item :: items, rest)
      | ']' :: rest => some ([item], rest)
      | _ => none

def readJsonEntries : Nat → List Char → Option (List (String × Document) × List Char)
  | 0, _ => none
  | fuel + 1, cs =>
    match skipJsonSpace cs with
    | '"' :: rest =>
      match readJsonText (rest.length + 1) [] rest with
      | none => none
      | some (key, rest) =>
        match skipJsonSpace rest with
        | ':' :: rest =>
          match readJson fuel rest with
          | none => none
          | some (value, rest) =>
            match skipJsonSpace rest with
            | ',' :: rest =>
              (readJsonEntries fuel rest).map fun (entries, rest) => ((key, value) :: entries, rest)
            | '\x7d' :: rest => some ([(key, value)], rest)
            | _ => none
        | _ => none
    | _ => none

end

def ofJson? (text : String) : Option Document :=
  match readJson (text.length + 1) text.toList with
  | some (value, rest) => if (skipJsonSpace rest).isEmpty then some value else none
  | none => none

end Document
end CursorQuery
