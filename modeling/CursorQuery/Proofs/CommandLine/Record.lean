import Mathlib.Data.List.Forall2
import CursorQuery.CommandLine.Find

/-!
This module contains what a match looks like in the output, in plain text and in JSON: where the cursor
is, what it is, and what it is called.
-/

namespace CursorQuery

section Quoting

inductive IsEscaped : Char → String → Prop where
  | quote : IsEscaped '"' "\\\""
  | backslash : IsEscaped '\\' "\\\\"
  | backspace : IsEscaped '\x08' "\\b"
  | formFeed : IsEscaped '\x0c' "\\f"
  | lineFeed : IsEscaped '\n' "\\n"
  | carriageReturn : IsEscaped '\r' "\\r"
  | tab : IsEscaped '\t' "\\t"
  | control {c : Char} (hcontrol : c.toNat < 32) (hother : c ∉ ['\x08', '\t', '\n', '\x0c', '\r']) :
    IsEscaped c
      ("\\u00" ++ String.ofList [Nat.digitChar (c.toNat / 16), Nat.digitChar (c.toNat % 16)])
  | plain {c : Char} (hplain : 32 ≤ c.toNat) (hquote : c ≠ '"') (hbackslash : c ≠ '\\') :
    IsEscaped c (String.singleton c)

inductive IsQuoted (text : String) : String → Prop where
  | intro {parts : List String} (h : List.Forall₂ IsEscaped text.toList parts) :
    IsQuoted text ("\"" ++ String.join parts ++ "\"")

theorem padZeros_hex :
    ∀ n < 32, JsonText.padZeros 4 (Quoted.hex n) =
      "00" ++ String.ofList [Nat.digitChar (n / 16), Nat.digitChar (n % 16)] := by
  decide +kernel

theorem isEscaped_escape (c : Char) : IsEscaped c (JsonText.escape c) := by
  unfold JsonText.escape
  simp only [beq_iff_eq]
  split
  · next h => exact h ▸ .quote
  split
  · next h => exact h ▸ .backslash
  split
  · next h => exact h ▸ .backspace
  split
  · next h => exact h ▸ .formFeed
  split
  · next h => exact h ▸ .lineFeed
  split
  · next h => exact h ▸ .carriageReturn
  split
  · next h => exact h ▸ .tab
  split
  · next hcontrol =>
    rw [padZeros_hex c.toNat hcontrol, ← String.append_assoc]
    exact .control hcontrol (by simp [*])
  · next hplain => exact .plain (Nat.le_of_not_lt hplain) ‹_› ‹_›

theorem isQuoted_string (text : String) : IsQuoted text (JsonText.string text) := by
  apply IsQuoted.intro
  rw [List.forall₂_map_right_iff]
  exact List.forall₂_same.mpr fun c _ => isEscaped_escape c

end Quoting

namespace CommandLine

section Parts

inductive HasPosition (unit : TranslationUnit) (cursor : Cursor) : String → Prop where
  | located {location : Location} (h : cursor.location = some location) :
    HasPosition unit cursor
      (location.file ++ ":" ++ toString location.line ++ ":" ++ toString location.column)
  | unlocated (h : cursor.location = none) : HasPosition unit cursor unit.source.path

inductive HasTitle (cursor : Cursor) : String → Prop where
  | displayName (h : cursor.displayName ≠ "") : HasTitle cursor cursor.displayName
  | spelling (h : cursor.displayName = "") : HasTitle cursor cursor.spelling

inductive HasTypeSuffix (cursor : Cursor) : String → Prop where
  | typed {type : CType} (h : cursor.type = some type) :
    HasTypeSuffix cursor (" [" ++ type.spelling ++ "]")
  | untyped (h : cursor.type = none) : HasTypeSuffix cursor ""

inductive HasPlace (unit : TranslationUnit) (cursor : Cursor) : String → String → String → Prop where
  | located {location : Location} {file : String} (h : cursor.location = some location)
    (hfile : IsQuoted location.file file) :
    HasPlace unit cursor file (toString location.line) (toString location.column)
  | unlocated {file : String} (h : cursor.location = none) (hfile : IsQuoted unit.source.path file) :
    HasPlace unit cursor file "null" "null"

inductive HasTypeMember (cursor : Cursor) : List String → Prop where
  | typed {type : CType} {text : String} (h : cursor.type = some type)
    (htext : IsQuoted type.spelling text) : HasTypeMember cursor ["\"type\":" ++ text]
  | untyped (h : cursor.type = none) : HasTypeMember cursor []

end Parts

/-- What is printed for a match, without and with the option for JSON. -/
inductive IsRecord (unit : TranslationUnit) : Bool → Cursor → String → Prop where
  | plain {cursor : Cursor} {position title suffix : String}
    (hposition : HasPosition unit cursor position) (htitle : HasTitle cursor title)
    (hsuffix : HasTypeSuffix cursor suffix) :
    IsRecord unit false cursor
      (position ++ " " ++ cursor.kind.name.toUpper ++ " " ++ title ++ suffix)
  | json {cursor : Cursor} {file line column kind spelling displayName qualifiedName access : String}
    {type : List String} (hplace : HasPlace unit cursor file line column)
    (hkind : IsQuoted cursor.kind.name kind) (hspelling : IsQuoted cursor.spelling spelling)
    (hdisplayName : IsQuoted cursor.displayName displayName)
    (hqualifiedName : IsQuoted cursor.qualifiedName qualifiedName)
    (htype : HasTypeMember cursor type) (haccess : IsQuoted cursor.access.name access) :
    IsRecord unit true cursor ("\x7b" ++ String.intercalate ","
      (["\"file\":" ++ file, "\"line\":" ++ line, "\"column\":" ++ column, "\"kind\":" ++ kind,
        "\"spelling\":" ++ spelling, "\"displayname\":" ++ displayName,
        "\"qualified_name\":" ++ qualifiedName]
        ++ type
        ++ ["\"access\":" ++ access, "\"is_definition\":" ++ toString cursor.isDefinition])
      ++ "\x7d")

section Records

variable (unit : TranslationUnit) (cursor : Cursor)

theorem hasPosition_position : HasPosition unit cursor (position unit cursor) := by
  unfold position
  cases h : cursor.location with
  | none => exact .unlocated h
  | some location => exact .located h

theorem display_eq_toUpper (kind : CursorKind) : kind.display = kind.name.toUpper := by
  rw [CursorKind.display, Text.upperAscii, String.toUpper, ← String.toList_inj, String.toList_ofList,
    String.toList_map]

theorem isRecord_plainLine : IsRecord unit false cursor (plainLine unit cursor) := by
  unfold plainLine
  rw [display_eq_toUpper]
  apply IsRecord.plain (hasPosition_position unit cursor)
  · split
    · next h => exact .spelling (String.isEmpty_iff.mp h)
    · next h => exact .displayName (by simpa using h)
  · split
    · next h => exact .typed h
    · next h => exact .untyped h

theorem hasPlace : HasPlace unit cursor
    (JsonText.string ((cursor.location.map (·.file)).getD unit.source.path))
    (JsonText.nat? (cursor.location.map (·.line)))
    (JsonText.nat? (cursor.location.map (·.column))) := by
  cases h : cursor.location with
  | none => exact .unlocated h (isQuoted_string unit.source.path)
  | some location => exact .located h (isQuoted_string location.file)

theorem hasTypeMember : HasTypeMember cursor
    ((cursor.type.map fun type => "\"type\":" ++ JsonText.string type.spelling).toList) := by
  cases h : cursor.type with
  | none => exact .untyped h
  | some type => exact .typed h (isQuoted_string type.spelling)

theorem bool_eq_toString (value : Bool) : JsonText.bool value = toString value := by
  cases value with
  | true | false => rfl

theorem isRecord_jsonLine : IsRecord unit true cursor (jsonLine unit cursor) := by
  have hrecord := IsRecord.json (hasPlace unit cursor) (isQuoted_string cursor.kind.name)
    (isQuoted_string cursor.spelling) (isQuoted_string cursor.displayName)
    (isQuoted_string cursor.qualifiedName) (hasTypeMember cursor) (isQuoted_string cursor.access.name)
  have hkeys : ∀ key ∈ ["file", "line", "column", "kind", "spelling", "displayname",
      "qualified_name", "type", "access", "is_definition"],
      JsonText.string key ++ ":" = "\"" ++ key ++ "\":" := by
    decide +kernel
  simp only [List.forall_mem_cons, String.reduceAppend] at hkeys
  convert hrecord using 1
  unfold jsonLine JsonText.object
  cases cursor.type with
  | none =>
    simp only [List.map_append, List.map_cons, List.map_nil, hkeys, bool_eq_toString,
      Option.map_none, Option.toList_none]
  | some type =>
    simp only [List.map_append, List.map_cons, List.map_nil, hkeys, bool_eq_toString,
      Option.map_some, Option.toList_some]

theorem forall₂_isRecord (json : Bool) (cursors : List Cursor) :
    List.Forall₂ (IsRecord unit json) cursors
      (cursors.map (if json then jsonLine unit else plainLine unit)) := by
  rw [List.forall₂_map_right_iff, List.forall₂_same]
  intro cursor _
  cases json with
  | false => exact isRecord_plainLine unit cursor
  | true => exact isRecord_jsonLine unit cursor

end Records

end CommandLine
end CursorQuery
