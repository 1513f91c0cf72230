import CursorQuery.Character.Alphabetic
import CursorQuery.Character.Category
import CursorQuery.Character.Script
import CursorQuery.Pattern.Engine

/-!
This module contains the properties that a pattern can ask for: general categories, scripts, and the
properties of being alphabetic, blank, a small or a capital letter. Names are compared loosely.
-/

namespace CursorQuery

open Character

namespace CharClass

def unionAll (parts : List CharClass) : CharClass :=
  parts.foldl union nothing

def casedLetter : CharClass :=
  unionAll
    [table uppercaseLetterRanges, table lowercaseLetterRanges, table titlecaseLetterRanges]

def letter : CharClass :=
  unionAll [casedLetter, table modifierLetterRanges, table otherLetterRanges]

def mark : CharClass :=
  unionAll [table nonspacingMarkRanges, table spacingMarkRanges, table enclosingMarkRanges]

def number : CharClass :=
  unionAll [digit, table letterNumberRanges, table otherNumberRanges]

def punctuation : CharClass :=
  unionAll
    [table connectorPunctuationRanges, table dashPunctuationRanges, table openPunctuationRanges,
      table closePunctuationRanges, table initialPunctuationRanges, table finalPunctuationRanges,
      table otherPunctuationRanges]

def symbol : CharClass :=
  unionAll
    [table mathSymbolRanges, table currencySymbolRanges, table modifierSymbolRanges,
      table otherSymbolRanges]

def separator : CharClass :=
  unionAll
    [table spaceSeparatorRanges, table lineSeparatorRanges, table paragraphSeparatorRanges]

def assigned : CharClass :=
  unionAll
    [letter, mark, number, punctuation, symbol, separator, table controlRanges, table formatRanges,
      table privateUseRanges]

def other : CharClass :=
  unionAll [table controlRanges, table formatRanges, table privateUseRanges, compl assigned]

end CharClass

namespace Pattern
namespace Property

open CharClass

/--
A name as it is compared: in lower case, without separators and without `is` in front of it, unless
that leaves the name of another property.
-/
def looseName (name : String) : String :=
  let kept := (name.toList.filter fun c => c.toNat < 0x80).map Char.toLower
  let isSeparator (c : Char) : Bool := c == ' ' || c == '_' || c == '-'
  match kept with
  | 'i' :: 's' :: rest =>
    let rest := rest.filter (!isSeparator ·)
    if rest == ['c'] then "isc" else String.ofList rest
  | _ => String.ofList (kept.filter (!isSeparator ·))

def binaries : List (List String × CharClass) :=
  [(["alphabetic", "alpha"], table alphabeticRanges),
    (["whitespace", "wspace", "space"], blank),
    (["lowercase", "lower"], union (table lowercaseLetterRanges) (table otherLowercaseRanges)),
    (["uppercase", "upper"], union (table uppercaseLetterRanges) (table otherUppercaseRanges))]

def categories : List (List String × CharClass) :=
  [(["any"], compl nothing), (["assigned"], assigned), (["ascii"], range '\x00' '\x7f'),
    (["l", "letter"], letter),
    (["lc", "casedletter"], casedLetter),
    (["lu", "uppercaseletter"], table uppercaseLetterRanges),
    (["ll", "lowercaseletter"], table lowercaseLetterRanges),
    (["lt", "titlecaseletter"], table titlecaseLetterRanges),
    (["lm", "modifierletter"], table modifierLetterRanges),
    (["lo", "otherletter"], table otherLetterRanges),
    (["m", "mark", "combiningmark"], mark),
    (["mn", "nonspacingmark"], table nonspacingMarkRanges),
    (["mc", "spacingmark"], table spacingMarkRanges),
    (["me", "enclosingmark"], table enclosingMarkRanges),
    (["n", "number"], number),
    (["nd", "decimalnumber", "digit"], digit),
    (["nl", "letternumber"], table letterNumberRanges),
    (["no", "othernumber"], table otherNumberRanges),
    (["p", "punctuation", "punct"], punctuation),
    (["pc", "connectorpunctuation"], table connectorPunctuationRanges),
    (["pd", "dashpunctuation"], table dashPunctuationRanges),
    (["ps", "openpunctuation"], table openPunctuationRanges),
    (["pe", "closepunctuation"], table closePunctuationRanges),
    (["pi", "initialpunctuation"], table initialPunctuationRanges),
    (["pf", "finalpunctuation"], table finalPunctuationRanges),
    (["po", "otherpunctuation"], table otherPunctuationRanges),
    (["s", "symbol"], symbol),
    (["sm", "mathsymbol"], table mathSymbolRanges),
    (["sc", "currencysymbol"], table currencySymbolRanges),
    (["sk", "modifiersymbol"], table modifierSymbolRanges),
    (["so", "othersymbol"], table otherSymbolRanges),
    (["z", "separator"], separator),
    (["zs", "spaceseparator"], table spaceSeparatorRanges),
    (["zl", "lineseparator"], table lineSeparatorRanges),
    (["zp", "paragraphseparator"], table paragraphSeparatorRanges),
    (["c", "other"], other),
    (["cc", "control", "cntrl"], table controlRanges),
    (["cf", "format"], table formatRanges),
    (["cn", "unassigned"], compl assigned),
    (["co", "privateuse"], table privateUseRanges)]

def lookup? (entries : List (List String × CharClass)) (name : String) : Option CharClass :=
  (entries.find? fun entry => entry.1.contains name).map Prod.snd

def script? (name : String) : Option CharClass :=
  (scripts.find? fun entry => entry.1.contains name).map fun entry => table entry.2

def standard? : Property → Option CharClass
  | .named name =>
    let name := looseName name
    ((lookup? binaries name).or (lookup? categories name)).or (script? name)
  | .valued name value =>
    match looseName name with
    | "gc" | "generalcategory" => lookup? categories (looseName value)
    | "sc" | "script" => script? (looseName value)
    | _ => none

end Property
end Pattern
end CursorQuery
