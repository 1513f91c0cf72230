import CursorQuery.Character.Alphabetic
import CursorQuery.Character.Numeric
import CursorQuery.Pattern.Engine
import CursorQuery.Pattern.Regex

/-!
This module contains the reader of patterns: it turns the text of a regular expression into a `Regex`
or says what is wrong with it.

Groups and bracketed classes nest, so both readers keep a stack of what they have left open. Every
round of a reader uses up at least one character, so the length of the text bounds their rounds. How
deeply the parts of a pattern are nested is counted while they are read.
-/

namespace CursorQuery

open Character

inductive PatternError where
  | unclosedGroup
  | unopenedGroup
  | badGroupName
  | lookAround
  | badFlag
  | nothingToRepeat
  | badCount
  | unclosedClass
  | badClassRange
  | badClassItem
  | badEscape
  | unknownProperty
  | backReference
  | notAscii
  | nestedTooDeeply
  | tooLarge
  deriving Repr, DecidableEq

namespace Pattern

variable [Engine]

abbrev Reader (α : Type) := Except PatternError (α × List Char)

structure Flags where
  ignoreCase : Bool := false
  multiLine : Bool := false
  dotAll : Bool := false
  wideLines : Bool := false
  unicode : Bool := true
  ignoreSpace : Bool := false
  deriving Repr, DecidableEq

def skipLine : List Char → List Char
  | [] => []
  | c :: cs => if c == '\n' then cs else skipLine cs

def skipSpace (cs : List Char) : List Char :=
  go cs.length cs
where
  go : Nat → List Char → List Char
    | 0, cs => cs
    | _, [] => []
    | fuel + 1, c :: cs =>
      if isBlank c then go fuel cs
      else if c == '#' then go fuel (skipLine cs)
      else c :: cs

def Flags.skip (flags : Flags) (cs : List Char) : List Char :=
  if flags.ignoreSpace then skipSpace cs else cs

def Flags.foldClass (flags : Flags) (cls : CharClass) : CharClass :=
  if !flags.ignoreCase then cls
  else if flags.unicode then .anyCase cls
  else .anyAsciiCase cls

/-- Part of a pattern, and how deeply other parts are nested in it. -/
structure Nested (α : Type) where
  value : α
  depth : Nat

namespace Nested

variable {α β : Type}

def flat (value : α) : Nested α where
  value := value
  depth := 0

def map (f : α → β) (part : Nested α) : Nested β where
  value := f part.value
  depth := part.depth

def wrap (part : Nested α) : Nested α where
  value := part.value
  depth := part.depth + 1

end Nested

def jointDepth : List Nat → Nat
  | [] => 0
  | [depth] => depth
  | depths => depths.foldl max 0 + 1

section Escapes

inductive Primitive where
  | literal (c : Char) (byte : Bool)
  | charClass (cls : CharClass)
  | look (condition : Look)

def isMeta (c : Char) : Bool :=
  "\\.+*?()|[]\x7b\x7d^$#&-~".toList.contains c

def isEscapable (c : Char) : Bool :=
  isMeta c || (c.toNat < 0x80 && !c.isAlphanum && c != '<' && c != '>')

def hexValue? (c : Char) : Option Nat :=
  if '0' ≤ c && c ≤ '9' then some (c.toNat - '0'.toNat)
  else if 'a' ≤ c && c ≤ 'f' then some (c.toNat - 'a'.toNat + 10)
  else if 'A' ≤ c && c ≤ 'F' then some (c.toNat - 'A'.toNat + 10)
  else none

def charOf (n : Nat) : Except PatternError Char :=
  if n.isValidChar then .ok (Char.ofNat n) else .error .badEscape

def hexDigits (flags : Flags) : Nat → Nat → List Char → Reader Nat
  | 0, value, cs => .ok (value, cs)
  | _ + 1, _, [] => .error .badEscape
  | count + 1, value, c :: cs =>
    match hexValue? c with
    | some digit => hexDigits flags count (16 * value + digit) (flags.skip cs)
    | none => .error .badEscape

def hexBraced (flags : Flags) : Nat → Option Nat → List Char → Reader Nat
  | 0, _, _ => .error .badEscape
  | _ + 1, _, [] => .error .badEscape
  | fuel + 1, value?, c :: cs =>
    if c == '\x7d' then
      match value? with
      | some value => .ok (value, flags.skip cs)
      | none => .error .badEscape
    else
      match hexValue? c with
      | some digit =>
        hexBraced flags fuel (some (16 * value?.getD 0 + digit)) (flags.skip cs)
      | none => .error .badEscape

def hexEscape (flags : Flags) (digits : Nat) (cs : List Char) : Reader Primitive :=
  match flags.skip cs with
  | '\x7b' :: rest =>
    match hexBraced flags (rest.length + 1) none (flags.skip rest) with
    | .ok (value, rest) => (charOf value).map fun c => (.literal c false, rest)
    | .error e => .error e
  | rest =>
    match hexDigits flags digits 0 rest with
    | .ok (value, rest) => (charOf value).map fun c => (.literal c (digits == 2), rest)
    | .error e => .error e

def perlClass (flags : Flags) (unicode ascii : CharClass) (negated : Bool) :
    Except PatternError Primitive :=
  if flags.unicode then .ok (.charClass (if negated then .compl unicode else unicode))
  else if negated then .error .notAscii
  else .ok (.charClass ascii)

def boundary? (name : String) : Option Look :=
  match name with
  | "start" => some .wordStart
  | "end" => some .wordEnd
  | "start-half" => some .wordStartHalf
  | "end-half" => some .wordEndHalf
  | _ => none

def boundaryName (flags : Flags) : Nat → List Char → List Char → Reader Look
  | 0, _, _ => .error .badEscape
  | _ + 1, _, [] => .error .badEscape
  | fuel + 1, name, c :: cs =>
    if c.isAlpha || c == '-' then boundaryName flags fuel (c :: name) (flags.skip cs)
    else if c == '\x7d' then
      match boundary? (String.ofList name.reverse) with
      | some look => .ok (look, cs)
      | none => .error .badEscape
    else .error .badEscape

def boundaryEscape (flags : Flags) (cs : List Char) : Reader Primitive :=
  match cs with
  | '\x7b' :: rest =>
    match flags.skip rest with
    | [] => .error .badEscape
    | c :: more =>
      if c.isAlpha || c == '-' then
        (boundaryName flags (rest.length + 1) [] (c :: more)).map fun (look, rest) =>
          (.look look, rest)
      else .ok (.look .wordBoundary, cs)
  | _ => .ok (.look .wordBoundary, cs)

def braced (flags : Flags) : Nat → List Char → List Char → Reader (List Char)
  | 0, _, _ => .error .badEscape
  | _ + 1, _, [] => .error .badEscape
  | fuel + 1, read, c :: cs =>
    if c == '\x7d' then .ok (read.reverse, cs) else braced flags fuel (c :: read) (flags.skip cs)

def splitAt? (mark : List Char) : List Char → Option (List Char × List Char)
  | [] => none
  | c :: cs =>
    if mark.isPrefixOf (c :: cs) then some ([], (c :: cs).drop mark.length)
    else (splitAt? mark cs).map fun (before, after) => (c :: before, after)

def propertyOf (text : List Char) : Property × Bool :=
  let valued (mark : String) : Option Property :=
    (splitAt? mark.toList text).map fun (name, value) =>
      .valued (String.ofList name) (String.ofList value)
  match valued "!=", (valued ":").or (valued "=") with
  | some property, _ => (property, true)
  | none, some property => (property, false)
  | none, none => (.named (String.ofList text), false)

def letterProperty (cs : List Char) : Reader (Property × Bool) :=
  match cs with
  | [] => .error .badEscape
  | c :: rest =>
    if c == '\\' then .error .badEscape else .ok ((.named (String.singleton c), false), rest)

def property (flags : Flags) (cs : List Char) : Reader (Property × Bool) :=
  match flags.skip cs with
  | '\x7b' :: rest =>
    (braced flags (rest.length + 1) [] (flags.skip rest)).map fun (text, rest) =>
      (propertyOf text, rest)
  | rest => letterProperty rest

def propertyClass (flags : Flags) (property : Property) (negated : Bool) :
    Except PatternError Primitive :=
  if !flags.unicode then .error .notAscii
  else
    match Engine.property? property with
    | none => .error .unknownProperty
    | some cls =>
      let folded := flags.foldClass cls
      .ok (.charClass (if negated then .compl folded else folded))

def unicodeClass (flags : Flags) (negated : Bool) (cs : List Char) : Reader Primitive :=
  match property flags cs with
  | .error e => .error e
  | .ok ((property, excluded), rest) =>
    (propertyClass flags property (negated != excluded)).map fun p => (p, rest)

def escape (flags : Flags) (cs : List Char) : Reader Primitive :=
  match cs with
  | [] => .error .badEscape
  | c :: rest =>
    let literal (c : Char) : Reader Primitive := .ok (.literal c false, rest)
    let look (l : Look) : Reader Primitive := .ok (.look l, rest)
    let perl (unicode ascii : CharClass) (negated : Bool) : Reader Primitive :=
      (perlClass flags unicode ascii negated).map fun p => (p, rest)
    if c.isDigit then .error .backReference
    else if isEscapable c then literal c
    else
      match c with
      | 'x' => hexEscape flags 2 rest
      | 'u' => hexEscape flags 4 rest
      | 'U' => hexEscape flags 8 rest
      | 'd' => perl .digit .asciiDigit false
      | 'D' => perl .digit .asciiDigit true
      | 's' => perl .blank .asciiBlank false
      | 'S' => perl .blank .asciiBlank true
      | 'w' => perl .word .asciiWord false
      | 'W' => perl .word .asciiWord true
      | 'p' => unicodeClass flags false rest
      | 'P' => unicodeClass flags true rest
      | 'a' => literal '\x07'
      | 'f' => literal '\x0c'
      | 't' => literal '\t'
      | 'n' => literal '\n'
      | 'r' => literal '\r'
      | 'v' => literal '\x0b'
      | 'A' => look .textStart
      | 'z' => look .textEnd
      | 'B' => look .wordInside
      | '<' => look .wordStart
      | '>' => look .wordEnd
      | 'b' => boundaryEscape flags rest
      | _ => .error .badEscape

end Escapes

section Classes

inductive ClassOp where
  | intersection
  | difference
  | symmetricDifference

def ClassOp.ofChar? : Char → Option ClassOp
  | '&' => some .intersection
  | '-' => some .difference
  | '~' => some .symmetricDifference
  | _ => none

def ClassOp.apply (op : ClassOp) (left right : CharClass) : CharClass :=
  match op with
  | .intersection => .inter left right
  | .difference => .diff left right
  | .symmetricDifference => .symmDiff left right

structure OpenClass where
  negated : Bool
  pending : Option (ClassOp × Nested CharClass)
  items : CharClass
  depths : List Nat

namespace OpenClass

def start (negated : Bool) : OpenClass where
  negated := negated
  pending := none
  items := .nothing
  depths := []

def settle (flags : Flags) (cls : OpenClass) : Nested CharClass :=
  match cls.pending with
  | none => { value := cls.items, depth := jointDepth cls.depths }
  | some (op, left) =>
    { value := op.apply (flags.foldClass left.value) (flags.foldClass cls.items)
      depth := max left.depth (jointDepth cls.depths) + 1 }

def close (flags : Flags) (cls : OpenClass) : Except PatternError (Nested CharClass) :=
  let settled := cls.settle flags
  let folded := flags.foldClass settled.value
  let closed := if cls.negated then CharClass.compl folded else folded
  if flags.unicode || closed.isAscii then .ok (settled.map fun _ => closed).wrap
  else .error .notAscii

def add (cls : OpenClass) (item : Nested CharClass) : OpenClass :=
  { cls with items := .union cls.items item.value, depths := item.depth :: cls.depths }

def operate (flags : Flags) (op : ClassOp) (cls : OpenClass) : OpenClass :=
  { cls with pending := some (op, cls.settle flags), items := .nothing, depths := [] }

end OpenClass

def leadingDashes (flags : Flags) : Nat → OpenClass → List Char → OpenClass × List Char
  | fuel + 1, cls, '-' :: rest =>
    leadingDashes flags fuel (cls.add (.flat (.single '-'))) (flags.skip rest)
  | _, cls, cs => (cls, cs)

def openItems (flags : Flags) (negated : Bool) (cs : List Char) : Reader OpenClass :=
  let read :=
    match cs with
    | ']' :: rest => ((OpenClass.start negated).add (.flat (.single ']')), flags.skip rest)
    | _ => leadingDashes flags cs.length (.start negated) cs
  if read.2.isEmpty then .error .unclosedClass else .ok read

def openClass (flags : Flags) (cs : List Char) : Reader OpenClass :=
  match flags.skip cs with
  | '^' :: rest => openItems flags true (flags.skip rest)
  | rest => openItems flags false rest

def className? (flags : Flags) (negated : Bool) (cs : List Char) : Option (CharClass × List Char) :=
  match cs.dropWhile (· != ':') with
  | ':' :: ']' :: more =>
    (CharClass.named? (String.ofList (cs.takeWhile (· != ':')))).map fun cls =>
      let folded := flags.foldClass cls
      (if negated then .compl folded else folded, more)
  | _ => none

def namedClass? (flags : Flags) (cs : List Char) : Option (CharClass × List Char) :=
  match cs with
  | ':' :: '^' :: rest => className? flags true rest
  | ':' :: rest => className? flags false rest
  | _ => none

def classPrimitive (flags : Flags) (cs : List Char) : Reader Primitive :=
  match cs with
  | [] => .error .unclosedClass
  | '\\' :: rest => escape flags rest
  | c :: rest => .ok (.literal c false, rest)

def classChar (flags : Flags) (p : Primitive) : Except PatternError Char :=
  match p with
  | .literal c _ => if flags.unicode || c.toNat < 0x80 then .ok c else .error .notAscii
  | _ => .error .badClassRange

def classItem (flags : Flags) (p : Primitive) : Except PatternError CharClass :=
  match p with
  | .charClass cls => .ok cls
  | .literal .. => (classChar flags p).map .single
  | .look _ => .error .badClassItem

def rangeBetween (flags : Flags) (first last : Primitive) : Except PatternError CharClass :=
  match classChar flags first, classChar flags last with
  | .ok lo, .ok hi => if lo ≤ hi then .ok (.range lo hi) else .error .badClassRange
  | .error e, _ => .error e
  | _, .error e => .error e

def rangeAfter (flags : Flags) (first : Primitive) (cs : List Char) : Reader CharClass :=
  let single : Reader CharClass := (classItem flags first).map fun cls => (cls, flags.skip cs)
  match flags.skip cs with
  | [] => .error .unclosedClass
  | '-' :: more =>
    match flags.skip more with
    | [] => .error .unclosedClass
    | ']' :: _ => single
    | '-' :: _ => single
    | more =>
      match classPrimitive flags more with
      | .error e => .error e
      | .ok (last, rest) => (rangeBetween flags first last).map fun cls => (cls, rest)
  | _ => single

def classRange (flags : Flags) (cs : List Char) : Reader CharClass :=
  match classPrimitive flags cs with
  | .error e => .error e
  | .ok (first, rest) => rangeAfter flags first rest

def classOp? : List Char → Option (ClassOp × List Char)
  | c :: d :: rest => if c == d then (ClassOp.ofChar? c).map fun op => (op, rest) else none
  | _ => none

def classLoop (flags : Flags) :
    Nat → List OpenClass → OpenClass → List Char → Reader (Nested CharClass)
  | 0, _, _, _ => .error .unclosedClass
  | fuel + 1, outer, cls, cs =>
    match flags.skip cs with
    | [] => .error .unclosedClass
    | '[' :: rest =>
      match namedClass? flags rest with
      | some (item, more) =>
        if flags.unicode || item.isAscii then classLoop flags fuel outer (cls.add (.flat item)) more
        else .error .notAscii
      | none =>
        match openClass flags rest with
        | .error e => .error e
        | .ok (inner, more) => classLoop flags fuel (cls :: outer) inner more
    | ']' :: rest =>
      match cls.close flags, outer with
      | .error e, _ => .error e
      | .ok closed, [] => .ok (closed, rest)
      | .ok closed, around :: outer => classLoop flags fuel outer (around.add closed) rest
    | cs =>
      match classOp? cs with
      | some (op, rest) => classLoop flags fuel outer (cls.operate flags op) rest
      | none =>
        match classRange flags cs with
        | .error e => .error e
        | .ok (item, rest) => classLoop flags fuel outer (cls.add (.flat item)) rest

def bracketed (flags : Flags) (cs : List Char) : Reader (Nested CharClass) :=
  match openClass flags cs with
  | .error e => .error e
  | .ok (cls, rest) => classLoop flags (rest.length + 1) [] cls rest

end Classes

section Groups

def isFlag (c : Char) : Bool :=
  "imsURux".toList.contains c

def Flags.set (flags : Flags) (letter : Char) (value : Bool) : Flags :=
  match letter with
  | 'i' => { flags with ignoreCase := value }
  | 'm' => { flags with multiLine := value }
  | 's' => { flags with dotAll := value }
  | 'R' => { flags with wideLines := value }
  | 'u' => { flags with unicode := value }
  | 'x' => { flags with ignoreSpace := value }
  | _ => flags

inductive FlagsEnd where
  | colon
  | parenthesis
  deriving DecidableEq

/--
Reads flags up to a colon or a closing parenthesis. Every letter may be used once, a dash once, and
not as the last.
-/
def flagList (flags : Flags) (used : List Char) : List Char → Reader (Flags × List Char × FlagsEnd)
  | [] => .error .badFlag
  | c :: cs =>
    if c == ':' || c == ')' then
      if used.head? == some '-' then .error .badFlag
      else .ok ((flags, used, if c == ':' then .colon else .parenthesis), cs)
    else if used.contains c then .error .badFlag
    else if c == '-' then flagList flags (c :: used) cs
    else if isFlag c then flagList (flags.set c (!used.contains '-')) (c :: used) cs
    else .error .badFlag

def isGroupNameChar (first : Bool) (c : Char) : Bool :=
  c == '_' || isAlphabetic c
    || (!first && (c == '.' || c == '[' || c == ']' || isNumeric c))

def groupName (names : List (List Char)) (cs : List Char) : Reader (List Char) :=
  let name := cs.takeWhile (· != '>')
  match cs.dropWhile (· != '>') with
  | [] => .error .badGroupName
  | _ :: rest =>
    let wellFormed :=
      match name with
      | [] => false
      | c :: more => isGroupNameChar true c && more.all (isGroupNameChar false)
    if wellFormed && !names.contains name then .ok (name, rest) else .error .badGroupName

inductive Opening where
  | group (flags : Flags) (name? : Option (List Char))
  | setFlags (flags : Flags)

def flagOpening (flags : Flags) (cs : List Char) : Reader Opening :=
  match flagList flags [] cs with
  | .error e => .error e
  | .ok ((changed, _, .colon), rest) => .ok (.group changed none, rest)
  | .ok ((changed, used, .parenthesis), rest) =>
    if used.isEmpty then .error .nothingToRepeat else .ok (.setFlags changed, rest)

def namedOpening (flags : Flags) (names : List (List Char)) (cs : List Char) : Reader Opening :=
  (groupName names cs).map fun (name, rest) => (.group flags (some name), rest)

def markedOpening (flags : Flags) (names : List (List Char)) (cs : List Char) : Reader Opening :=
  match cs with
  | '=' :: _ => .error .lookAround
  | '!' :: _ => .error .lookAround
  | '<' :: '=' :: _ => .error .lookAround
  | '<' :: '!' :: _ => .error .lookAround
  | 'P' :: '<' :: rest => namedOpening flags names rest
  | '<' :: rest => namedOpening flags names rest
  | rest => flagOpening flags rest

def opening (flags : Flags) (names : List (List Char)) (cs : List Char) : Reader Opening :=
  match flags.skip cs with
  | '?' :: rest => markedOpening flags names rest
  | rest => .ok (.group flags none, rest)

end Groups

section Counts

def maxCount : Nat := 4294967295

def digits (flags : Flags) : Nat → List Char → List Char → List Char × List Char
  | fuel + 1, read, c :: cs =>
    if c.isDigit then digits flags fuel (c :: read) (flags.skip cs) else (read.reverse, c :: cs)
  | _, read, cs => (read.reverse, cs)

def decimal (flags : Flags) (cs : List Char) : Option Nat × List Char :=
  let start := cs.dropWhile isBlank
  let (read, rest) := digits flags start.length [] start
  let value := read.foldl (fun n c => 10 * n + (c.toNat - '0'.toNat)) 0
  let rest := flags.skip (rest.dropWhile isBlank)
  (if read.isEmpty || value > maxCount then none else some value, rest)

def writtenBound (flags : Flags) (least : Nat) (cs : List Char) : Reader (Nat × Option Nat) :=
  match decimal flags cs with
  | (some most, '\x7d' :: rest) =>
    if least ≤ most then .ok ((least, some most), rest) else .error .badCount
  | _ => .error .badCount

def upperBound (flags : Flags) (least : Nat) (cs : List Char) : Reader (Nat × Option Nat) :=
  match flags.skip cs with
  | '\x7d' :: rest => .ok ((least, none), rest)
  | rest => writtenBound flags least rest

def bounds (flags : Flags) (cs : List Char) : Reader (Nat × Option Nat) :=
  let (least?, rest) := decimal flags (flags.skip cs)
  match least?, rest with
  | none, _ => .error .badCount
  | some least, '\x7d' :: rest => .ok ((least, some least), rest)
  | some least, ',' :: rest => upperBound flags least rest
  | _, _ => .error .badCount

def skipLazy (cs : List Char) : List Char :=
  match cs with
  | '?' :: rest => rest
  | _ => cs

end Counts

def primitive (flags : Flags) (p : Primitive) : Except PatternError Regex :=
  match p with
  | .literal c byte =>
    if flags.unicode || !byte || c.toNat < 0x80 then
      .ok (.char (flags.foldClass (.single c)))
    else .error .notAscii
  | .charClass cls => .ok (.char cls)
  | .look condition => .ok (.look condition (!flags.unicode))

def dot (flags : Flags) : Except PatternError Regex :=
  if !flags.unicode then .error .notAscii
  else if flags.dotAll then .ok (.char (.compl .nothing))
  else if flags.wideLines then .ok (.char (.compl (.union (.single '\n') (.single '\r'))))
  else .ok (.char (.compl (.single '\n')))

def startAnchor (flags : Flags) : Look :=
  if !flags.multiLine then .textStart else if flags.wideLines then .wideLineStart else .lineStart

def endAnchor (flags : Flags) : Look :=
  if !flags.multiLine then .textEnd else if flags.wideLines then .wideLineEnd else .lineEnd

structure OpenGroup where
  flags : Flags
  alternatives : List (Nested Regex)
  items : List (Option (Nested Regex))

namespace OpenGroup

def start (flags : Flags) : OpenGroup where
  flags := flags
  alternatives := []
  items := []

def current (group : OpenGroup) : Nested Regex where
  value := Regex.seqAll (group.items.reverse.filterMap fun item? => item?.map Nested.value)
  depth := jointDepth (group.items.map fun item? => (item?.map Nested.depth).getD 0)

def close (group : OpenGroup) : Nested Regex :=
  let alternatives := (group.current :: group.alternatives).reverse
  { value := Regex.altAll (alternatives.map Nested.value)
    depth := jointDepth (alternatives.map Nested.depth) }

def add (group : OpenGroup) (item : Nested Regex) : OpenGroup :=
  { group with items := some item :: group.items }

def nextAlternative (group : OpenGroup) : OpenGroup :=
  { group with alternatives := group.current :: group.alternatives, items := [] }

def repeatLast? (group : OpenGroup) (least : Nat) (most : Option Nat) : Option OpenGroup :=
  match group.items with
  | some item :: items =>
    some { group with items := some (item.map (.rep · least most)).wrap :: items }
  | _ => none

def canRepeat (group : OpenGroup) : Bool :=
  match group.items with
  | some _ :: _ => true
  | _ => false

end OpenGroup

def groupLoop : Nat → List OpenGroup → OpenGroup → List (List Char) → List Char →
    Except PatternError (Nested Regex)
  | 0, _, _, _, _ => .error .unclosedGroup
  | fuel + 1, outer, group, names, cs =>
    let flags := group.flags
    let repeated (least : Nat) (most : Option Nat) (rest : List Char) :=
      match group.repeatLast? least most with
      | some group => groupLoop fuel outer group names (skipLazy rest)
      | none => .error .nothingToRepeat
    let item (read : Except PatternError Regex) (rest : List Char) :=
      match read with
      | .error e => .error e
      | .ok r => groupLoop fuel outer (group.add (.flat r)) names rest
    match flags.skip cs with
    | [] => if outer.isEmpty then .ok group.close else .error .unclosedGroup
    | '(' :: rest =>
      match opening flags names rest with
      | .error e => .error e
      | .ok (.setFlags changed, rest) =>
        groupLoop fuel outer { group with flags := changed, items := none :: group.items } names rest
      | .ok (.group inner name?, rest) =>
        groupLoop fuel (group :: outer) (.start inner) (name?.toList ++ names) rest
    | ')' :: rest =>
      match outer with
      | [] => .error .unopenedGroup
      | around :: outer => groupLoop fuel outer (around.add group.close.wrap) names rest
    | '|' :: rest => groupLoop fuel outer group.nextAlternative names rest
    | '[' :: rest =>
      match bracketed flags rest with
      | .error e => .error e
      | .ok (cls, rest) => groupLoop fuel outer (group.add (cls.map .char)) names rest
    | '?' :: rest => repeated 0 (some 1) rest
    | '*' :: rest => repeated 0 none rest
    | '+' :: rest => repeated 1 none rest
    | '\x7b' :: rest =>
      -- Without anything to repeat, the numbers are not looked at.
      if !group.canRepeat then .error .nothingToRepeat
      else
        match bounds flags rest with
        | .error e => .error e
        | .ok ((least, most), rest) => repeated least most (flags.skip rest)
    | '\\' :: rest =>
      match escape flags rest with
      | .error e => .error e
      | .ok (p, rest) => item (primitive flags p) rest
    | '.' :: rest => item (dot flags) rest
    | '^' :: rest => item (.ok (.look (startAnchor flags) (!flags.unicode))) rest
    | '$' :: rest => item (.ok (.look (endAnchor flags) (!flags.unicode))) rest
    | c :: rest => item (primitive flags (.literal c false)) rest

def read (pattern : String) : Except PatternError (Nested Regex) :=
  groupLoop (pattern.length + 1) [] (.start {}) [] pattern.toList

def parse (pattern : String) : Except PatternError Regex :=
  match read pattern with
  | .error e => .error e
  | .ok expression =>
    if nestLimit < expression.depth then .error .nestedTooDeeply
    else if sizeLimit < Engine.compiledSize pattern then .error .tooLarge
    else .ok expression.value

def anchored (pattern : String) : String :=
  "^(?:" ++ pattern ++ ")$"

def isValid (pattern : String) : Bool :=
  (parse pattern).isOk

end Pattern
end CursorQuery
