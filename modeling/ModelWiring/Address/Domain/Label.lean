import ModelWiring.Address.Domain.Table
import ModelWiring.Text.Composed
import ModelWiring.Text.Direction
import ModelWiring.Text.Quoted

/-!
The labels of domain names, as people write them. A label is composed text of
permitted characters; a few characters are permitted between certain others
alone, and what is written from the right does not mix with what is written
from the left.
-/

namespace ModelWiring

/-- What can be wrong with a domain name. Places are counted from one. -/
inductive DomainFault where
  | noName
  | nameTooLong
  | noLabel
  | labelTooLong
  | notComposed
  /-- Hyphens in the third and the fourth place are kept for plain forms. -/
  | innerHyphens
  | outerHyphen
  | leadingMark
  | looseJoiner (c : Char) (place : Nat) (label : List Char)
  /-- A character does not stand where it is permitted. -/
  | misplaced (c : Char) (place : Nat) (label : List Char)
  | forbidden (c : Char) (place : Nat) (label : List Char)
  | firstDirection (label : List Char)
  | againstRight (place : Nat)
  | againstLeft (place : Nat)
  | mixedNumerals
  | lastDirection
  /-- A plain form tells nothing. -/
  | noContent
  | finalHyphen
  | unreadable
deriving DecidableEq, Repr

namespace DomainFault

/-- A character by its number, of four digits or more. -/
def numbered (c : Char) : String :=
  let width := if c.toNat < 0x10000 then 4 else if c.toNat < 0x100000 then 5 else 6
  "U+" ++ String.ofList (Text.hexDigits Text.upperHex width c.toNat)

def message : DomainFault → String
  | noName => "Empty domain"
  | nameTooLong => "Domain too long"
  | noLabel => "Empty Label"
  | labelTooLong => "Label too long"
  | notComposed => "Label must be in Normalization Form C"
  | innerHyphens => "Label has disallowed hyphens in 3rd and 4th position"
  | outerHyphen => "Label must not start or end with a hyphen"
  | leadingMark => "Label begins with an illegal combining character"
  | looseJoiner c place label =>
      let code := numbered c
      let shown := String.ofList (Text.quotedChars label)
      s!"Unknown codepoint adjacent to joiner {code} at position {place} in {shown}"
  | misplaced c place label =>
      let code := numbered c
      let shown := String.ofList (Text.quotedChars label)
      s!"Codepoint {code} not allowed at position {place} in {shown}"
  | forbidden c place label =>
      let code := numbered c
      let shown := String.ofList (Text.quotedChars label)
      s!"Codepoint {code} at position {place} of {shown} not allowed"
  | firstDirection label =>
      let shown := String.ofList (Text.quotedChars label)
      s!"First codepoint in label {shown} must be directionality L, R or AL"
  | againstRight place =>
      s!"Invalid direction for codepoint at position {place} in a right-to-left label"
  | againstLeft place =>
      s!"Invalid direction for codepoint at position {place} in a left-to-right label"
  | mixedNumerals => "Can not mix numeral types in a right-to-left label"
  | lastDirection => "Label ends with illegal codepoint directionality"
  | noContent => "Malformed A-label, no Punycode eligible content found"
  | finalHyphen => "A-label must not end with a hyphen"
  | unreadable => "Invalid A-label"

end DomainFault

namespace Address.Label

open Text (Direction direction inRanges inRuns)

/-- The mark that takes the vowel from a letter has a class of its own. -/
def isVirama (c : Char) : Bool :=
  Text.markClass c = 9

/-- Whether joined writing passes over a character. -/
def isTransparent (c : Char) : Bool :=
  if c.toNat = 0x1171E then false
  else direction c = .mark
    || inRanges [(0xCBF, 0xCBF), (0xCC6, 0xCC6), (0x11A07, 0x11A08), (0x11C3F, 0x11C3F),
      (0x1E94B, 0x1E94B)] c

/-- Whether a letter joins the one after it. -/
def joinsNext (c : Char) : Bool :=
  inRanges leftJoiningRanges c || inRanges bothJoiningRanges c

/-- Whether a letter joins the one before it. -/
def joinsPrevious (c : Char) : Bool :=
  inRanges rightJoiningRanges c || inRanges bothJoiningRanges c

/-- Whether a break in joined writing has its place: behind a virama, or
between letters that would be joined without it. The characters before it are
given backwards. -/
def permitsBreak (before after : List Char) : Bool :=
  before.head?.any isVirama
    || ((before.dropWhile isTransparent).head?.any joinsNext
      && (after.dropWhile isTransparent).head?.any joinsPrevious)

/-- Whether a character that depends on those beside it has its place, and
none if it is no such character. -/
def permitsBetween? (label before : List Char) (c : Char) (after : List Char) :
    Option Bool :=
  if c = '·' then some (before.head? = some 'l' && after.head? = some 'l')
  else if c = '\u0375' then some (after.head?.any (inRanges greekRanges))
  else if c = '\u05F3' || c = '\u05F4' then some (before.head?.any (inRanges hebrewRanges))
  else if c = '\u30FB' then some (label.any (inRanges japaneseRanges))
  else if inRanges [(0x660, 0x669)] c then some (!label.any (inRanges [(0x6F0, 0x6F9)]))
  else if inRanges [(0x6F0, 0x6F9)] c then some (!label.any (inRanges [(0x660, 0x669)]))
  else none

/-- Refuses the first character that does not have its place. The characters
before the rest are given backwards. -/
def checkChars (label : List Char) : List Char → List Char → Except DomainFault Unit
  | _, [] => .ok ()
  | before, c :: after =>
      let place := before.length + 1
      if inRuns permittedRuns c then checkChars label (c :: before) after
      else if c = '\u200C' || c = '\u200D' then
        let permits := if c = '\u200C' then permitsBreak before after
          else before.head?.any isVirama
        if permits then checkChars label (c :: before) after
        else .error (.looseJoiner c place label)
      else match permitsBetween? label before c after with
        | some true => checkChars label (c :: before) after
        | some false => .error (.misplaced c place label)
        | none => .error (.forbidden c place label)

/-- What is written from the right holds nothing that is written from the
left, and numbers of one kind. -/
def checkFromRight (place : Nat) (numeral : Option Direction) :
    List Direction → Except DomainFault Unit
  | [] => .ok ()
  | d :: rest =>
      if d = .left then .error (.againstRight place)
      else if d = .europeanNumber || d = .arabicNumber then
        if numeral.any (· ≠ d) then .error .mixedNumerals
        else checkFromRight (place + 1) (some d) rest
      else checkFromRight (place + 1) numeral rest

/-- What is written from the left holds nothing that is written from the
right. -/
def checkFromLeft (directions : List Direction) : Except DomainFault Unit :=
  match directions.findIdx? fun d => d = .right || d = .arabic || d = .arabicNumber with
  | some i => .error (.againstLeft (i + 1))
  | none => .ok ()

/-- Refuses a label that mixes directions. One in which nothing is written from
the right passes. -/
def checkDirections (label : List Char) : Except DomainFault Unit :=
  let directions := label.map direction
  let last := (directions.reverse.dropWhile (· = .mark)).head?
  let endsWith (allowed : List Direction) : Except DomainFault Unit :=
    if last.any (allowed.contains ·) then .ok () else .error .lastDirection
  if directions.any fun d => d = .right || d = .arabic || d = .arabicNumber then
    match directions.head? with
    | some .right | some .arabic => do
        checkFromRight 1 none directions
        endsWith [.right, .arabic, .europeanNumber, .arabicNumber]
    | some .left => do
        checkFromLeft directions
        endsWith [.left, .europeanNumber]
    | _ => .error (.firstDirection label)
  else .ok ()

/-- The greatest length of a name with a dot at its end. -/
def greatestNameLength : Nat := 254

/-- Refuses what is no label. -/
def check (label : List Char) : Except DomainFault Unit := do
  if label.isEmpty then throw .noLabel
  if greatestNameLength < label.length then throw .labelTooLong
  if !Text.isComposed label then throw .notComposed
  if (label.drop 2).take 2 = ['-', '-'] then throw .innerHyphens
  if label.head? = some '-' || label.getLast? = some '-' then throw .outerHyphen
  if label.head?.any Text.isMark then throw .leadingMark
  checkChars label [] label
  checkDirections label

end Address.Label

end ModelWiring
