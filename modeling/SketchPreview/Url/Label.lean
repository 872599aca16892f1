import SketchPreview.Text.Composition
import SketchPreview.Text.Direction
import SketchPreview.Text.Find
import SketchPreview.Text.Joining
import SketchPreview.Text.Lowercase
import SketchPreview.Url.Domain.Table
import SketchPreview.Url.Punycode

/-!
# Labels of host names

A host name is a row of labels. Each stands for some characters and is written in ASCII: a label
with other characters begins with `xn--` then. Not every row of characters is a label: none begins
with a mark, and the joiners need letters that can be joined.

* `domainChar?`: the form of a character in a host name;
* `fitsJoiners`: the rule for joiners;
* `Label`, `Label.ofText?`: labels and what writes them;
* `haveFixedOrder`: the rule for labels that go to the left.
-/

namespace SketchPreview.Url

open Text (isMark lowerChar rowForm? inRanges)

/-- The form of a character in a host name: small letters, plain characters for those that only look
different, and nothing for those that show nothing. -/
def domainChar? (c : Char) : Option (List Char) :=
  if Punycode.isBasic c then some [c.toLower]
  else if inRanges ignoredRanges c then some []
  else if inRanges refusedRanges c then none
  else if 0xFF01 ≤ c.toNat ∧ c.toNat ≤ 0xFF5E then some [(Char.ofNat (c.toNat - 0xFEE0)).toLower]
  else some ((rowForm? formRows c).getD (lowerChar c))

/-- Whether characters have the form that they take in a host name. -/
def isDomainForm (s : List Char) : Bool :=
  s.all (fun c => domainChar? c == some [c]) && Text.composed s == s

/-! ## Joiners -/

/-- The character that keeps two letters from being joined. -/
def nonJoiner : Char := '\u200c'

/-- The character that has two letters joined. -/
def joiner : Char := '\u200d'

/-- The combining class of the marks that take the vowel off a letter. -/
def vowelSignClass : Nat := 9

/-- Whether a joiner fits between the text in front, read backwards, and the text behind: it follows
a mark that takes a vowel off, or it keeps apart two letters that can be joined. -/
def fitsJoiner (before : List Char) (c : Char) (after : List Char) : Bool :=
  (before.head?).any (Text.combiningClass · == vowelSignClass) ||
    (c == nonJoiner && ((before.dropWhile Text.isTransparent).head?).any Text.joinsNext &&
      ((after.dropWhile Text.isTransparent).head?).any Text.joinsLast)

/-- Whether every joiner of a text fits, behind the text `before`, read backwards. -/
def fitsJoiners (before : List Char) : List Char → Bool
  | [] => true
  | c :: rest =>
    (!(c == nonJoiner || c == joiner) || fitsJoiner before c rest) && fitsJoiners (c :: before) rest

/-! ## Labels -/

/-- The characters that a label stands for, and its ASCII form. -/
structure Label where
  characters : List Char
  written : List Char
  deriving DecidableEq, Repr

/-- What begins the ASCII form of a label that is not in ASCII. -/
def internationalMark : List Char := "xn--".toList

/-- The greatest number of characters of a label that is not in ASCII. -/
def maxCharacters : Nat := 1000

/-- The greatest number of ASCII characters that a label not in ASCII is read from. -/
def maxWritten : Nat := 2000

namespace Label

/-- The characters that an ASCII form behind its mark stands for. They are not all in ASCII. -/
def decoded? (written : List Char) : Option (List Char) := do
  guard (written.length ≤ maxWritten)
  let characters ← Punycode.decode? written
  guard (!characters.all Punycode.isBasic && isDomainForm characters)
  return characters

/-- The characters that a text stands for as a label. -/
def characters? (s : List Char) : Option (List Char) :=
  match Text.dropPrefix? internationalMark s with
  | some written => if s.all Punycode.isBasic then decoded? written else none
  | none => some s

/-- Whether characters may stand next to each other in a label. -/
def isProper (characters : List Char) : Bool :=
  !(characters.head?).any isMark && fitsJoiners [] characters &&
    (characters.all Punycode.isBasic || characters.length ≤ maxCharacters)

/-- The label that a text in the form of host names writes. -/
def ofText? (s : List Char) : Option Label := do
  let characters ← characters? s
  guard (isProper characters)
  let written := if s.all Punycode.isBasic then s else internationalMark ++ Punycode.encode s
  return { characters, written }

end Label

/-- Whether labels keep their order wherever they stand. If one of them goes to the left, each of
them goes to the left or to the right throughout. -/
def haveFixedOrder (labels : List Label) : Bool :=
  let directions := labels.map (·.characters.map Text.direction)
  !directions.any (·.any Text.Direction.isLeftward) ||
    directions.all fun ds => ds.isEmpty || Text.goesLeft ds || Text.goesRight ds

end SketchPreview.Url
