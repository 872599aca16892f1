import SketchPreview.Text.Lowercase.Table

/-!
# Lower case

The lower-case form of a text. Each character has its own form, but a capital sigma becomes the
final small sigma at the end of a word.

* `lowerChar`: the lower-case form of a character;
* `isFinalSigma`: whether a sigma stands at the end of a word;
* `lowercase`: the lower-case form of a text.
-/

namespace SketchPreview.Text

/-- Whether a range holds a code point. -/
def CaseRange.holds (r : CaseRange) (n : Nat) : Bool :=
  r.first ≤ n && n ≤ r.last && (n - r.first) % r.step == 0

/-- The lower-case form of a character by itself. A dotted capital I keeps its dot as a mark of its
own. -/
def lowerChar (c : Char) : List Char :=
  if c.toNat < 128 then [c.toLower]
  else if c = 'İ' then ['i', '\u0307']
  else
    match lowercaseRanges.find? (·.holds c.toNat) with
    | some r => [Char.ofNat ((c.toNat : Int) + r.offset).toNat]
    | none => [c]

/-- Whether a character has the Unicode property `Cased`. -/
def isCased (c : Char) : Bool := casedRanges.any fun r => r.1 ≤ c.toNat && c.toNat ≤ r.2

/-- Whether a character has the Unicode property `Case_Ignorable`. -/
def isCaseIgnorable (c : Char) : Bool :=
  caseIgnorableRanges.any fun r => r.1 ≤ c.toNat && c.toNat ≤ r.2

/-- Whether the first character that is not ignored for case is a cased one. -/
def startsCased (s : List Char) : Bool :=
  ((s.dropWhile isCaseIgnorable).head?).any isCased

/-- Whether a sigma ends a word, given the text in front of it, read backwards, and the text behind
it. -/
def isFinalSigma (before after : List Char) : Bool := startsCased before && !startsCased after

/-- The lower-case form of the rest of a text, behind the text `before`, read backwards. -/
def lowercaseFrom (before : List Char) : List Char → List Char
  | [] => []
  | c :: rest =>
    (if c = 'Σ' then [if isFinalSigma before rest then 'ς' else 'σ'] else lowerChar c) ++
      lowercaseFrom (c :: before) rest

/-- The lower-case form of a text. -/
def lowercase (s : List Char) : List Char := lowercaseFrom [] s

end SketchPreview.Text
