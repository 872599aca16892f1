import SketchPreview.Text.Line
import SketchPreview.Url.Label
import SketchPreview.Url.Percent

/-!
# Host names

A host name is a row of labels with points between them. In an address it stands in small letters
and in ASCII.

* `isForbiddenInDomain`: the ASCII characters that no host name holds;
* `domain?`: the ASCII form of a host name.
-/

namespace SketchPreview.Url

/-- An ASCII character that no host name holds. -/
def isForbiddenInDomain (c : Char) : Bool :=
  c.toNat ≤ 0x20 || c.toNat == 0x7F ||
    c ∈ ['%', '#', '/', ':', '<', '>', '?', '@', '[', '\\', ']', '^', '|']

/-- A host name in the form of its characters, which may be percent-encoded. -/
def domainForm? (s : List Char) : Option (List Char) := do
  let text ← percentText? s
  let forms ← text.toList.mapM domainChar?
  let form := Text.composed forms.flatten
  guard (!form.any isForbiddenInDomain)
  return form

/-- The ASCII form of a host name, in which characters may be percent-encoded. -/
def domain? (s : List Char) : Option (List Char) := do
  let form ← domainForm? s
  let labels ← (Text.pieces '.' form).mapM Label.ofText?
  guard (haveFixedOrder labels)
  return ['.'].intercalate (labels.map (·.written))

end SketchPreview.Url
