import Mathlib.Data.Option.Basic
import SketchPreview.Compile.Json
import SketchPreview.Proofs.Json.Decoding
import SketchPreview.Proofs.Json.Reading
import SketchPreview.Proofs.SortedMap
import SketchPreview.Render.Request.Json

/-!
# Requests and recordings survive being written

* `Operation.ofJson?_toJson`, `Glyph.ofJson?_toJson`, `BitmapFont.ofJson?_toJson`,
  `FontMap.ofJson?_toJson`: the parts of a request are read from their JSON;
* `codeKey?_ofText`: so are the code points of glyphs;
* `RenderRequest.ofJson?_toJson`, `Recording.ofJson?_toJson`: requests, and recordings from the
  result of compiling;
* `RenderRequest.readable_toJson`, `Compilation.readable_toJson`: their texts are read back;
* `Json.texts`: the texts that a value is written as;
* **`parse?_texts`**: what is written is read back.
-/

namespace SketchPreview

open Json

/-! ## Operations -/

namespace Operation

theorem toInt32?_coordinate (n : Int32) : (coordinate n).toInt32? = some n := toInt32?_int n

theorem ofFields?_arguments (op : Operation) :
    ofFields? (("op", .str op.tag) :: op.arguments) op.tag = some op := by
  cases op <;>
    simp [ofFields?, tag, arguments, withPlace?, withRect?, withSegment?, coordinateOf?, stringOf?,
      Fields.required, placeFields, rectFields, segmentFields, toInt32?_coordinate,
      toString?_str]

theorem isReadable_coordinate (levels : Nat) (n : Int32) :
    (coordinate n).isReadable levels = true := by
  have hlow := n.le_toInt
  have hhigh := n.toInt_lt
  have hrange : n.toInt.natAbs < UInt64.size := by
    rw [UInt64.size]
    omega
  simp [coordinate, isReadable, isIntInRange, hrange]

theorem isReadable_str (levels : Nat) (s : String) : (str s).isReadable levels = true := by
  simp [str, isReadable, Quoted.text?_ofText]

theorem areFieldsReadable_obj {levels : Nat} {fields : Fields}
    (h : ∀ f ∈ fields, f.2.isReadable levels = true) :
    areFieldsReadable levels (fields.map fun f => (.ofText f.1, f.2)) = true := by
  induction fields with
  | nil => rfl
  | cons f rest ih =>
    rw [List.map_cons, areFieldsReadable, h f List.mem_cons_self,
      ih fun g hg => h g (List.mem_cons_of_mem _ hg), Quoted.text?_ofText]
    rfl

theorem forall_fields {P : Json → Prop} (hnumber : ∀ n, P (coordinate n)) (htext : ∀ s, P (str s))
    (op : Operation) : ∀ f ∈ (("op", .str op.tag) :: op.arguments : Fields), P f.2 := by
  cases op <;> simp [arguments, placeFields, rectFields, segmentFields, hnumber, htext]

theorem ofJson?_toJson (op : Operation) : ofJson? op.toJson = some op := by
  have hreadable : op.toJson.isReadable maxLevels = true :=
    areFieldsReadable_obj (forall_fields (P := fun v => v.isReadable (maxLevels - 1) = true)
      (isReadable_coordinate _) (isReadable_str _) op)
  have htag : stringOf? (("op", .str op.tag) :: op.arguments) "op" = some op.tag := by
    cases op <;>
      simp [stringOf?, Fields.required, arguments, placeFields, rectFields,
        segmentFields, toString?_str]
  rw [ofJson?, hreadable, toJson, toFields?_obj]
  show (stringOf? _ "op" >>= _) = _
  rw [htag]
  exact ofFields?_arguments op

theorem readable_toJson (op : Operation) : Readable op.toJson :=
  readable_obj (forall_fields (fun n => readable_int n.toInt) readable_str op)

end Operation

/-! ## Fonts -/

theorem dotOfJson?_dotJson (dot : Bool) : dotOfJson? (dotJson dot) = some dot := by
  cases dot <;> rfl

theorem Glyph.ofJson?_toJson (g : Glyph) : Glyph.ofJson? g.toJson = some g := by
  have hrows : (list (list dotJson) g.rows).toList? (toList? dotOfJson?) = some g.rows :=
    toList?_list fun row _ => toList?_list fun dot _ => dotOfJson?_dotJson dot
  rw [Glyph.ofJson?, Glyph.toJson, toFields?_obj]
  simp [Fields.required, toUInt32?_nat, toInt32?_int, hrows]

theorem encodeChar_digit {c : Char} (h : c.isDigit = true) : Quoted.encodeChar c = [c] := by
  have hne : ∀ d : Char, d.isDigit = false → c ≠ d := by
    rintro d hd rfl
    cases h.symm.trans hd
  have hlow : ¬ c.toNat < 32 := by
    simp only [Char.isDigit, Bool.and_eq_true, decide_eq_true_eq] at h
    have hval : 48 ≤ c.toNat := UInt32.le_iff_toNat_le.1 h.1
    omega
  simp [Quoted.encodeChar, hne '"' rfl, hne '\\' rfl, hne '\n' rfl, hne '\r' rfl,
    hne '\t' rfl, hne '\x08' rfl, hne '\x0c' rfl, hlow]

theorem encode_digits {ds : List Char} (h : ∀ c ∈ ds, c.isDigit = true) :
    Quoted.encode ds = ds := by
  induction ds with
  | nil => rfl
  | cons c rest ih =>
    rw [Quoted.encode, List.flatMap_cons, encodeChar_digit (h c List.mem_cons_self),
      ← Quoted.encode, ih fun d hd => h d (List.mem_cons_of_mem _ hd)]
    rfl

theorem codeKey?_ofText (code : UInt32) : codeKey? (.ofText (toString code.toNat)) = some code := by
  have hdigits : ∀ c ∈ Nat.toDigits 10 code.toNat, c.isDigit = true := fun c hc =>
    Nat.isDigit_of_mem_toDigits (by decide) (by decide) hc
  have hwritten : (Quoted.ofText (toString code.toNat)).written = Nat.toDigits 10 code.toNat := by
    rw [Quoted.ofText, toList_toString, encode_digits hdigits]
  have hread := Text.readNat?_toDigits code.toNat
  have hzero : (Nat.toDigits 10 code.toNat).head? ≠ some '0' ∨
      (Nat.toDigits 10 code.toNat).length = 1 := by
    rcases Nat.eq_zero_or_pos code.toNat with hcode | hcode
    · rw [hcode]
      exact .inr rfl
    · exact .inl (head?_toDigits hcode)
  rw [codeKey?, hwritten, hread]
  dsimp only
  rw [if_pos ⟨code.toNat_lt_size, hzero⟩, UInt32.ofNat_toNat]

theorem glyphsOfJson?_obj (glyphs : SortedMap UInt32 Glyph) :
    glyphsOfJson? (.obj (glyphs.entries.map fun e => (toString e.1.toNat, e.2.toJson))) =
      some glyphs := by
  have hentries : List.mapM glyphEntry?
      (glyphs.entries.map fun e => (Quoted.ofText (toString e.1.toNat), e.2.toJson)) =
        some glyphs.entries :=
    mapM_map_eq_some fun e _ => by
      rw [ glyphEntry?, codeKey?_ofText, Glyph.ofJson?_toJson]
      rfl
  rw [glyphsOfJson?, obj, List.map_map]
  show (List.mapM glyphEntry? _ >>= _) = _
  rw [Function.comp_def, hentries]
  exact congrArg some (SortedMap.ofList_entries glyphs)

theorem BitmapFont.ofJson?_toJson (f : BitmapFont) : BitmapFont.ofJson? f.toJson = some f := by
  rw [BitmapFont.ofJson?, BitmapFont.toJson, toFields?_obj]
  simp [Fields.required, Fields.withDefault, toString?_str, toInt32?_int, glyphsOfJson?_obj,
    -Nat.toString_eq_repr]

theorem FontMap.ofJson?_toJson (fonts : FontMap) : FontMap.ofJson? fonts.toJson = some fonts := by
  have hentries : (fonts.entries.map fun e => (e.1, e.2.toJson)).mapM namedFont? =
      some fonts.entries :=
    mapM_map_eq_some fun e _ => by rw [namedFont?, BitmapFont.ofJson?_toJson]; rfl
  rw [FontMap.ofJson?, FontMap.toJson, toFields?_obj]
  show (List.mapM namedFont? _ >>= _) = _
  rw [hentries]
  exact congrArg some (SortedMap.ofList_entries fonts)

/-! ## Requests and recordings -/

theorem toList?_operations (ops : List Operation) :
    (list Operation.toJson ops).toList? Operation.ofJson? = some ops :=
  toList?_list fun op _ => op.ofJson?_toJson

theorem RenderRequest.ofJson?_toJson (r : RenderRequest) :
    RenderRequest.ofJson? r.toJson = some r := by
  obtain ⟨⟨width, height⟩, scale, invert, grid, operations, fonts, font, textUsesDrawColor⟩ := r
  have hfonts : ∀ fonts : FontMap, toOption? FontMap.ofJson? fonts.toJson = some (some fonts) :=
    fun fonts => congrArg (Option.map some) fonts.ofJson?_toJson
  have hfont : ∀ font : BitmapFont, toOption? BitmapFont.ofJson? font.toJson = some (some font) :=
    fun font => congrArg (Option.map some) font.ofJson?_toJson
  rw [RenderRequest.ofJson?, RenderRequest.toJson, toFields?_obj]
  cases fonts <;> cases font <;>
    simp [optionalField, Fields.required, Fields.withDefault, Fields.optional, toUInt32?_nat,
      toBool?, toList?_operations, hfonts, hfont]

theorem Recording.ofJson?_toJson (c : Compilation) :
    Recording.ofJson? c.toJson = some ⟨none, none, c.operations⟩ := by
  rw [Recording.ofJson?, Compilation.toJson, toFields?_obj]
  simp [Fields.withDefault, Fields.optional, toList?_operations]

/-! ## Texts -/

theorem readable_list {α : Type} {f : α → Json} (h : ∀ a, Readable (f a)) (l : List α) :
    Readable (list f l) :=
  readable_arr fun v hv => by
    obtain ⟨a, -, rfl⟩ := List.mem_map.1 hv
    exact h a

theorem Glyph.readable_toJson (g : Glyph) : Readable g.toJson := by
  have hdot : ∀ dot, Readable (dotJson dot) := fun dot => readable_int _
  refine readable_obj ?_
  simp [readable_int, Json.nat, readable_list (readable_list hdot)]

theorem BitmapFont.readable_toJson (f : BitmapFont) : Readable f.toJson := by
  have hglyphs : Readable (.obj (f.glyphs.entries.map fun e => (toString e.1.toNat, e.2.toJson))) :=
    readable_obj fun g hg => by
      obtain ⟨e, -, rfl⟩ := List.mem_map.1 hg
      exact e.2.readable_toJson
  refine readable_obj ?_
  simp [readable_int, readable_str, hglyphs, -Nat.toString_eq_repr]

theorem FontMap.readable_toJson (fonts : FontMap) : Readable fonts.toJson :=
  readable_obj fun f hf => by
    obtain ⟨e, -, rfl⟩ := List.mem_map.1 hf
    exact e.2.readable_toJson

theorem RenderRequest.readable_toJson (r : RenderRequest) : Readable r.toJson := by
  refine readable_obj ?_
  cases r.fonts <;> cases r.font <;>
    simp [optionalField, Json.nat, readable_int, readable_bool,
      readable_list Operation.readable_toJson, FontMap.readable_toJson, BitmapFont.readable_toJson]

theorem Compilation.readable_toJson (c : Compilation) : Readable c.toJson := by
  have hstatistics : Readable c.statistics.toJson := by
    refine readable_obj ?_
    simp [Json.nat, readable_int]
  refine readable_obj ?_
  simp [hstatistics, readable_list Operation.readable_toJson,
    readable_list fun d : Diagnostic => readable_str d.message]

/-- The texts that a value is written as: without blanks, and laid out with or without a newline
at the end. -/
def Json.texts (v : Json) : List String := [String.ofList v.compact, v.pretty, v.pretty ++ "\n"]

theorem Json.Readable.parse?_of_mem_texts {v : Json} (h : Readable v) {text : String}
    (htext : text ∈ v.texts) : parse? text = some v := by
  have hdense := h.parse?_write .dense (b := []) (by simp)
  have hairy := h.parse?_write .airy (b := []) (by simp)
  have hnewline := h.parse?_write .airy (b := ['\n']) (by simp [isSpace])
  rw [List.append_nil, Layout.write_dense] at hdense
  rw [List.append_nil, Layout.write_airy] at hairy
  rw [Layout.write_airy, String.ofList_append] at hnewline
  simp only [texts, List.mem_cons, List.not_mem_nil, or_false] at htext
  rcases htext with rfl | rfl | rfl
  · exact hdense
  · exact hairy
  · exact hnewline

/-- **What is written is read back**: a request as the same request, and the result of compiling as
a recording of its operations on a display of unknown size. -/
theorem parse?_texts :
    (∀ r : RenderRequest, ∀ text ∈ r.toJson.texts,
      (parse? text).bind RenderRequest.ofJson? = some r) ∧
    ∀ c : Compilation, ∀ text ∈ c.toJson.texts,
      (parse? text).bind Recording.ofJson? = some ⟨none, none, c.operations⟩ := by
  constructor
  · intro r text htext
    rw [r.readable_toJson.parse?_of_mem_texts htext]
    exact r.ofJson?_toJson
  · intro c text htext
    rw [c.readable_toJson.parse?_of_mem_texts htext]
    exact Recording.ofJson?_toJson c

end SketchPreview
