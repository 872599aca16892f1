import Mathlib.Data.List.Nodup
import Mathlib.Data.List.TakeWhile
import SketchPreview.Font.Name
import SketchPreview.Proofs.Call.Scan
import SketchPreview.Proofs.Compile.Accounts
import SketchPreview.Proofs.Distinct
import SketchPreview.Proofs.Expr.Pieces
import SketchPreview.Proofs.Expr.Unknown

/-!
# The fonts that calls select are found

A sketch is scanned twice: line by line for its calls, and as one text for the names of fonts. What
the first scan takes for the selection of a font, the second one finds.

* `IsFontName`, `argument?_of_isFontName`, `mem_selections`: the scan for names;
* `evaluate_name`, `outcome_of_isFontName`: a name that is not bound stands for itself;
* **`namesIn_of_site`**.
-/

namespace SketchPreview

open Text

/-! ## The scan for names -/

namespace Font

/-- A font name of the display library, as a sketch writes it. -/
structure IsFontName (name : List Char) : Prop where
  word : ∀ c ∈ name, isWordChar c = true
  common : namePrefix <+: name
  longer : namePrefix.length < name.length

theorem IsFontName.isWord {name : List Char} (h : IsFontName name) : IsWord name :=
  ⟨fun hnil => absurd h.longer (by rw [hnil]; exact Nat.not_lt_zero _),
    fun c hc => isBlank_of_isWordChar (h.word c hc)⟩

theorem argument?_of_isFontName {name blanks before behind : List Char} (h : IsFontName name)
    (hblanks : ∀ c ∈ blanks, isBlank c = true) (hbefore : ∀ c ∈ before, isBlank c = true)
    (hbehind : ∀ c ∈ behind, isBlank c = true) (rest : List Char) :
    argument? (blanks ++ '(' :: (before ++ name ++ behind ++ ')' :: rest)) = some name := by
  obtain ⟨htake, hdrop⟩ := takeWhile_dropWhile_of_stop h.word
    (word_ends hbehind (c := ')') (by decide) rest)
  have hinner : trimStart (before ++ name ++ behind ++ ')' :: rest) =
      name ++ (behind ++ ')' :: rest) := by
    rw [List.append_assoc, List.append_assoc, trimStart_append hbefore, trimStart_word h.isWord]
  have hbegins : startsWith (name ++ (behind ++ ')' :: rest)) namePrefix = true :=
    startsWith_iff.2 (h.common.trans (List.prefix_append _ _))
  have hend : (trimStart (behind ++ ')' :: rest)).head? = some ')' := by
    rw [trimStart_append hbehind, trimStart_cons (by decide)]
    rfl
  rw [argument?, trimStart_append hblanks, trimStart_cons (by decide)]
  split
  · next inner heq =>
    cases heq
    dsimp only
    rw [hinner, htake, hdrop, if_pos ⟨hbegins, h.longer, hend⟩]
  · next hne => exact absurd rfl (hne _)

theorem mem_selections {after name : List Char} (h : argument? after = some name)
    (pre : List Char) : name ∈ selections (pre ++ ("setFont".toList ++ after)) := by
  induction pre with
  | nil =>
    have hsite : dropPrefix? "setFont".toList ('s' :: ("etFont".toList ++ after)) = some after :=
      dropPrefix?_eq_some_iff.2 rfl
    show name ∈ selections ('s' :: ("etFont".toList ++ after))
    rw [selections, hsite, Option.bind_some, h]
    exact List.mem_cons_self
  | cons c pre ih =>
    rw [List.cons_append, selections]
    split
    · exact List.mem_cons_of_mem _ ih
    · exact ih

theorem nodup_namesIn (source : String) : (namesIn source).Nodup :=
  (nodup_eraseDups _).map fun _ _ h => String.ofList_injective h

end Font

/-! ## A name stands for itself -/

namespace Expr

theorem lex_name {c : Char} {rest : List Char} (hc : isWordStart c = true)
    (hrest : ∀ a ∈ rest, isWordChar a = true) :
    lex (c :: rest) = [.name (String.ofList (c :: rest))] :=
  (Pieces.of_piece (.name hc ⟨hrest, by simp⟩)).lex_eq

theorem evaluate_name {c : Char} {rest : List Char} (hc : isWordStart c = true)
    (hrest : ∀ a ∈ rest, isWordChar a = true) (symbols : SymbolTable) (size : Dimensions) :
    evaluate (c :: rest) symbols size =
      .ok ((symbols.get? (String.ofList (c :: rest))).getD notANumber) := by
  rw [evaluate, lex_name hc hrest]
  rfl

end Expr

namespace Call

open Font

theorem topPieces_of_not_mem {n : Nesting} {s : List Char} (h : ',' ∉ s) : topPieces n s = [s] := by
  induction s generalizing n with
  | nil => rfl
  | cons c rest ih =>
    have hc : c ≠ ',' := (List.ne_of_not_mem_cons h).symm
    rw [topPieces, if_neg (fun hcomma => hc hcomma.1), ih (List.not_mem_of_not_mem_cons h)]

theorem splitArguments_of_isFontName {s : List Char} (h : IsFontName (trim s)) :
    splitArguments s = [trim s] := by
  obtain ⟨before, behind, hbefore, hbehind, hs⟩ := exists_trim s
  have hcomma : ',' ∉ s := by
    rw [hs, List.mem_append, List.mem_append]
    rintro ((hmem | hmem) | hmem)
    · exact absurd (hbefore _ hmem) (by decide)
    · exact absurd (h.word _ hmem) (by decide)
    · exact absurd (hbehind _ hmem) (by decide)
  rw [splitArguments, topPieces_of_not_mem hcomma, List.map_singleton, dropBlankLast, if_neg]
  simpa using h.isWord.1

theorem text_of_isFontName {scope : Scope} {name : List Char} (h : IsFontName name)
    (hunbound : scope.symbols.get? (String.ofList name) = none) :
    scope.text name = (String.ofList name, none) := by
  have htrim : trim name = name := trim_of_not_blank h.isWord.2
  obtain ⟨rest, rfl⟩ : ∃ rest, name = 'u' :: rest := by
    obtain ⟨more, rfl⟩ := h.common
    exact ⟨_, rfl⟩
  have hvalue := Expr.evaluate_name (c := 'u') (by decide)
    (fun a ha => h.word a (List.mem_cons_of_mem _ ha)) scope.symbols scope.size
  rw [hunbound, Option.getD_none] at hvalue
  have hliteral : literal? ('u' :: rest) = none := by
    rw [literal?, if_neg]
    exact fun hquote => absurd hquote.1 (by decide)
  have htime : 'u' :: rest ≠ "PvTime".toList := fun heq => absurd (List.cons.inj heq).1 (by decide)
  have hdate : 'u' :: rest ≠ "PvDate".toList := fun heq => absurd (List.cons.inj heq).1 (by decide)
  rw [Scope.text, htrim, hliteral]
  dsimp only
  rw [if_neg (by simp), if_neg htime, if_neg hdate, Scope.evaluatedText, hvalue]
  simp only [Expr.isNaN_notANumber, if_true]

/-- **A call that selects a font** whose name is not bound. -/
theorem outcome_of_isFontName {scope : Scope} {site : Site} (hverb : site.verb = .setFont)
    (h : IsFontName (trim site.arguments))
    (hunbound : scope.symbols.get? (String.ofList (trim site.arguments)) = none) (n : Nat) :
    scope.outcome n site = (some (.setFont (String.ofList (trim site.arguments))), none) := by
  have hoperation : scope.operation .setFont [trim site.arguments] =
      .ok (.setFont (String.ofList (trim site.arguments)), none) := by
    show Except.ok (scope.withText _ _) = _
    rw [Scope.withText, text_of_isFontName h hunbound]
  rw [Scope.outcome, hverb, splitArguments_of_isFontName h, hoperation]
  rfl

end Call

/-! ## Both scans -/

open Call Font

/-- A font that a call of a sketch selects is found by the scan for names. -/
theorem mem_selections_of_site {s : List Char} {k : Nat} {site : Site}
    (hsite : (k, site) ∈ sitesFrom 1 (lines s)) (hverb : site.verb = .setFont)
    (h : IsFontName (trim site.arguments)) : trim site.arguments ∈ selections s := by
  obtain ⟨line, hline, hscan⟩ := mem_sitesFrom hsite
  obtain ⟨pre, t, hpre, blanks, rest, hblanks, rfl⟩ := mem_scanFrom hscan
  obtain ⟨front, back, hs⟩ := infix_of_mem_lines hline
  obtain ⟨before, behind, hbefore, hbehind, harguments⟩ := exists_trim site.arguments
  have hfound := argument?_of_isFontName h hblanks hbefore hbehind (rest ++ back)
  rw [← harguments] at hfound
  have hsource : s = front ++ pre ++ ("setFont".toList ++
      (blanks ++ '(' :: (site.arguments ++ ')' :: (rest ++ back)))) := by
    rw [← hs, hpre, hverb]
    simp [Verb.name]
  rw [hsource]
  exact mem_selections hfound _

/-- The operations of some calls. -/
def Call.Scope.operationsAt (scope : Scope) (sites : List (Nat × Site)) : List Operation :=
  sites.filterMap fun s => (scope.outcome s.1 s.2).1

theorem operations_compile (source : String) (size : Dimensions) (now : Moment) :
    (compile source size now).operations =
      (scopeOf (lines source.toList) size now).operationsAt
        (sitesFrom 1 (lines source.toList)) := by
  show (Scope.outcomesFrom _ 1 (lines source.toList)).filterMap (·.1) = _
  rw [outcomesFrom_eq, List.filterMap_map]
  rfl

/-- **The scan for names finds every font that a call selects**, each one once, and the operation of
such a call selects just this font, unless the sketch has bound the name. -/
theorem namesIn_of_site (source : String) (size : Dimensions) (now : Moment) :
    (namesIn source).Nodup ∧
      ∀ (name : String) (before behind : List (Nat × Site)) (n : Nat) (site : Site),
        sitesFrom 1 (lines source.toList) = before ++ (n, site) :: behind →
        site.verb = .setFont → trim site.arguments = name.toList → IsFontName name.toList →
          name ∈ namesIn source ∧
            ((scopeOf (lines source.toList) size now).symbols.get? name = none →
              (compile source size now).operations =
                (scopeOf (lines source.toList) size now).operationsAt before ++ .setFont name ::
                  (scopeOf (lines source.toList) size now).operationsAt behind) := by
  refine ⟨nodup_namesIn source, fun name before behind n site hsites hverb hname h => ?_⟩
  obtain rfl : String.ofList (trim site.arguments) = name := by rw [hname, String.ofList_toList]
  rw [String.toList_ofList] at h
  have hmem : (n, site) ∈ sitesFrom 1 (lines source.toList) := hsites ▸ by simp
  refine ⟨?_, fun hunbound => ?_⟩
  · exact List.mem_map_of_mem (List.mem_eraseDups.2 (mem_selections_of_site hmem hverb h))
  · rw [operations_compile, hsites, Scope.operationsAt, List.filterMap_append,
      List.filterMap_cons_some (b := .setFont _)]
    · rfl
    · rw [outcome_of_isFontName hverb h hunbound]

/-- A sketch that selects two fonts: one in an argument, which the scan for calls does not look
into, and one between blanks of several kinds. -/
def crossedSketch : String := "print(setFont(u8g2_font_a)); d->setFont ( u8g2_font_6x10_tf\t);\r\n"

/-- The first call of that sketch, with its argument. -/
def outerCall : Site := ⟨0, 27, .print, "setFont(u8g2_font_a)".toList⟩

/-- The second call of that sketch, whose argument is a font name between blanks. -/
def fontCall : Site := ⟨32, 61, .setFont, " u8g2_font_6x10_tf\t".toList⟩

theorem namesIn_of_site_crossed :
    (namesIn crossedSketch).Nodup ∧ "u8g2_font_6x10_tf" ∈ namesIn crossedSketch ∧
      (compile crossedSketch .standard default).operations =
        (scopeOf (lines crossedSketch.toList) .standard default).operationsAt [(1, outerCall)] ++
          .setFont "u8g2_font_6x10_tf" ::
            (scopeOf (lines crossedSketch.toList) .standard default).operationsAt [] := by
  have hsites : sitesFrom 1 (lines crossedSketch.toList) =
      [(1, outerCall)] ++ (1, fontCall) :: [] := by decide +kernel
  obtain ⟨hnodup, hfound⟩ := namesIn_of_site crossedSketch .standard default
  obtain ⟨hmem, hoperations⟩ := hfound "u8g2_font_6x10_tf" _ _ _ _ hsites rfl (by decide)
    ⟨List.all_eq_true.1 rfl, by decide, by decide⟩
  exact ⟨hnodup, hmem, hoperations (by rfl)⟩

end SketchPreview
