import SketchPreview.Call.Extract
import SketchPreview.Proofs.Expr.Accepted
import SketchPreview.Proofs.Expr.Alternation

/-!
# Unknown names show

Arithmetic on binary64 numbers gives no number where an operand is none. A name that is unbound, or
bound to no number, therefore leaves every expression that it stands in without a number for its
value, and a call refuses such an argument.

* `isNaN_iff`, `isNaN_pack`, `isNaN_apply`: the operators where an operand is no number;
* `IsUnknown`: a name that stands for no number;
* `Spoilt`, `Spoilt.step`: a value on the stack is no number, or a name to come is unknown;
* `isNaN_evalPostfix`: the value of a postfix list with an unknown name;
* **`unknown_names_show`**.
-/

namespace SketchPreview.Expr

open Float.Model Float.Model.UnpackedFloat

/-! ## Operators -/

theorem isNaN_iff {v : Float} : v.isNaN = true ↔ v.toModel.unpack = .notANumber := by
  change v.toModel.unpack.isNaN = true ↔ _
  cases v.toModel.unpack with
  | notANumber => exact iff_of_true rfl rfl
  | _ => exact iff_of_false (fun h => Bool.false_ne_true h) fun h => by cases h

theorem isNaN_notANumber : notANumber.isNaN = true := by decide

/-- An operation on unpacked numbers that gives no number where an operand is none does so on packed
ones. -/
theorem isNaN_pack {f : UnpackedFloat → UnpackedFloat → UnpackedFloat}
    (hleft : ∀ u, f .notANumber u = .notANumber) (hright : ∀ u, f u .notANumber = .notANumber)
    {v w : Float} (h : v.isNaN = true ∨ w.isNaN = true) :
    (Float.ofModel (pack (f v.toModel.unpack w.toModel.unpack))).isNaN = true := by
  have hresult : f v.toModel.unpack w.toModel.unpack = .notANumber := by
    rcases h with h | h
    · rw [isNaN_iff.1 h, hleft]
    · rw [isNaN_iff.1 h, hright]
  rw [hresult]
  rfl

theorem isNaN_quotient {v w : Float} (h : v.isNaN = true ∨ w.isNaN = true) :
    (quotient v w).isNaN = true := by
  unfold quotient
  split
  · exact isNaN_notANumber
  · exact isNaN_pack (f := UnpackedFloat.div Format.binary64) (fun _ => rfl)
      (fun u => by cases u <;> rfl) h

/-- **An operator where an operand is no number.** -/
theorem isNaN_apply (op : Operator) {v w : Float} (h : v.isNaN = true ∨ w.isNaN = true) :
    (op.apply v w).isNaN = true := by
  cases op with
  | plus =>
    exact isNaN_pack (f := UnpackedFloat.add Format.binary64) (fun _ => rfl)
      (fun u => by cases u <;> rfl) h
  | minus =>
    exact isNaN_pack (f := UnpackedFloat.sub Format.binary64) (fun _ => rfl)
      (fun u => by cases u <;> rfl) h
  | times =>
    exact isNaN_pack (f := UnpackedFloat.mul Format.binary64) (fun _ => rfl)
      (fun u => by cases u <;> rfl) h
  | divide => exact isNaN_quotient h

/-! ## Values -/

/-- A name that is not bound to a number. -/
def IsUnknown (symbols : SymbolTable) (name : String) : Prop :=
  ∀ v, symbols.get? name = some v → v.isNaN = true

variable {symbols : SymbolTable}

theorem IsUnknown.isNaN {name : String} (h : IsUnknown symbols name) :
    ((symbols.get? name).getD notANumber).isNaN = true := by
  cases hname : symbols.get? name with
  | none => exact isNaN_notANumber
  | some v => exact h v hname

/-- Some value on the stack is no number, or some name among the tokens to come is unknown. -/
def Spoilt (symbols : SymbolTable) (rest : List Token) (stack : Stack Float) : Prop :=
  (∃ v ∈ stack.items, v.isNaN = true) ∨ ∃ name, .name name ∈ rest ∧ IsUnknown symbols name

/-- **One token.** An unknown name puts its value on the stack, and an operator takes no value away
that is no number without putting another one there. -/
theorem Spoilt.step {t : Token} {rest : List Token} {stack stack' : Stack Float}
    (h : Spoilt symbols (t :: rest) stack) (hs : evalStep symbols stack t = .ok stack') :
    Spoilt symbols rest stack' := by
  rcases h with ⟨v, hv, hnan⟩ | ⟨name, hname, hunknown⟩
  · cases t with
    | number w | name s =>
      refine .inl ⟨v, ?_, hnan⟩
      rw [pushValue_eq_ok hs]
      exact List.mem_cons_of_mem _ hv
    | operator op =>
      obtain ⟨lhs, rhs, below, hitems, hitems'⟩ := evalStep_operator_eq_ok hs
      rw [hitems, List.mem_cons, List.mem_cons] at hv
      refine .inl ?_
      rw [hitems']
      rcases hv with rfl | rfl | hv
      · exact ⟨_, List.mem_cons_self, isNaN_apply op (.inr hnan)⟩
      · exact ⟨_, List.mem_cons_self, isNaN_apply op (.inl hnan)⟩
      · exact ⟨v, List.mem_cons_of_mem _ hv, hnan⟩
    | _ => cases hs
  · rcases List.mem_cons.1 hname with rfl | hname
    · refine .inl ⟨_, ?_, hunknown.isNaN⟩
      rw [pushValue_eq_ok hs]
      exact List.mem_cons_self
    · exact .inr ⟨name, hname, hunknown⟩

/-- **The value of a postfix list with an unknown name** is no number. -/
theorem isNaN_evalPostfix {out : List Token} {v : Float} (h : evalPostfix symbols out = .ok v)
    {name : String} (hname : .name name ∈ out) (hunknown : IsUnknown symbols name) :
    v.isNaN = true := by
  obtain ⟨stack, hrun, honly⟩ := exists_of_bind_eq_ok h
  have hspoilt : Spoilt symbols [] stack :=
    invariant_of_foldlM (Spoilt symbols) (fun _ _ _ _ hspoilt hs => hspoilt.step hs)
      (.inr ⟨name, hname, hunknown⟩) hrun
  rw [Spoilt, onlyValue_eq_ok honly] at hspoilt
  rcases hspoilt with ⟨w, hw, hnan⟩ | ⟨_, hnone, -⟩
  · exact List.mem_singleton.1 hw ▸ hnan
  · cases hnone

theorem isNaN_evaluate {expr : List Char} {size : Dimensions} {v : Float}
    (h : evaluate expr symbols size = .ok v) {name : String}
    (hname : .name name ∈ collapseAccessors size (lex expr)) (hunknown : IsUnknown symbols name) :
    v.isNaN = true := by
  obtain ⟨out, hout, hv⟩ := evaluate_eq_ok h
  refine isNaN_evalPostfix hv ((toPostfix_perm hout).mem_iff.2 ?_) hunknown
  exact List.mem_filter.2 ⟨hname, rfl⟩

/-- **Unknown names show.** An expression with an unknown name has no number for its value, if it
has a value at all; and a call that needs a number refuses it, with the argument or else with what
is wrong with it. -/
theorem unknown_names_show :
    (∀ expr symbols size v name, evaluate expr symbols size = .ok v →
      .name name ∈ collapseAccessors size (lex expr) → IsUnknown symbols name →
        v.isNaN = true) ∧
      ∀ (scope : Call.Scope) verb args index expr name, args[index]? = some expr →
        .name name ∈ collapseAccessors scope.size (lex expr) → IsUnknown scope.symbols name →
          (∃ v, evaluate expr scope.symbols scope.size = .ok v ∧
            scope.number verb args index =
              .error (Call.unevaluableArgument verb index (String.ofList expr))) ∨
          ∃ malformed, evaluate expr scope.symbols scope.size = .error malformed ∧
            scope.number verb args index =
              .error (Call.unevaluableArgument verb index malformed.detail) := by
  refine ⟨fun expr symbols size v name h hname hunknown => isNaN_evaluate h hname hunknown, ?_⟩
  intro scope verb args index expr name hexpr hname hunknown
  rw [Call.Scope.number, hexpr]
  dsimp only
  cases hvalue : evaluate expr scope.symbols scope.size with
  | ok v =>
    refine .inl ⟨v, rfl, ?_⟩
    exact if_pos (isNaN_evaluate hvalue hname hunknown)
  | error malformed => exact .inr ⟨malformed, rfl, rfl⟩

/-- A quotient by a name that is bound to no number has no number for its value, and as a coordinate
it is refused. -/
theorem unknown_names_show_bound :
    let symbols := (SymbolTable.ofSize .standard).insert "gap" notANumber
    let expr := "7*(2-WIDTH/gap)".toList
    let scope : Call.Scope := ⟨symbols, .standard, Moment.mk 2024 3 7 9 5 0⟩
    evaluate expr symbols .standard = .ok notANumber ∧
      .name "gap" ∈ collapseAccessors .standard (lex expr) ∧ IsUnknown symbols "gap" ∧
      notANumber.isNaN = true ∧
      scope.number .drawPixel ["0".toList, expr] 1 =
        .error (Call.unevaluableArgument .drawPixel 1 "7*(2-WIDTH/gap)") := by
  intro symbols expr scope
  have hvalue : evaluate expr symbols .standard = .ok notANumber :=
    eq_ok_of_toOption (by decide +kernel)
  have hname : .name "gap" ∈ collapseAccessors .standard (lex expr) := by decide +kernel
  have hunknown : IsUnknown symbols "gap" := by
    intro v hv
    rw [SymbolTable.get?_insert, if_pos rfl] at hv
    exact Option.some.inj hv ▸ isNaN_notANumber
  refine ⟨hvalue, hname, hunknown,
    unknown_names_show.1 expr symbols .standard _ "gap" hvalue hname hunknown, ?_⟩
  rcases unknown_names_show.2 scope .drawPixel ["0".toList, expr] 1 expr "gap" rfl hname hunknown
    with ⟨v, -, hnumber⟩ | ⟨malformed, herror, -⟩
  · exact hnumber
  · cases herror.symm.trans hvalue

end SketchPreview.Expr
