import Parcelgen.Proofs.Schema.Naming
import Parcelgen.Proofs.Text.Encoding
import Parcelgen.Proofs.TypeExpr.Printing

/-!
Types in schema notation. A type that needs no declarations is written in built-in names, vectors and dimensions; its text is that of an
expression (`WireType.expression`), and building the expression gives the type back. Dimensions are written from outside in, read in that order
and put around the base from the last one on, so a list of dimensions stays as it is all the way (`dimensions_expression`,
`arrays_append_singleton`).
-/

namespace Parcelgen

open Text (Bytes)

namespace Scalar

theorem mem_all {s : Scalar} (h : s.isKnown = true) : s ∈ all := by
  cases s with
  | unknown => cases h
  | bool | int8 | uint8 | int16 | uint16 | int32 | uint32 | int64 | uint64 | float | double => decide

theorem ofName?_name {s : Scalar} (h : s.isKnown = true) : ofName? s.name = some s := by
  have hall : ∀ s ∈ all, ofName? s.name = some s := by decide +kernel
  exact hall s (mem_all h)

theorem isName_name {s : Scalar} (h : s.isKnown = true) : TypeExpr.IsName (Text.bytes s.name) := by
  have hall : ∀ s ∈ all, TypeExpr.IsName (Text.bytes s.name) := by decide +kernel
  exact hall s (mem_all h)

end Scalar

/-- Dimension text that stands between brackets as it is: not blank, without blanks around it, and with no bracket that closes it early. -/
structure IsDimension (dim : String) : Prop where
  notBlank : ∃ c ∈ dim.toList, Text.isBlank c = false
  trimmed : Text.trim dim = dim
  unclosed : ']' ∉ dim.toList

namespace TypeExpr

theorem isBlankMark_comp_char : isBlankMark ∘ Text.Mark.char = Text.isBlank := funext fun _ => rfl

/-- Trimming bytes and trimming characters is the same for the bytes of a text. -/
theorem trim_bytes (s : String) : trim (Text.bytes s) = Text.bytes (Text.trim s) := by
  rw [trim, Text.marks_bytes, List.dropWhile_map, ← List.map_reverse, List.dropWhile_map, ← List.map_reverse, isBlankMark_comp_char,
    Text.flatMap_bytes_char]
  rfl

theorem isBlank_bytes (s : String) : IsBlank (Text.bytes s) ↔ ∀ c ∈ s.toList, Text.isBlank c = true := by
  rw [IsBlank, Text.marks_bytes, List.forall_mem_map]
  rfl

theorem isDim_bytes {dim : String} (h : IsDimension dim) : IsDim (Text.bytes dim) where
  notBlank hblank := by
    obtain ⟨c, hc, hfalse⟩ := h.notBlank
    rw [(isBlank_bytes dim).mp hblank c hc] at hfalse
    cases hfalse
  trimmed := by rw [trim_bytes, h.trimmed]
  unclosed hmem := by
    obtain ⟨c, hc, hcode⟩ := Text.exists_mem_of_mem_bytes hmem (by decide)
    have hclose : c = ']' := by rw [← c.ofNat_toNat, hcode]; rfl
    exact h.unclosed (hclose ▸ hc)

theorem dimText_append (ds es : List Bytes) : dimText (ds ++ es) = dimText ds ++ dimText es := by
  induction ds with
  | nil => rfl
  | cons dim ds ih => simp [dimText, ih]

/-- The dimensions behind the base of an expression. -/
def dimensions : TypeExpr → List Bytes
  | .name _ dims | .vector _ dims => dims

end TypeExpr

namespace WireType

/-- Types that need no declarations. -/
inductive IsPlain : WireType → Prop
  | scalar {s : Scalar} : s.isKnown = true → IsPlain (.scalar s)
  | string : IsPlain .string
  | vector {elem : WireType} : IsPlain elem → elem.kind? ≠ some .array → IsPlain (.vector elem)
  | array {elem : WireType} {dim : String} : IsPlain elem → IsDimension dim → IsPlain (.array elem dim)

/-- The expression that a plain type is written as, with further dimensions around it. -/
def expression : WireType → List Bytes → TypeExpr
  | .scalar s, dims => .name (Text.bytes s.name) dims
  | .string, dims => .name (Text.bytes "string") dims
  | .vector elem, dims => .vector (elem.expression []) dims
  | .array elem dim, dims => elem.expression (dims ++ [Text.bytes dim])
  | .absent, dims | .struct _ _, dims | .enum _ _ _, dims | .interface _, dims => .name [] dims

namespace IsPlain

variable {t : WireType} {dims : List Bytes}

/-- The text of a plain type is the text of its expression. -/
theorem bytes_describe (h : t.IsPlain) {around : String} (haround : Text.bytes around = TypeExpr.dimText dims) :
    Text.bytes (t.describe around) = (t.expression dims).text := by
  induction h generalizing dims around with
  | scalar | string => rw [describe, Text.bytes_append, haround, expression, TypeExpr.text]
  | @vector elem _ _ ih =>
    have helem : Text.bytes (elem.describe "") = (elem.expression []).text := ih Text.bytes_empty
    simp only [describe, Text.bytes_append, helem, haround, expression, TypeExpr.text]
  | array _ _ ih =>
    refine ih ?_
    simp only [Text.bytes_append, haround, TypeExpr.dimText_append, TypeExpr.dimText, List.append_assoc, List.append_nil]

theorem wellFormed_expression (h : t.IsPlain) (hdims : ∀ dim ∈ dims, TypeExpr.IsDim dim) : (t.expression dims).WellFormed := by
  induction h generalizing dims with
  | scalar hs => exact ⟨Scalar.isName_name hs, hdims⟩
  | string => exact ⟨by decide +kernel, hdims⟩
  | vector _ _ ih => exact ⟨ih (by simp), hdims⟩
  | array _ hdim ih =>
    refine ih fun d hd => ?_
    rcases List.mem_append.mp hd with hd | hd
    · exact hdims d hd
    · rw [List.mem_singleton.mp hd]
      exact TypeExpr.isDim_bytes hdim

theorem ofText_text (h : t.IsPlain) : TypeExpr.ofText t.text = .ok (t.expression []) := by
  have hbytes : Text.bytes t.text = (t.expression []).text := h.bytes_describe Text.bytes_empty
  have hwellFormed : (t.expression []).WellFormed := h.wellFormed_expression (by simp)
  simp only [TypeExpr.ofText, hbytes, hwellFormed.parse_text]

/-- The dimensions of the type follow those around it, from outside in. -/
theorem dimensions_expression (h : t.IsPlain) : (t.expression dims).dimensions = dims ++ t.arrayShape.2.map Text.bytes := by
  induction h generalizing dims with
  | scalar | string | vector => simp [expression, TypeExpr.dimensions, arrayShape]
  | array _ _ ih => simp [expression, arrayShape, ih]

end IsPlain

end WireType

namespace Schema.Scope

theorem builtIn?_scalar {s : Scalar} (h : s.isKnown = true) : builtIn? s.name = some (.scalar s) := by
  simp only [builtIn?, Scalar.ofName?_name h]

theorem builtIn?_string : builtIn? "string" = some .string := by
  have hscalar : Scalar.ofName? "string" = none := by decide +kernel
  simp [builtIn?, hscalar]

theorem lookup_of_builtIn (s : Scope) {name : String} {t : WireType} (h : builtIn? name = some t) (fuel : Nat) (chain path : List String) :
    s.lookup fuel chain path name = pure t := by
  unfold lookup
  simp only [h]

/-- A dimension inside all others belongs to the base. -/
theorem arrays_append_singleton (t : WireType) (dims : List Bytes) (dim : String) :
    build.arrays t (dims ++ [Text.bytes dim]) = build.arrays (.array t dim) dims := by
  simp only [build.arrays, List.foldr_append, List.foldr_cons, List.foldr_nil, Text.ofBytes?_bytes, Option.getD_some]

/-- Building the expression of a plain type gives the type, whatever names that are not built in stand for. -/
theorem build_expression {look : String → Resolving WireType} (hlook : ∀ name t, builtIn? name = some t → look name = pure t) {t : WireType}
    (h : t.IsPlain) (dims : List Bytes) : build look (t.expression dims) = pure (build.arrays t dims) := by
  induction h generalizing dims with
  | scalar hs =>
    simp only [WireType.expression, build, Text.ofBytes?_bytes, Option.getD_some, hlook _ _ (builtIn?_scalar hs), pure_bind]
  | string =>
    simp only [WireType.expression, build, Text.ofBytes?_bytes, Option.getD_some, hlook _ _ builtIn?_string, pure_bind]
  | @vector elem _ harray ih =>
    have helem : build look (elem.expression []) = pure elem := ih []
    have hkind : (elem.kind? == some .array) = false := by simpa using harray
    simp only [WireType.expression, build, helem, pure_bind, hkind, Bool.false_eq_true, if_false]
  | array _ _ ih => rw [WireType.expression, ih, arrays_append_singleton]

end Schema.Scope

/-- The text of a plain type is resolved to that type, in every document and inside any declarations, and it is read with the dimensions of the
type in their order. -/
theorem text_resolves_back (t : WireType) (h : t.IsPlain) :
    (∀ (s : Schema.Scope) (fuel : Nat) (chain path : List String), Schema.Scope.typeAt (s.lookup fuel chain) path t.text = pure t) ∧
      ∃ e, TypeExpr.ofText t.text = .ok e ∧ e.dimensions = t.arrayShape.2.map Text.bytes := by
  refine ⟨fun s fuel chain path => ?_, t.expression [], h.ofText_text, h.dimensions_expression⟩
  rw [Schema.Scope.typeAt, h.ofText_text]
  exact Schema.Scope.build_expression (fun name u hu => s.lookup_of_builtIn hu fuel chain path) h []

/-- Two dimensions around a vector of vectors; the inner one is no expression, opens a bracket and goes beyond ASCII. -/
theorem text_resolves_back_nested :
    let t : WireType := .array (.array (.vector (.vector (.scalar .float))) "é[<") "kMax * 2 + 1"
    t.IsPlain ∧ t.text = "vec<vec<float>>[kMax * 2 + 1][é[<]" ∧
      ∀ (s : Schema.Scope) (path : List String), Schema.Scope.typeAt s.typeOf path "vec<vec<float>>[kMax * 2 + 1][é[<]" = pure t := by
  intro t
  have hplain : t.IsPlain :=
    .array (.array (.vector (.vector (.scalar rfl) (by decide)) (by decide)) ⟨⟨'é', by decide⟩, by decide +kernel, by decide⟩)
      ⟨⟨'k', by decide⟩, by decide +kernel, by decide⟩
  have htext : t.text = "vec<vec<float>>[kMax * 2 + 1][é[<]" := by decide +kernel
  refine ⟨hplain, htext, fun s path => ?_⟩
  rw [← htext]
  exact (text_resolves_back t hplain).1 s s.decls.length [] path

end Parcelgen
