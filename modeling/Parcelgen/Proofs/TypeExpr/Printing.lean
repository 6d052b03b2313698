import Mathlib.Data.List.DropRight
import Parcelgen.Proofs.Text.Decoding
import Parcelgen.Proofs.TypeExpr.Grammar

/-!
Printing type expressions and reading them are inverse. An expression can be read back from its text exactly when it is well formed: its names
are names, and its dimensions are as reading leaves them, without blanks around them. Trimming is where bytes and characters meet: what is left
of a dimension must read as it did inside the longer text (`marks_trim`), so that trimming it again changes nothing.
-/

namespace Parcelgen

open Text (Bytes)

namespace TypeExpr

theorem trim_eq (dim : Bytes) :
    trim dim = (((Text.marks dim).dropWhile isBlankMark).rdropWhile isBlankMark).flatMap Text.Mark.bytes := rfl

/-- The marks that trimming keeps, between those it takes away. -/
theorem exists_marks_eq (dim : Bytes) :
    ∃ before after, Text.marks dim = before ++ (((Text.marks dim).dropWhile isBlankMark).rdropWhile isBlankMark ++ after) := by
  obtain ⟨after, hafter⟩ := List.rdropWhile_prefix isBlankMark ((Text.marks dim).dropWhile isBlankMark)
  refine ⟨(Text.marks dim).takeWhile isBlankMark, after, ?_⟩
  rw [hafter, List.takeWhile_append_dropWhile]

theorem marks_trim (dim : Bytes) :
    Text.marks (trim dim) = ((Text.marks dim).dropWhile isBlankMark).rdropWhile isBlankMark := by
  obtain ⟨before, after, hmarks⟩ := exists_marks_eq dim
  exact Text.marks_of_infix hmarks

theorem mem_of_mem_trim {dim : Bytes} {b : UInt8} (h : b ∈ trim dim) : b ∈ dim := by
  obtain ⟨before, after, hmarks⟩ := exists_marks_eq dim
  have hbytes := Text.flatMap_bytes_marks dim
  rw [hmarks, List.flatMap_append, List.flatMap_append, ← trim_eq] at hbytes
  rw [← hbytes]
  simp [h]

/-- What is left after trimming does not start with a blank. -/
theorem dropWhile_trimmed (ms : List Text.Mark) :
    ((ms.dropWhile isBlankMark).rdropWhile isBlankMark).dropWhile isBlankMark = (ms.dropWhile isBlankMark).rdropWhile isBlankMark := by
  obtain ⟨after, hafter⟩ := List.rdropWhile_prefix isBlankMark (ms.dropWhile isBlankMark)
  cases hkept : (ms.dropWhile isBlankMark).rdropWhile isBlankMark with
  | nil => rfl
  | cons m kept =>
    rw [hkept, List.cons_append] at hafter
    have hm : isBlankMark m = false := not_of_dropWhile hafter.symm
    simp [hm]

theorem trim_trim (dim : Bytes) : trim (trim dim) = trim dim := by
  rw [trim_eq (trim dim), marks_trim, dropWhile_trimmed, List.rdropWhile_idempotent, ← trim_eq]

/-- Dimension text as it is kept. -/
structure IsDim (dim : Bytes) : Prop where
  notBlank : ¬ IsBlank dim
  trimmed : trim dim = dim
  unclosed : 0x5d ∉ dim

theorem isDim_trim {dim : Bytes} (hblank : ¬ IsBlank dim) (hclose : 0x5d ∉ dim) : IsDim (trim dim) := by
  refine ⟨?_, trim_trim dim, fun h => hclose (mem_of_mem_trim h)⟩
  rwa [← isEmpty_trim, trim_trim, isEmpty_trim]

/-- Every name in the expression is a name, and every dimension is as reading leaves it. -/
def WellFormed : TypeExpr → Prop
  | .name ident dims => IsName ident ∧ ∀ dim ∈ dims, IsDim dim
  | .vector elem dims => elem.WellFormed ∧ ∀ dim ∈ dims, IsDim dim

theorem Dims.isDim {suffix : Bytes} {ds : List Bytes} (h : Dims suffix ds) : ∀ dim ∈ ds, IsDim dim := by
  induction h with
  | nil => simp
  | cons _ hclose hblank _ ih => exact List.forall_mem_cons.mpr ⟨isDim_trim hblank hclose, ih⟩

theorem Expr.wellFormed {body : Bytes} {e : TypeExpr} (h : Expr body e) : e.WellFormed := by
  induction h with
  | name _ hname hdims => exact ⟨hname, hdims.isDim⟩
  | vector _ _ _ _ hdims ih => exact ⟨ih, hdims.isDim⟩

theorem isGap_nil : IsGap [] := by simp [IsGap]

theorem dims_dimText {ds : List Bytes} (h : ∀ dim ∈ ds, IsDim dim) : Dims (dimText ds) ds := by
  induction ds with
  | nil => exact .nil
  | cons dim ds ih =>
    obtain ⟨hdim, hds⟩ := List.forall_mem_cons.mp h
    have hcons : Dims ([] ++ 0x5b :: (dim ++ 0x5d :: dimText ds)) (trim dim :: ds) :=
      .cons isGap_nil hdim.unclosed hdim.notBlank (ih hds)
    have hopen : Text.bytes "[" = [0x5b] := by decide +kernel
    have hclose : Text.bytes "]" = [0x5d] := by decide +kernel
    rw [hdim.trimmed] at hcons
    simpa [dimText, hopen, hclose] using hcons

/-- The text of a well-formed expression is one of its texts in the grammar, the one without gaps. -/
theorem WellFormed.expr_text : ∀ {e : TypeExpr}, e.WellFormed → Expr e.text e
  | .name ident dims, ⟨hname, hdims⟩ => .name isGap_nil hname (dims_dimText hdims)
  | .vector elem dims, ⟨helem, hdims⟩ => by
    have hvector : Expr _ (.vector elem dims) := .vector isGap_nil isGap_nil helem.expr_text isGap_nil (dims_dimText hdims)
    have hopen : Text.bytes "vec<" = Text.bytes "vec" ++ [0x3c] := by decide +kernel
    have hclose : Text.bytes ">" = [0x3e] := by decide +kernel
    simpa [text, hopen, hclose] using hvector

theorem wellFormed_of_parse {src : Bytes} {e : TypeExpr} (h : parse src = .ok e) : e.WellFormed := by
  obtain ⟨body, gap, -, hbody, -⟩ := derives_of_parse h
  exact hbody.wellFormed

theorem WellFormed.parse_text {e : TypeExpr} (h : e.WellFormed) : parse e.text = .ok e :=
  parse_of_derives ⟨e.text, [], (List.append_nil _).symm, h.expr_text, isGap_nil⟩

/-- Whatever was read can be printed and read again, and an expression can be read back from its text exactly when it is well formed. -/
theorem parse_inverts_text :
    (∀ src e, parse src = .ok e → parse e.text = .ok e) ∧ ∀ e : TypeExpr, parse e.text = .ok e ↔ e.WellFormed := by
  refine ⟨?_, ?_⟩
  · intro src e h
    exact (wellFormed_of_parse h).parse_text
  · intro e
    exact ⟨wellFormed_of_parse, WellFormed.parse_text⟩

/-- A type that is named like a vector, brackets inside a dimension, and a dimension that keeps a blank and is not read back. -/
theorem parse_inverts_text_brackets :
    let src := Text.bytes " vec< vec [ <n>[k ] >[\t2 ]"
    let e : TypeExpr := .vector (.name (Text.bytes "vec") [Text.bytes "<n>[k"]) [Text.bytes "2"]
    parse src = .ok e ∧ e.text = Text.bytes "vec<vec[<n>[k]>[2]" ∧ parse e.text = .ok e ∧ e.WellFormed ∧
      ¬ WellFormed (.name (Text.bytes "vec") [Text.bytes "k "]) := by
  intro src e
  have hparse : parse src = .ok e := by decide +kernel
  have hback : parse e.text = .ok e := parse_inverts_text.1 src e hparse
  have hblank : parse (TypeExpr.name (Text.bytes "vec") [Text.bytes "k "]).text ≠ .ok (.name (Text.bytes "vec") [Text.bytes "k "]) := by
    decide +kernel
  exact ⟨hparse, by decide +kernel, hback, (parse_inverts_text.2 e).mp hback, mt (parse_inverts_text.2 _).mpr hblank⟩

end TypeExpr

end Parcelgen
