import Mathlib.Data.List.TakeWhile
import Parcelgen.Proofs.Text.Bytes
import Parcelgen.Text.Letter
import Parcelgen.TypeExpr.Parse

/-!
The grammar of type expressions, and that reading accepts exactly its texts:

    expr := gap base { gap "[" dim "]" }
    base := name | "vec" gap "<" expr gap ">"

A text is an expression and a gap. What follows an expression can neither go on with its last name nor be taken for a dimension or for the
bracket of a vector (`Stops`); that is why reading as far as possible at every step never takes too much.
-/

namespace Parcelgen

open Text (Bytes)

namespace TypeExpr

/-- Spaces and tabs, or nothing. -/
def IsGap (s : Bytes) : Prop := ∀ b ∈ s, b = 0x20 ∨ b = 0x09

/-- The byte as a character. -/
def character (b : UInt8) : Char := Char.ofNat b.toNat

/-- An underscore or letter, and then underscores, letters and digits. -/
def IsName (s : Bytes) : Prop :=
  ∃ first rest, s = first :: rest ∧ (first = 0x5f ∨ Text.isLetter (character first) = true) ∧
    ∀ b ∈ rest, b = 0x5f ∨ Text.isLetter (character b) = true ∨ Text.isDigit (character b) = true

/-- White space, or nothing. -/
def IsBlank (s : Bytes) : Prop := ∀ m ∈ Text.marks s, isBlankMark m = true

/-- Dimensions behind a base, each without the blanks around it. -/
inductive Dims : Bytes → List Bytes → Prop
  | nil : Dims [] []
  | cons {gap dim rest dims} : IsGap gap → 0x5d ∉ dim → ¬ IsBlank dim → Dims rest dims →
      Dims (gap ++ 0x5b :: (dim ++ 0x5d :: rest)) (trim dim :: dims)

inductive Expr : Bytes → TypeExpr → Prop
  | name {gap ident suffix dims} : IsGap gap → IsName ident → Dims suffix dims → Expr (gap ++ (ident ++ suffix)) (.name ident dims)
  | vector {gap gap' inner gap'' suffix elem dims} : IsGap gap → IsGap gap' → Expr inner elem → IsGap gap'' → Dims suffix dims →
      Expr (gap ++ (Text.bytes "vec" ++ (gap' ++ 0x3c :: (inner ++ (gap'' ++ 0x3e :: suffix))))) (.vector elem dims)

/-- The whole text is the expression. -/
def Derives (src : Bytes) (e : TypeExpr) : Prop := ∃ body gap, src = body ++ gap ∧ Expr body e ∧ IsGap gap

theorem toNat_character (b : UInt8) : (character b).toNat = b.toNat := by
  have hall : ∀ n : Fin 256, (Char.ofNat n.val).toNat = n.val := by decide +kernel
  exact hall b.toFin

/-- Spans that begin beyond all bytes contain none. -/
theorem any_contains_byte {spans : List Text.Span} (h : ∀ s ∈ spans, 0x100 ≤ s.first) (b : UInt8) :
    spans.any (·.contains b.toNat) = false := by
  rw [List.any_eq_false]
  intro s hs hcontains
  have hfirst := h s hs
  have hb := b.toNat_lt
  simp only [Text.Span.contains, Bool.and_eq_true, decide_eq_true_eq] at hcontains
  omega

theorem isLetter_character (b : UInt8) : Text.isLetter (character b) = isLetterByte b := by
  -- only the first spans of the table are about bytes
  have hlatin : ∀ n : Fin 256, (if n.val < 0x80 then (Char.ofNat n.val).isAlpha else (Text.letterSpans.take 6).any (·.contains n.val)) =
      isLetterByte (UInt8.ofFin n) := by decide +kernel
  have hbeyond : ∀ s ∈ Text.letterSpans.drop 6, 0x100 ≤ s.first := by decide +kernel
  have hany : Text.letterSpans.any (·.contains b.toNat) = (Text.letterSpans.take 6).any (·.contains b.toNat) := by
    rw [← List.take_append_drop 6 Text.letterSpans, List.any_append, any_contains_byte hbeyond, Bool.or_false,
      List.take_append_drop]
  rw [Text.isLetter, toNat_character, hany]
  exact hlatin b.toFin

theorem isDigit_character (b : UInt8) : Text.isDigit (character b) = isDigitByte b := by
  have hascii : ∀ n : Fin 256, (if n.val < 0x80 then (Char.ofNat n.val).isDigit else false) = isDigitByte (UInt8.ofFin n) := by
    decide +kernel
  have hbeyond : ∀ s ∈ Text.digitSpans, 0x100 ≤ s.first := by decide +kernel
  rw [Text.isDigit, toNat_character, any_contains_byte hbeyond]
  exact hascii b.toFin

theorem startsName_iff (b : UInt8) : startsName b = true ↔ b = 0x5f ∨ Text.isLetter (character b) = true := by
  rw [startsName, isLetter_character, Bool.or_eq_true, beq_iff_eq]

theorem continuesName_iff (b : UInt8) :
    continuesName b = true ↔ b = 0x5f ∨ Text.isLetter (character b) = true ∨ Text.isDigit (character b) = true := by
  rw [continuesName, Bool.or_eq_true, startsName_iff, isDigit_character, or_assoc]

theorem isGap_iff (b : UInt8) : isGap b = true ↔ b = 0x20 ∨ b = 0x09 := by simp [isGap]

/-- Names and gaps have no byte in common. -/
theorem not_isGap_of_continuesName {b : UInt8} (h : continuesName b = true) : isGap b = false := by
  have hall : ∀ n : Fin 256, continuesName (UInt8.ofFin n) = true → isGap (UInt8.ofFin n) = false := by decide +kernel
  exact hall b.toFin h

theorem isName_iff (s : Bytes) : IsName s ↔ ∃ first rest, s = first :: rest ∧ startsName first = true ∧ rest.all continuesName = true := by
  simp only [IsName, startsName_iff, List.all_eq_true, continuesName_iff]

theorem isGap_all (s : Bytes) : IsGap s ↔ s.all isGap = true := by
  simp only [IsGap, List.all_eq_true, isGap_iff]

theorem IsGap.append {s t : Bytes} (hs : IsGap s) (ht : IsGap t) : IsGap (s ++ t) := by
  intro b hb
  rcases List.mem_append.mp hb with hb | hb
  · exact hs b hb
  · exact ht b hb

theorem not_of_dropWhile {α : Type} {p : α → Bool} {s rest : List α} {a : α} (h : s.dropWhile p = a :: rest) : p a = false := by
  have hhead := List.head?_dropWhile_not p s
  rw [h] at hhead
  simpa using hhead

theorem skipGap_split (s : Bytes) : ∃ gap, s = gap ++ skipGap s ∧ IsGap gap :=
  ⟨s.takeWhile isGap, List.takeWhile_append_dropWhile.symm, (isGap_all _).mpr List.all_takeWhile⟩

theorem skipGap_append {gap : Bytes} (h : IsGap gap) (s : Bytes) : skipGap (gap ++ s) = skipGap s := by
  rw [isGap_all, List.all_eq_true] at h
  exact List.dropWhile_append_of_pos h

theorem skipGap_cons {b : UInt8} (h : isGap b = false) (s : Bytes) : skipGap (b :: s) = b :: s := by
  simp [skipGap, h]

theorem skipGap_skipGap (s : Bytes) : skipGap (skipGap s) = skipGap s := by
  cases h : skipGap s with
  | nil => rfl
  | cons b bs => exact skipGap_cons (not_of_dropWhile h) bs

theorem dims_skipGap (s : Bytes) : dims (skipGap s) = dims s := by
  rw [dims, dims]
  have h := skipGap_skipGap s
  generalize skipGap (skipGap s) = t at h
  subst h
  rfl

theorem ident?_eq_some {s name rest : Bytes} (h : ident? s = some (name, rest)) : s = name ++ rest ∧ IsName name := by
  cases s with
  | nil => simp [ident?] at h
  | cons b bs =>
    simp only [ident?] at h
    split at h
    · rename_i hb
      simp only [Option.some.injEq, Prod.mk.injEq] at h
      obtain ⟨rfl, rfl⟩ := h
      refine ⟨by simp, (isName_iff _).mpr ⟨b, _, rfl, hb, List.all_takeWhile⟩⟩
    · cases h

theorem untilBracket?_eq_some {s dim rest : Bytes} (h : untilBracket? s = some (dim, rest)) : s = dim ++ 0x5d :: rest ∧ 0x5d ∉ dim := by
  induction s generalizing dim with
  | nil => simp [untilBracket?] at h
  | cons b bs ih =>
    rw [untilBracket?] at h
    split at h
    · rename_i hb
      rw [beq_iff_eq] at hb
      cases h
      exact ⟨by simp [hb], by simp⟩
    · rename_i hb
      rw [beq_iff_eq] at hb
      obtain ⟨⟨dim', rest'⟩, hbs, heq⟩ := Option.map_eq_some_iff.mp h
      cases heq
      obtain ⟨hbs, hdim⟩ := ih hbs
      exact ⟨by simp [hbs], by simp [hdim, Ne.symm hb]⟩

theorem bind_eq_ok {ε α β : Type} {x : Except ε α} {f : α → Except ε β} {b : β} (h : (x >>= f) = .ok b) : ∃ a, x = .ok a ∧ f a = .ok b := by
  cases x with
  | error e => cases h
  | ok a => exact ⟨a, rfl, h⟩

theorem length_bytes (s : String) : (Text.bytes s).length = s.utf8ByteSize := by
  rw [Text.bytes_eq_data]
  rfl

theorem bytes_ne_nil (m : Text.Mark) : m.bytes ≠ [] := by
  cases m with
  | stray b => simp [Text.Mark.bytes]
  | char c =>
    intro h
    have hlength : c.toString.utf8ByteSize = 0 := by
      rw [← length_bytes]
      exact List.length_eq_zero_iff.mpr h
    rw [Char.toString, String.utf8ByteSize_singleton] at hlength
    exact absurd c.utf8Size_pos (by omega)

/-- Trimming leaves nothing of blank text only. -/
theorem isEmpty_trim (dim : Bytes) : (trim dim).isEmpty = true ↔ IsBlank dim := by
  have hmarks : (trim dim).isEmpty = true ↔ ∀ m ∈ (Text.marks dim).dropWhile isBlankMark, isBlankMark m = true := by
    rw [List.isEmpty_iff, trim, List.flatMap_eq_nil_iff]
    simp only [bytes_ne_nil, imp_false, ← List.eq_nil_iff_forall_not_mem, List.dropWhile_eq_nil_iff, List.mem_reverse]
  rw [hmarks]
  constructor
  · intro h
    cases hrest : (Text.marks dim).dropWhile isBlankMark with
    | nil => exact List.dropWhile_eq_nil_iff.mp hrest
    | cons m ms =>
      -- What stands first behind the blanks is not blank itself.
      rw [hrest] at h
      have hm := h m (by simp)
      rw [not_of_dropWhile hrest] at hm
      cases hm
  · intro h m hm
    exact h m ((List.dropWhile_sublist _).subset hm)

theorem dims_sound {s : Bytes} {ds : List Bytes} {rest : Bytes} (h : dims s = .ok (ds, rest)) :
    ∃ suffix gap, s = suffix ++ (gap ++ rest) ∧ Dims suffix ds ∧ IsGap gap := by
  fun_induction dims s generalizing ds rest with
  | case1 s hs =>
    cases h
    obtain ⟨gap, hgap, hisGap⟩ := skipGap_split s
    rw [hs] at hgap
    exact ⟨[], gap, hgap, .nil, hisGap⟩
  | case2 => cases h
  | case3 => cases h
  | case4 s b bs hs hb dim rest' hdim hblank ih =>
    obtain ⟨⟨more, last⟩, hmore, heq⟩ := bind_eq_ok h
    cases heq
    obtain ⟨gap, hgap, hisGap⟩ := skipGap_split s
    obtain ⟨hbs, hbracket⟩ := untilBracket?_eq_some hdim
    obtain ⟨suffix, gap', hrest', hsuffix, hgap'⟩ := ih hmore
    rw [isEmpty_trim] at hblank
    refine ⟨gap ++ 0x5b :: (dim ++ 0x5d :: suffix), gap', ?_, .cons hisGap hbracket hblank hsuffix, hgap'⟩
    rw [hgap, hs, hbs, hrest', beq_iff_eq.mp hb]
    simp
  | case5 s b bs hs hb =>
    cases h
    obtain ⟨gap, hgap, hisGap⟩ := skipGap_split s
    rw [hs] at hgap
    exact ⟨[], gap, hgap, .nil, hisGap⟩

theorem expr_sound {s : Bytes} {e : TypeExpr} {rest : Bytes} (h : expr s = .ok (e, rest)) :
    ∃ body gap, s = body ++ (gap ++ rest) ∧ Expr body e ∧ IsGap gap := by
  fun_induction expr s generalizing e rest with
  | case1 => cases h
  | case2 s ident after hident b inner hafter hvec ih =>
    rw [Bool.and_eq_true, beq_iff_eq, beq_iff_eq] at hvec
    obtain ⟨rfl, rfl⟩ := hvec
    obtain ⟨⟨elem, afterElem⟩, helem, h⟩ := bind_eq_ok h
    dsimp only at h
    split at h
    · rename_i afterClose hclose
      obtain ⟨⟨ds, last⟩, hdims, heq⟩ := bind_eq_ok h
      cases heq
      obtain ⟨gap, hgap, hisGap⟩ := skipGap_split s
      obtain ⟨hname, -⟩ := ident?_eq_some hident
      obtain ⟨gap', hgap', hisGap'⟩ := skipGap_split after
      obtain ⟨body, before, hinner, hbody, hbefore⟩ := ih helem
      obtain ⟨gap'', hgap'', hisGap''⟩ := skipGap_split afterElem
      obtain ⟨suffix, behind, hsuffix, hdims, hbehind⟩ := dims_sound hdims
      refine ⟨gap ++ (Text.bytes "vec" ++ (gap' ++ 0x3c :: (body ++ ((before ++ gap'') ++ 0x3e :: suffix)))), behind, ?_,
        .vector hisGap hisGap' hbody (hbefore.append hisGap'') hdims, hbehind⟩
      rw [hgap, hname, hgap', hafter, hinner, hgap'', hclose, hsuffix]
      simp
    · cases h
  | case3 s ident after hident b inner hafter hvec =>
    obtain ⟨⟨ds, last⟩, hdims, heq⟩ := bind_eq_ok h
    cases heq
    rw [← hafter, dims_skipGap] at hdims
    obtain ⟨gap, hgap, hisGap⟩ := skipGap_split s
    obtain ⟨hname, hisName⟩ := ident?_eq_some hident
    obtain ⟨suffix, gap', hsuffix, hdims, hgap'⟩ := dims_sound hdims
    refine ⟨gap ++ (ident ++ suffix), gap', ?_, .name hisGap hisName hdims, hgap'⟩
    rw [hgap, hname, hsuffix]
    simp
  | case4 s ident after hident hafter =>
    cases h
    obtain ⟨gap, hgap, hisGap⟩ := skipGap_split s
    obtain ⟨hname, hisName⟩ := ident?_eq_some hident
    obtain ⟨gap', hgap', hisGap'⟩ := skipGap_split after
    refine ⟨gap ++ (ident ++ []), gap', ?_, .name hisGap hisName .nil, hisGap'⟩
    rw [hgap, hname, hgap', hafter]
    simp

/-- What may follow an expression. -/
structure Stops (rest : Bytes) : Prop where
  name : ∀ b ∈ rest.head?, continuesName b = false
  dim : (skipGap rest).head? ≠ some 0x5b
  vector : (skipGap rest).head? ≠ some 0x3c

theorem ident?_append {name rest : Bytes} (hname : IsName name) (hrest : ∀ b ∈ rest.head?, continuesName b = false) :
    ident? (name ++ rest) = some (name, rest) := by
  obtain ⟨first, more, rfl, hfirst, hmore⟩ := (isName_iff name).mp hname
  rw [List.all_eq_true] at hmore
  have htake : rest.takeWhile continuesName = [] := by
    cases rest with
    | nil => rfl
    | cons b bs => simp [hrest b (by simp)]
  have hdrop : rest.dropWhile continuesName = rest := by
    cases rest with
    | nil => rfl
    | cons b bs => simp [hrest b (by simp)]
  rw [List.cons_append, ident?, if_pos hfirst, List.takeWhile_append_of_pos hmore, List.dropWhile_append_of_pos hmore, htake, hdrop,
    List.append_nil]

theorem untilBracket?_append {dim : Bytes} (h : 0x5d ∉ dim) (rest : Bytes) : untilBracket? (dim ++ 0x5d :: rest) = some (dim, rest) := by
  induction dim with
  | nil => rfl
  | cons b bs ih =>
    obtain ⟨hb, hbs⟩ := not_or.mp (mt List.mem_cons.mpr h)
    rw [List.cons_append, untilBracket?, if_neg (by simpa using Ne.symm hb), ih hbs]
    rfl

theorem dims_stop {s : Bytes} (h : (skipGap s).head? ≠ some 0x5b) : dims s = .ok ([], skipGap s) := by
  rw [dims]
  generalize skipGap s = t at h
  cases t with
  | nil => rfl
  | cons b bs =>
    have hb : (b == 0x5b) = false := by simpa using h
    simp [hb]

theorem dims_bracket {s dim rest last : Bytes} {more : List Bytes} (hs : skipGap s = 0x5b :: (dim ++ 0x5d :: rest)) (hdim : 0x5d ∉ dim)
    (hblank : ¬ IsBlank dim) (hmore : dims rest = .ok (more, last)) : dims s = .ok (trim dim :: more, last) := by
  have huntil := untilBracket?_append hdim rest
  have htrim : (trim dim).isEmpty = false := by simpa using mt (isEmpty_trim dim).mp hblank
  rw [dims]
  generalize skipGap s = t at hs
  subst hs
  simp only [beq_self_eq_true, if_true]
  generalize untilBracket? (dim ++ 0x5d :: rest) = u at huntil
  subst huntil
  simp only [htrim, Bool.false_eq_true, if_false, hmore]
  rfl

theorem Dims.read {suffix : Bytes} {ds : List Bytes} (h : Dims suffix ds) {rest : Bytes} (hrest : (skipGap rest).head? ≠ some 0x5b) :
    dims (suffix ++ rest) = .ok (ds, skipGap rest) := by
  induction h with
  | nil => exact dims_stop hrest
  | @cons gap dim after ds hgap hdim hblank _ ih =>
    refine dims_bracket ?_ hdim hblank ih
    rw [List.append_assoc, skipGap_append hgap, List.cons_append, skipGap_cons (by decide), List.append_assoc, List.cons_append]

theorem expr_name {s ident rest last : Bytes} {ds : List Bytes} (hident : ident? (skipGap s) = some (ident, rest))
    (hrest : (skipGap rest).head? ≠ some 0x3c) (hdims : dims rest = .ok (ds, last)) : expr s = .ok (.name ident ds, last) := by
  rw [← dims_skipGap] at hdims
  rw [expr]
  generalize ident? (skipGap s) = i at hident
  subst hident
  simp only
  generalize skipGap rest = t at hrest hdims
  cases t with
  | nil =>
    rw [dims_stop (by simp [skipGap])] at hdims
    cases hdims
    rfl
  | cons b bs =>
    have hb : (b == 0x3c) = false := by simpa using hrest
    simp only [hb, Bool.and_false, Bool.false_eq_true, if_false, hdims]
    rfl

theorem expr_vector {s rest inner after suffix last : Bytes} {elem : TypeExpr} {ds : List Bytes}
    (hident : ident? (skipGap s) = some (Text.bytes "vec", rest)) (hrest : skipGap rest = 0x3c :: inner)
    (helem : expr inner = .ok (elem, after)) (hafter : skipGap after = 0x3e :: suffix) (hdims : dims suffix = .ok (ds, last)) :
    expr s = .ok (.vector elem ds, last) := by
  rw [expr]
  generalize ident? (skipGap s) = i at hident
  subst hident
  simp only
  generalize skipGap rest = t at hrest
  subst hrest
  simp only [beq_self_eq_true, Bool.and_true, if_true, helem]
  simp only [bind, Except.bind, hafter, hdims]
  rfl

theorem head_of_gap {gap : Bytes} (hgap : IsGap gap) {rest : Bytes} (hrest : ∀ b ∈ rest.head?, continuesName b = false) :
    ∀ b ∈ (gap ++ rest).head?, continuesName b = false := by
  cases gap with
  | nil => exact hrest
  | cons g gs =>
    intro b hb
    obtain rfl : g = b := by simpa using hb
    have hg : isGap g = true := (isGap_iff g).mpr (hgap g (by simp))
    by_contra hname
    rw [not_isGap_of_continuesName (by simpa using hname)] at hg
    cases hg

theorem skipGap_of_gap {gap : Bytes} (hgap : IsGap gap) {b : UInt8} (hb : isGap b = false) (rest : Bytes) :
    skipGap (gap ++ b :: rest) = b :: rest := by
  rw [skipGap_append hgap, skipGap_cons hb]

theorem skipGap_gap {gap : Bytes} (hgap : IsGap gap) : skipGap gap = [] := by
  have happend := skipGap_append hgap []
  rwa [List.append_nil] at happend

/-- The end of the text may follow an expression. -/
theorem stops_gap {gap : Bytes} (hgap : IsGap gap) : Stops gap := by
  have hskip := skipGap_gap hgap
  have hhead : ∀ b ∈ (gap ++ []).head?, continuesName b = false := head_of_gap hgap (by simp)
  rw [List.append_nil] at hhead
  exact ⟨hhead, by simp [hskip], by simp [hskip]⟩

/-- So may the closing bracket of a vector. -/
theorem stops_close {gap : Bytes} (hgap : IsGap gap) (rest : Bytes) : Stops (gap ++ 0x3e :: rest) := by
  have hskip : skipGap (gap ++ 0x3e :: rest) = 0x3e :: rest := skipGap_of_gap hgap (by decide) rest
  refine ⟨head_of_gap hgap ?_, ?_, ?_⟩
  · simp only [List.head?_cons, Option.mem_some_iff, forall_eq']
    decide +kernel
  · rw [hskip]
    simp
  · rw [hskip]
    simp

/-- What may follow an expression may follow a name, with dimensions in between or without. -/
theorem Dims.stops {suffix : Bytes} {ds : List Bytes} (h : Dims suffix ds) {rest : Bytes} (hrest : Stops rest) :
    (∀ b ∈ (suffix ++ rest).head?, continuesName b = false) ∧ (skipGap (suffix ++ rest)).head? ≠ some 0x3c := by
  cases h with
  | nil => exact ⟨hrest.name, hrest.vector⟩
  | cons hgap _ _ _ =>
    rw [List.append_assoc, List.cons_append, skipGap_of_gap hgap (by decide)]
    refine ⟨head_of_gap hgap ?_, by simp⟩
    simp only [List.head?_cons, Option.mem_some_iff, forall_eq']
    decide +kernel

theorem IsName.skipGap_append {name : Bytes} (h : IsName name) (rest : Bytes) : skipGap (name ++ rest) = name ++ rest := by
  obtain ⟨first, more, rfl, hfirst, -⟩ := (isName_iff name).mp h
  exact skipGap_cons (not_isGap_of_continuesName (by simp [continuesName, hfirst])) _

theorem isName_vec : IsName (Text.bytes "vec") := by
  rw [isName_iff]
  exact ⟨0x76, [0x65, 0x63], by decide +kernel, by decide +kernel, by decide +kernel⟩

theorem Expr.read {body : Bytes} {e : TypeExpr} (h : Expr body e) {rest : Bytes} (hrest : Stops rest) :
    expr (body ++ rest) = .ok (e, skipGap rest) := by
  induction h generalizing rest with
  | @name gap ident suffix dims hgap hname hdims =>
    obtain ⟨hhead, hvector⟩ := hdims.stops hrest
    refine expr_name ?_ hvector (hdims.read hrest.dim)
    rw [List.append_assoc, List.append_assoc, TypeExpr.skipGap_append hgap, hname.skipGap_append]
    exact ident?_append hname hhead
  | @vector gap gap' inner gap'' suffix elem dims hgap hgap' _ hgap'' hdims ih =>
    have hskip : skipGap (gap' ++ 0x3c :: (inner ++ (gap'' ++ 0x3e :: (suffix ++ rest)))) =
        0x3c :: (inner ++ (gap'' ++ 0x3e :: (suffix ++ rest))) := skipGap_of_gap hgap' (by decide) _
    have hclose : skipGap (skipGap (gap'' ++ 0x3e :: (suffix ++ rest))) = 0x3e :: (suffix ++ rest) := by
      rw [skipGap_skipGap, skipGap_of_gap hgap'' (by decide)]
    refine expr_vector ?_ hskip (ih (stops_close hgap'' _)) hclose (hdims.read hrest.dim)
    simp only [List.append_assoc, List.cons_append]
    rw [TypeExpr.skipGap_append hgap, isName_vec.skipGap_append]
    refine ident?_append isName_vec (head_of_gap hgap' ?_)
    simp only [List.head?_cons, Option.mem_some_iff, forall_eq']
    decide +kernel

theorem derives_of_parse {src : Bytes} {e : TypeExpr} (h : parse src = .ok e) : Derives src e := by
  obtain ⟨⟨e', rest⟩, hexpr, h⟩ := bind_eq_ok h
  dsimp only at h
  split at h
  · rename_i hrest
    cases h
    obtain ⟨body, gap, hsrc, hbody, hgap⟩ := expr_sound hexpr
    obtain ⟨gap', hgap', hisGap'⟩ := skipGap_split rest
    rw [hrest, List.append_nil] at hgap'
    exact ⟨body, gap ++ rest, hsrc, hbody, hgap.append (hgap' ▸ hisGap')⟩
  · cases h

theorem parse_of_derives {src : Bytes} {e : TypeExpr} (h : Derives src e) : parse src = .ok e := by
  obtain ⟨body, gap, rfl, hbody, hgap⟩ := h
  rw [parse, hbody.read (stops_gap hgap), skipGap_gap hgap]
  rfl

/-- Reading accepts exactly the texts of the grammar: every text is read to its one expression, or refused because it has none. -/
theorem parse_exact (src : Bytes) :
    (∀ e, parse src = .ok e ↔ Derives src e) ∧ (∀ e e', Derives src e → Derives src e' → e = e') ∧
      ((∃ f, parse src = .error f) ↔ ¬ ∃ e, Derives src e) := by
  have hiff : ∀ e, parse src = .ok e ↔ Derives src e := fun e => ⟨derives_of_parse, parse_of_derives⟩
  refine ⟨hiff, ?_, ?_⟩
  · intro e e' he he'
    rw [← hiff] at he he'
    exact Except.ok.inj (he.symm.trans he')
  · cases hparse : parse src with
    | ok e =>
      have he := (hiff e).mp hparse
      simp only [reduceCtorEq, exists_false, false_iff, not_not]
      exact ⟨e, he⟩
    | error f =>
      simp only [Except.error.injEq, exists_eq', true_iff]
      rintro ⟨e, he⟩
      rw [← hiff, hparse] at he
      cases he

/-- A vector of arrays of a type that is named like a vector, and a text with something left over. -/
theorem parse_exact_vec :
    let src := Text.bytes " vec\t< vec[ n>[k ] >[2] "
    let e : TypeExpr := .vector (.name (Text.bytes "vec") [Text.bytes "n>[k"]) [Text.bytes "2"]
    Derives src e ∧ (∀ e', Derives src e' → e' = e) ∧ ¬ ∃ e', Derives (Text.bytes "vec extra") e' := by
  intro src e
  have hparse : parse src = .ok e := by decide +kernel
  have hextra : ∃ f, parse (Text.bytes "vec extra") = .error f := ⟨⟨.unexpected, Text.bytes "extra"⟩, by decide +kernel⟩
  obtain ⟨hiff, hunique, -⟩ := parse_exact src
  have hderives : Derives src e := (hiff e).mp hparse
  exact ⟨hderives, fun e' he' => hunique e' e he' hderives, (parse_exact _).2.2.mp hextra⟩

end TypeExpr

end Parcelgen
