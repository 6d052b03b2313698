import Parcelgen.Proofs.Marshal.Arithmetic
import Parcelgen.Proofs.Marshal.Transfer
import Parcelgen.TypeExpr.Parse

/-!
The byte count of an array that is written as one block. Its text is the dimension, as it stands, times the size of an element. So the size
multiplies only the last product of the dimension, and what stands in front of it, up to the last plus or minus outside of parentheses, is
counted in bytes and not in elements (`Site.array_byte_count_iff`).
-/

namespace Parcelgen

open Naming

/-! Block writes -/

namespace Stmt

mutual

/-- How many bytes the block writes in a statement move, in their order. -/
def blockWrite : Stmt → List Extent
  | .transfer _ (.writeBlock _ extent _) => [extent]
  | .block _ body _ | .loop _ _ body | .callback _ body | .within _ body => blockWrites body
  | .choice _ yes no => blockWrites yes ++ blockWrites no
  | .transfer _ _ | .blank | .code _ | .declare _ _ _ | .embedded _ | .check _ | .unwind _ | .label | .leave | .leaveCase | .fail _ | .note _ => []

def blockWrites : List Stmt → List Extent
  | [] => []
  | s :: ss => blockWrite s ++ blockWrites ss

end

@[simp] theorem blockWrites_append (as bs : List Stmt) : blockWrites (as ++ bs) = blockWrites as ++ blockWrites bs := by
  induction as with
  | nil => rfl
  | cons a as ih => simp only [List.cons_append, blockWrites, ih, List.append_assoc]

end Stmt

namespace Site

theorem elementLoop_blockWrites (site : Site) (whole elem : WireType) (depth : Nat) (bound : Bound)
    (body : String → ByteSize → Naming (List Stmt)) (s : Option NameScope)
    (hbody : ∀ index size s, Stmt.blockWrites (out (body index size) s) = []) :
    Stmt.blockWrites (out (site.elementLoop whole elem depth bound body) s) = [] := by
  unfold elementLoop
  cases elem.byteSize site.dialect with
  | error f => rfl
  | ok size => by_cases he : site.mode = .exit <;> simp [he, Stmt.blockWrites, Stmt.blockWrite, hbody]

mutual

/-- Embedded content is never written as a block. -/
theorem walk_blockWrites (site : Site) : ∀ (t : WireType) (depth : Nat) (place : Place) (parent : String) (offset : Offset)
    (s : Option NameScope), Stmt.blockWrites (out (site.walk t depth place parent offset) s) = []
  | .string, _, place, parent, offset, s => by simp [walk, embeddedString, Stmt.blockWrites, Stmt.blockWrite]
  | .interface name, _, place, parent, offset, s => by
    cases hr : site.reader <;> simp [walk, embeddedBinder, hr, Stmt.blockWrites, Stmt.blockWrite]
  | .struct name fields, depth, place, parent, offset, s => by
    simpa only [walk] using site.walkMembers_blockWrites name fields depth place parent offset s
  | .array elem dim, depth, place, parent, offset, s => by
    cases he : elem.isEmbedded with
    | false => simp [walk, he, Stmt.blockWrites]
    | true =>
      simp only [walk, he, if_true]
      exact site.elementLoop_blockWrites _ _ _ _ _ _ fun index size s => walk_blockWrites site elem _ _ _ _ s
  | .vector elem, depth, place, parent, offset, s => by
    simp only [walk]
    cases (WireType.vector elem).spell site.dialect .stack with
    | error f => simp [Stmt.blockWrites, Stmt.blockWrite]
    | ok spelling =>
      cases he : elem.isEmbedded with
      | false => simp [embeddedVector, Stmt.handle, Stmt.blockWrites, Stmt.blockWrite]
      | true =>
        have hloop := fun child s => site.elementLoop_blockWrites (.vector elem) elem depth (.elementsOf place.vector)
          (fun index size => site.walk elem (depth + 1) (Place.element place.vector index) child
            { base := "0", terms := [.element index size] }) s
          fun index size s => walk_blockWrites site elem _ _ _ _ s
        simp [embeddedVector, Stmt.handle, Stmt.blockWrites, Stmt.blockWrite, hloop]
  | .absent, _, _, _, _, _ | .scalar _, _, _, _, _, _ | .enum _ _ _, _, _, _, _, _ => by simp [walk, Stmt.blockWrites]

theorem walkMembers_blockWrites (site : Site) (name : String) : ∀ (fields : List (String × WireType)) (depth : Nat) (place : Place)
    (parent : String) (offset : Offset) (s : Option NameScope),
    Stmt.blockWrites (out (site.walkMembers name fields depth place parent offset) s) = []
  | [], _, _, _, _, _ => by simp [walkMembers, Stmt.blockWrites]
  | (field, t) :: rest, depth, place, parent, offset, s => by
    cases he : t.isEmbedded with
    | false => simp [walkMembers, he, walkMembers_blockWrites site name rest]
    | true =>
      simp [walkMembers, he, Stmt.blockWrites, Stmt.blockWrite, walkMembers_blockWrites site name rest, walk_blockWrites site t]

end

/-- A writer moves an array as one block. -/
theorem topLevel_blockWrites {site : Site} (hwriter : site.reader = false) {elem : WireType} {dim name : String} (hname : name ≠ "")
    {spelling : Spelling} (hspelling : elem.spell site.dialect .stack = .ok spelling) (hsuffix : spelling.suffix = "")
    (hmissing : (WireType.array elem dim).missing? = none) (s : Option NameScope) :
    Stmt.blockWrites (out (site.topLevel (.array elem dim) name) s) = [.elements dim spelling.name] := by
  unfold topLevel
  rw [if_neg (by simpa using hname), hmissing]
  dsimp only
  unfold array
  rw [hspelling]
  dsimp only
  rw [if_neg (by simp [hsuffix])]
  simp [flatBlock, hwriter, Stmt.handle, Stmt.blockWrites, Stmt.blockWrite, site.walk_blockWrites]

end Site

namespace Arithmetic

/-! The text of a byte count -/

namespace SumExpr

/-- The last product times the size. -/
def sized : SumExpr → SumExpr
  | .one p => .one (.mul p (.operand .size))
  | .add s p => .add s (.mul p (.operand .size))
  | .sub s p => .sub s (.mul p (.operand .size))

/-- The value of what stands in front of the last plus or minus outside of parentheses; zero if there is none. -/
def leading (v : Valuation) : SumExpr → Int
  | .one _ => 0
  | .add s _ => s.value v
  | .sub s _ => s.value v

theorem lexemes_sized (type : String) (s : SumExpr) :
    s.sized.lexemes type = s.lexemes type ++ "*" :: "sizeof" :: "(" :: (Arithmetic.lexemes type ++ [")"]) := by
  cases s <;> simp [sized, SumExpr.lexemes, ProductExpr.lexemes, SignedExpr.lexemes, Operand.lexemes]

theorem spelled_sized (s : SumExpr) : s.sized.spelled = s.spelled := by
  cases s <;> simp [sized, SumExpr.spelled, ProductExpr.spelled, SignedExpr.spelled, Operand.spelled]

/-- The leading part is counted once, whatever the size is. -/
theorem value_sized (v : Valuation) (s : SumExpr) : s.sized.value v = s.leading v + (s.value v - s.leading v) * v.size := by
  cases s with
  | one p => simp [sized, leading, SumExpr.value, ProductExpr.value, SignedExpr.value, Operand.value]
  | add s p =>
    simp only [sized, leading, SumExpr.value, ProductExpr.value, SignedExpr.value, Operand.value]
    have hrest : s.value v + p.value v - s.value v = p.value v := by omega
    rw [hrest]
  | sub s p =>
    simp only [sized, leading, SumExpr.value, ProductExpr.value, SignedExpr.value, Operand.value]
    have hrest : s.value v - p.value v - s.value v = -p.value v := by omega
    rw [hrest, Int.neg_mul, Int.sub_eq_add_neg]

theorem value_sized_iff (v : Valuation) (s : SumExpr) : s.sized.value v = s.value v * v.size ↔ s.leading v = 0 ∨ v.size = 1 := by
  have hdiff : s.sized.value v - s.value v * v.size = s.leading v * (1 - v.size) := by
    rw [s.value_sized v, Int.sub_mul, Int.mul_sub, Int.mul_one]
    omega
  rw [← Int.sub_eq_zero, hdiff, Int.mul_eq_zero]
  omega

end SumExpr

theorem lexemes_elements (dim type : String) :
    lexemes (Extent.elements dim type).text = lexemes dim ++ "*" :: "sizeof" :: "(" :: (lexemes type ++ [")"]) := by
  have htext : (Extent.elements dim type).text.toList =
      dim.toList ++ ' ' :: '*' :: ' ' :: ("sizeof".toList ++ '(' :: (type.toList ++ ')' :: [])) := by
    simp [Extent.text]
  have hblank : ∀ cs, lexemesAfter [] (' ' :: cs) = lexemesAfter [] cs := fun _ => rfl
  unfold lexemes
  rw [htext, lexemesAfter_append (by decide), hblank, lexemesAfter_mark (by decide) (by decide) (by decide), hblank,
    lexemesAfter_append (by decide), lexemesAfter_mark (by decide) (by decide) (by decide), lexemesAfter_append (by decide),
    lexemesAfter_mark (by decide) (by decide) (by decide)]
  rfl

/-- The byte count is read as the dimension with its last product times the size. -/
theorem Reads.elements {type dim : String} {s : SumExpr} (h : Reads type dim s) : Reads type (Extent.elements dim type).text s.sized := by
  constructor
  · rw [lexemes_elements, h.lexemes, s.lexemes_sized]
  · rw [s.spelled_sized, h.spelled]

end Arithmetic

open Arithmetic

/-- A writer moves an array as one block whose byte count has one reading. Where the dimension is read as `e`, that reading has the value of
`e` times the size of an element if and only if the size is one or nothing stands in front of the last plus or minus of `e` outside of
parentheses, or what stands there is zero. -/
theorem Site.array_byte_count_iff (site : Site) (elem : WireType) (dim name : String) (spelling : Spelling) (s : Option NameScope) (e : SumExpr)
    (hwriter : site.reader = false) (hname : name ≠ "") (hspelling : elem.spell site.dialect .stack = .ok spelling)
    (hsuffix : spelling.suffix = "") (hmissing : (WireType.array elem dim).missing? = none) (hdim : Reads spelling.name dim e) :
    ∃ extent count, Stmt.blockWrites (out (site.topLevel (.array elem dim) name) s) = [extent] ∧
      (∀ c, Reads spelling.name extent.text c ↔ c = count) ∧
      ∀ v : Valuation, count.value v = e.value v * v.size ↔ e.leading v = 0 ∨ v.size = 1 := by
  refine ⟨.elements dim spelling.name, e.sized, topLevel_blockWrites hwriter hname hspelling hsuffix hmissing s, fun c => ?_,
    fun v => e.value_sized_iff v⟩
  constructor
  · exact fun hc => hc.unique hdim.elements
  · rintro rfl
    exact hdim.elements

/-- Dimensions without a plus or minus outside of parentheses are never off. -/
theorem Site.array_byte_count_iff_grouped :
    let site : Site := { buffer := { name := "parcel" }, mode := .goto }
    let e : SumExpr := .one (.mul (.one (.operand (.name "kRows")))
      (.operand (.group (.add (.one (.one (.operand (.name "kColumns")))) (.one (.operand (.literal "1")))))))
    Reads "uint32_t" "kRows * (kColumns + 1)" e ∧
      ∃ extent count, Stmt.blockWrites (out (site.topLevel (.array (.scalar .uint32) "kRows * (kColumns + 1)") "x") none) = [extent] ∧
        (∀ c, Reads "uint32_t" extent.text c ↔ c = count) ∧ ∀ v : Valuation, count.value v = e.value v * v.size := by
  intro site e
  have hdim : Reads "uint32_t" "kRows * (kColumns + 1)" e := ⟨by decide, by decide⟩
  obtain ⟨extent, count, hwrites, hreads, hvalue⟩ := site.array_byte_count_iff (.scalar .uint32) "kRows * (kColumns + 1)" "x" ⟨"uint32_t", ""⟩
    none e rfl (by decide) rfl rfl rfl hdim
  exact ⟨hdim, extent, count, hwrites, hreads, fun v => (hvalue v).mpr (.inl rfl)⟩

/-- A dimension that type expressions may have. For three it asks for seven elements of four bytes, and ten bytes are written. -/
theorem Site.array_byte_count_off :
    let site : Site := { buffer := { name := "parcel" }, mode := .goto }
    let v : Valuation := { literal := fun s => if s = "2" then 2 else 1, name := fun _ => 3, size := 4 }
    (TypeExpr.parse (Text.bytes "uint32[kMax * 2 + 1]")).toOption = some (.name (Text.bytes "uint32") [Text.bytes "kMax * 2 + 1"]) ∧
      ∃ e extent count, Reads "uint32_t" "kMax * 2 + 1" e ∧
        Stmt.blockWrites (out (site.topLevel (.array (.scalar .uint32) "kMax * 2 + 1") "x") none) = [extent] ∧
        Reads "uint32_t" extent.text count ∧ e.value v * v.size = 28 ∧ count.value v = 10 := by
  intro site v
  refine ⟨by decide +kernel, ?_⟩
  let e : SumExpr := .add (.one (.mul (.one (.operand (.name "kMax"))) (.operand (.literal "2")))) (.one (.operand (.literal "1")))
  have hdim : Reads "uint32_t" "kMax * 2 + 1" e := ⟨by decide, by decide⟩
  exact ⟨e, .elements "kMax * 2 + 1" "uint32_t", e.sized, hdim, rfl, hdim.elements, by decide, by decide⟩

end Parcelgen
