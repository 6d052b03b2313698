import Parcelgen.Text.Identifier

/-!
Arithmetic in generated code, as a compiler reads it. A text falls into lexemes, each as long as it can be (`lexemes`). The levels of the
grammar are types of their own, so that products bind tighter than sums, signs tighter than products, and both sums and products group to
the left; an expression is written as the lexemes of its parts in a row. A text has at most one reading (`Reads.unique`): reading it from
left to right leads to a state from which the whole expression can be told.
-/

namespace Parcelgen.Arithmetic

/-! Lexemes -/

/-- Whether a lexeme takes in one more character. Numbers take in digit separators and the signs of exponents, too. -/
def glues (word : List Char) (c : Char) : Bool :=
  match word.head?, word.getLast? with
  | some first, some last =>
    Text.continuesIdentifier first && Text.continuesIdentifier c ||
      first.isDigit && (c == '.' || c == '\'' || (c == '+' || c == '-') && ['e', 'E', 'p', 'P'].contains last) ||
      word == ['+'] && c == '+' || word == ['-'] && c == '-'
  | _, _ => false

def finished (word : List Char) : List String := if word.isEmpty then [] else [String.ofList word]

/-- The lexemes of a text that goes on after `word`. -/
def lexemesAfter (word : List Char) : List Char → List String
  | [] => finished word
  | c :: cs =>
    if glues word c then lexemesAfter (word ++ [c]) cs
    else finished word ++ if c.isWhitespace then lexemesAfter [] cs else lexemesAfter [c] cs

def lexemes (text : String) : List String := lexemesAfter [] text.toList

/-- Ends every lexeme in front of it. -/
def ends (c : Char) : Bool := !(Text.continuesIdentifier c || ['.', '\'', '+', '-'].contains c)

theorem glues_of_ends {c : Char} (h : ends c = true) (word : List Char) : glues word c = false := by
  simp only [ends, Bool.not_eq_true', Bool.or_eq_false_iff, List.contains_eq_mem, decide_eq_false_iff_not, List.mem_cons, List.not_mem_nil,
    or_false, not_or] at h
  obtain ⟨hword, hdot, hquote, hplus, hminus⟩ := h
  unfold glues
  split
  · simp [hword, hdot, hquote, hplus, hminus]
  · rfl

theorem glues_after {c : Char} (h : ends c = true) (hdigit : c.isDigit = false) (d : Char) : glues [c] d = false := by
  simp only [ends, Bool.not_eq_true', Bool.or_eq_false_iff, List.contains_eq_mem, decide_eq_false_iff_not, List.mem_cons, List.not_mem_nil,
    or_false, not_or] at h
  simp [glues, h, hdigit]

theorem lexemesAfter_append {c : Char} (h : ends c = true) (word a b : List Char) :
    lexemesAfter word (a ++ c :: b) = lexemesAfter word a ++ lexemesAfter [] (c :: b) := by
  induction a generalizing word with
  | nil => simp [lexemesAfter, glues_of_ends h, finished]
  | cons d a ih =>
    rw [List.cons_append, lexemesAfter, lexemesAfter]
    split
    · exact ih _
    · split <;> rw [ih, List.append_assoc]

/-- A mark that is a lexeme of its own. -/
theorem lexemesAfter_mark {c : Char} (h : ends c = true) (hdigit : c.isDigit = false) (hblank : c.isWhitespace = false) (b : List Char) :
    lexemesAfter [] (c :: b) = String.ofList [c] :: lexemesAfter [] b := by
  have hempty : ∀ d cs, lexemesAfter [] (d :: cs) = if d.isWhitespace then lexemesAfter [] cs else lexemesAfter [d] cs := fun _ _ => rfl
  rw [hempty, if_neg (by simp [hblank])]
  cases b with
  | nil => rfl
  | cons d b =>
    rw [lexemesAfter, if_neg (by simp [glues_after h hdigit]), hempty]
    rfl

/-! Expressions -/

mutual

inductive SumExpr where
  | one (p : ProductExpr)
  | add (s : SumExpr) (p : ProductExpr)
  | sub (s : SumExpr) (p : ProductExpr)

inductive ProductExpr where
  | one (u : SignedExpr)
  | mul (p : ProductExpr) (u : SignedExpr)

inductive SignedExpr where
  | operand (o : Operand)
  | plus (u : SignedExpr)
  | minus (u : SignedExpr)

/-- `size` is the size of a type that is known from the context. -/
inductive Operand where
  | literal (text : String)
  | name (text : String)
  | size
  | group (s : SumExpr)

end

def isLiteral (s : String) : Bool :=
  match s.toList with
  | [] => false
  | c :: cs => c.isDigit && cs.all fun d => Text.continuesIdentifier d || d == '\''

def isName (s : String) : Bool := Text.isIdentifier s && s != "sizeof"

mutual

/-- How an expression is written; `type` is what `sizeof` is asked about. -/
def SumExpr.lexemes (type : String) : SumExpr → List String
  | .one p => p.lexemes type
  | .add s p => s.lexemes type ++ "+" :: p.lexemes type
  | .sub s p => s.lexemes type ++ "-" :: p.lexemes type

def ProductExpr.lexemes (type : String) : ProductExpr → List String
  | .one u => u.lexemes type
  | .mul p u => p.lexemes type ++ "*" :: u.lexemes type

def SignedExpr.lexemes (type : String) : SignedExpr → List String
  | .operand o => o.lexemes type
  | .plus u => "+" :: u.lexemes type
  | .minus u => "-" :: u.lexemes type

def Operand.lexemes (type : String) : Operand → List String
  | .literal text => [text]
  | .name text => [text]
  | .size => "sizeof" :: "(" :: (Arithmetic.lexemes type ++ [")"])
  | .group s => "(" :: (s.lexemes type ++ [")"])

end

mutual

/-- Literals and names are spelled as such. -/
def SumExpr.spelled : SumExpr → Bool
  | .one p => p.spelled
  | .add s p => s.spelled && p.spelled
  | .sub s p => s.spelled && p.spelled

def ProductExpr.spelled : ProductExpr → Bool
  | .one u => u.spelled
  | .mul p u => p.spelled && u.spelled

def SignedExpr.spelled : SignedExpr → Bool
  | .operand o => o.spelled
  | .plus u => u.spelled
  | .minus u => u.spelled

def Operand.spelled : Operand → Bool
  | .literal text => isLiteral text
  | .name text => isName text
  | .size => true
  | .group s => s.spelled

end

/-- What literals and names stand for, and the size of the type. -/
structure Valuation where
  literal : String → Int
  name : String → Int
  size : Int

mutual

def SumExpr.value (v : Valuation) : SumExpr → Int
  | .one p => p.value v
  | .add s p => s.value v + p.value v
  | .sub s p => s.value v - p.value v

def ProductExpr.value (v : Valuation) : ProductExpr → Int
  | .one u => u.value v
  | .mul p u => p.value v * u.value v

def SignedExpr.value (v : Valuation) : SignedExpr → Int
  | .operand o => o.value v
  | .plus u => u.value v
  | .minus u => -u.value v

def Operand.value (v : Valuation) : Operand → Int
  | .literal text => v.literal text
  | .name text => v.name text
  | .size => v.size
  | .group s => s.value v

end

/-- A text read as an expression. -/
structure Reads (type text : String) (s : SumExpr) : Prop where
  lexemes : lexemes text = s.lexemes type
  spelled : s.spelled = true

/-! Reading from left to right -/

/-- What stands in front of a factor: a sum with the sign after it, which is a minus or not, and a product. -/
structure Frame where
  sum : Option (SumExpr × Bool) := none
  product : Option ProductExpr := none

def Frame.times (f : Frame) (u : SignedExpr) : ProductExpr :=
  match f.product with
  | none => .one u
  | some p => .mul p u

def Frame.total (f : Frame) (u : SignedExpr) : SumExpr :=
  match f.sum with
  | none => .one (f.times u)
  | some (s, false) => .add s (f.times u)
  | some (s, true) => .sub s (f.times u)

/-- An expression after signs, given from the outermost on. -/
def signed (signs : List Bool) (u : SignedExpr) : SignedExpr := signs.foldr (fun minus u => if minus then .minus u else .plus u) u

theorem signed_concat (signs : List Bool) (minus : Bool) (u : SignedExpr) :
    signed (signs ++ [minus]) u = signed signs (if minus then .minus u else .plus u) := by
  simp [signed]

/-- Either an operand comes next, or something that may follow one; `outer` holds what stands in front of the open groups. In the operand of
`sizeof`, lexemes are only counted. -/
inductive State where
  | operand (f : Frame) (signs : List Bool) (outer : List (Frame × List Bool))
  | operator (f : Frame) (u : SignedExpr) (outer : List (Frame × List Bool))
  | counting (n : Nat) (f : Frame) (signs : List Bool) (outer : List (Frame × List Bool))
  | stuck

namespace State

/-- Takes in one lexeme; the operand of `sizeof` has `n + 1` of them. -/
def step (n : Nat) (st : State) (x : String) : State :=
  match st with
  | .operand f signs outer =>
    if x = "+" then .operand f (signs ++ [false]) outer
    else if x = "-" then .operand f (signs ++ [true]) outer
    else if x = "(" then .operand {} [] ((f, signs) :: outer)
    else if x = "sizeof" then .counting n f signs outer
    else if isLiteral x then .operator f (signed signs (.operand (.literal x))) outer
    else .operator f (signed signs (.operand (.name x))) outer
  | .operator f u outer =>
    if x = "*" then .operand { f with product := some (f.times u) } [] outer
    else if x = "+" then .operand { sum := some (f.total u, false) } [] outer
    else if x = "-" then .operand { sum := some (f.total u, true) } [] outer
    else match outer with
      | [] => .stuck
      | (g, signs) :: outer => .operator g (signed signs (.operand (.group (f.total u)))) outer
  | .counting 0 f signs outer => .operator f (signed signs (.operand .size)) outer
  | .counting (n + 1) f signs outer => .counting n f signs outer
  | .stuck => .stuck

def run (n : Nat) (st : State) (xs : List String) : State := xs.foldl (step n) st

theorem run_cons (n : Nat) (st : State) (x : String) (xs : List String) : run n st (x :: xs) = run n (step n st x) xs := rfl

theorem run_append (n : Nat) (st : State) (xs ys : List String) : run n st (xs ++ ys) = run n (run n st xs) ys :=
  List.foldl_append

theorem run_counting (n m : Nat) (f : Frame) (signs : List Bool) (outer : List (Frame × List Bool)) {xs : List String}
    (h : xs.length = m + 1) : run n (.counting m f signs outer) xs = .operator f (signed signs (.operand .size)) outer := by
  induction m generalizing xs with
  | zero =>
    obtain ⟨x, rfl⟩ := List.length_eq_one_iff.mp h
    rfl
  | succ m ih =>
    cases xs with
    | nil => cases h
    | cons x xs => exact ih (Nat.succ.inj h)

end State

namespace State

variable (n : Nat) (f : Frame) (signs : List Bool) (outer : List (Frame × List Bool))

theorem step_word {x : String} (h : isLiteral x = true ∨ isName x = true) :
    step n (.operand f signs outer) x = .operator f (signed signs (.operand (if isLiteral x then .literal x else .name x))) outer := by
  have hne : x ≠ "+" ∧ x ≠ "-" ∧ x ≠ "(" ∧ x ≠ "sizeof" := by
    refine ⟨?_, ?_, ?_, ?_⟩ <;> rintro rfl <;> revert h <;> decide
  obtain ⟨hplus, hminus, hopen, hsize⟩ := hne
  unfold step
  dsimp only
  rw [if_neg hplus, if_neg hminus, if_neg hopen, if_neg hsize]
  split <;> rfl

end State

theorem startsIdentifier_of_isDigit {c : Char} (h : c.isDigit = true) : Text.startsIdentifier c = false := by
  obtain ⟨hlow, hhigh⟩ : 48 ≤ c.toNat ∧ c.toNat ≤ 57 := Char.isDigit_iff_toNat.mp h
  have hall : ∀ n < 58, 48 ≤ n → Text.startsIdentifier (Char.ofNat n) = false := by decide
  have hc := hall c.toNat (by omega) hlow
  rwa [Char.ofNat_toNat] at hc

theorem isLiteral_of_isName {x : String} (h : isName x = true) : isLiteral x = false := by
  have hidentifier := (Bool.and_eq_true_iff.mp h).1
  unfold Text.isIdentifier at hidentifier
  unfold isLiteral
  cases hx : x.toList with
  | nil => rfl
  | cons c cs =>
    rw [hx] at hidentifier
    have hstart := (Bool.and_eq_true_iff.mp hidentifier).1
    dsimp only
    rw [Bool.and_eq_false_iff]
    refine .inl ?_
    cases hdigit : c.isDigit with
    | false => rfl
    | true => exact absurd hstart (by rw [startsIdentifier_of_isDigit hdigit]; decide)

/-! What reading an expression leads to: one lemma for each level of the grammar. -/

mutual

theorem run_sum (type : String) : ∀ (s : SumExpr), s.spelled = true → ∀ outer : List (Frame × List Bool),
    ∃ f u, State.run ((lexemes type).length + 1) (.operand {} [] outer) (s.lexemes type) = .operator f u outer ∧ f.total u = s
  | .one p, h, outer => by
    obtain ⟨q, u, hrun, rfl⟩ := run_product type p h none outer
    exact ⟨_, u, hrun, rfl⟩
  | .add s p, h, outer => by
    obtain ⟨hs, hp⟩ := Bool.and_eq_true_iff.mp h
    obtain ⟨f, u, hrun, rfl⟩ := run_sum type s hs outer
    obtain ⟨q, w, hrun', rfl⟩ := run_product type p hp (some (f.total u, false)) outer
    refine ⟨{ sum := some (f.total u, false), product := q }, w, ?_, rfl⟩
    rw [SumExpr.lexemes, State.run_append, hrun, State.run_cons]
    exact hrun'
  | .sub s p, h, outer => by
    obtain ⟨hs, hp⟩ := Bool.and_eq_true_iff.mp h
    obtain ⟨f, u, hrun, rfl⟩ := run_sum type s hs outer
    obtain ⟨q, w, hrun', rfl⟩ := run_product type p hp (some (f.total u, true)) outer
    refine ⟨{ sum := some (f.total u, true), product := q }, w, ?_, rfl⟩
    rw [SumExpr.lexemes, State.run_append, hrun, State.run_cons]
    exact hrun'

theorem run_product (type : String) : ∀ (p : ProductExpr), p.spelled = true → ∀ sum (outer : List (Frame × List Bool)),
    ∃ q u, State.run ((lexemes type).length + 1) (.operand { sum } [] outer) (p.lexemes type) = .operator { sum, product := q } u outer ∧
      Frame.times { sum, product := q } u = p
  | .one u, h, sum, outer => ⟨none, u, run_signed type u h { sum } [] outer, rfl⟩
  | .mul p u, h, sum, outer => by
    obtain ⟨hp, hu⟩ := Bool.and_eq_true_iff.mp h
    obtain ⟨q, w, hrun, rfl⟩ := run_product type p hp sum outer
    refine ⟨some (Frame.times { sum, product := q } w), u, ?_, rfl⟩
    rw [ProductExpr.lexemes, State.run_append, hrun, State.run_cons]
    exact run_signed type u hu { sum, product := some _ } [] outer

theorem run_signed (type : String) : ∀ (u : SignedExpr), u.spelled = true → ∀ f signs (outer : List (Frame × List Bool)),
    State.run ((lexemes type).length + 1) (.operand f signs outer) (u.lexemes type) = .operator f (signed signs u) outer
  | .operand o, h, f, signs, outer => run_operand type o h f signs outer
  | .plus u, h, f, signs, outer => by
    have hrun := run_signed type u h f (signs ++ [false]) outer
    rw [signed_concat] at hrun
    exact hrun
  | .minus u, h, f, signs, outer => by
    have hrun := run_signed type u h f (signs ++ [true]) outer
    rw [signed_concat] at hrun
    exact hrun

theorem run_operand (type : String) : ∀ (o : Operand), o.spelled = true → ∀ f signs (outer : List (Frame × List Bool)),
    State.run ((lexemes type).length + 1) (.operand f signs outer) (o.lexemes type) = .operator f (signed signs (.operand o)) outer
  | .literal text, h, f, signs, outer => by
    have hliteral : isLiteral text = true := h
    rw [Operand.lexemes, State.run_cons, State.step_word _ f signs outer (.inl hliteral), if_pos hliteral]
    rfl
  | .name text, h, f, signs, outer => by
    have hname : isName text = true := h
    rw [Operand.lexemes, State.run_cons, State.step_word _ f signs outer (.inr hname), if_neg (by simp [isLiteral_of_isName hname])]
    rfl
  | .size, _, f, signs, outer => State.run_counting _ _ f signs outer (by simp)
  | .group s, h, f, signs, outer => by
    obtain ⟨g, u, hrun, rfl⟩ := run_sum type s h ((f, signs) :: outer)
    rw [Operand.lexemes, State.run_cons, State.run_append]
    exact congrArg (State.run _ · [")"]) hrun

end

/-- A text has at most one reading. -/
theorem Reads.unique {type text : String} {a b : SumExpr} (ha : Reads type text a) (hb : Reads type text b) : a = b := by
  obtain ⟨f, u, hrun, rfl⟩ := run_sum type a ha.spelled []
  obtain ⟨g, w, hrun', rfl⟩ := run_sum type b hb.spelled []
  rw [← ha.lexemes, hb.lexemes, hrun'] at hrun
  cases hrun
  rfl

end Parcelgen.Arithmetic
