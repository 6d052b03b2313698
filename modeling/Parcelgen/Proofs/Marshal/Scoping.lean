import Mathlib.Data.List.Perm.Subperm
import Parcelgen.Proofs.Marshal.Embedded
import Parcelgen.Proofs.Marshal.Handle

/-!
The names that statements declare, scope by scope (`Stmt.scopesIn`). A walk declares three kinds of names: handles, which are taken from a name
scope and so never repeat, loop counters, which are numbered by depth, and binder temporaries in blocks of their own. None of them looks like
one of another kind, so a walk never declares a name that is visible already (`Apart`).
-/

namespace Parcelgen

namespace Dialect

/-- The last letter of an identifier, in front of the digits and underscores at its end. -/
def lastLetter (name : String) : Option Char := name.toList.reverse.find? fun c => !(c.isDigit || c == '_')

theorem lastLetter_append (a b : String) : lastLetter (a ++ b) = (lastLetter b).or (lastLetter a) := by
  simp [lastLetter]

theorem lastLetter_toString (n : Nat) : lastLetter (toString n) = none := by
  refine List.find?_eq_none.mpr fun c hc => ?_
  have hdigit : c.isDigit = true := Nat.isDigit_of_mem_toDigits (n := n) (by decide) (Nat.le_refl 10) (by simpa using hc)
  simp [hdigit]

theorem lastLetter_indexVar (d : Dialect) (k : Nat) : lastLetter (d.indexVar k) = some 'x' := by
  have hdigits : lastLetter (toString (k : Int)) = none := lastLetter_toString k
  have hindex : lastLetter "index_" = some 'x' := by decide +kernel
  rw [indexVar, lastLetter_append, hdigits, lastLetter_append, hindex, Option.none_or, Option.some_or]

theorem lastLetter_binderVar (d : Dialect) : lastLetter d.binderVar = some 'r' := by
  have hbinder : lastLetter "binder" = some 'r' := by decide +kernel
  simp [binderVar, lastLetter_append, hbinder]

/-- The name is one that a handle gets, with or without a number. -/
def IsHandle (d : Dialect) (name : String) : Prop :=
  ∃ expr tail, (tail = "parent" ∨ tail = "child") ∧
    (name = d.ident expr tail ∨ ∃ i, name = NameScope.candidate (d.ident expr tail) i)

namespace IsHandle

variable {d : Dialect} {name : String}

theorem lastLetter (h : d.IsHandle name) : lastLetter name = some 't' ∨ lastLetter name = some 'd' := by
  obtain ⟨expr, tail, htail, hname⟩ := h
  have hident : Dialect.lastLetter name = Dialect.lastLetter (d.ident expr tail) := by
    rcases hname with rfl | ⟨i, rfl⟩
    · rfl
    · have hdash : Dialect.lastLetter "_" = none := by decide +kernel
      rw [NameScope.candidate, lastLetter_append, lastLetter_toString, lastLetter_append, hdash, Option.none_or, Option.none_or]
  rw [hident]
  rcases htail with rfl | rfl
  · have hparent : Dialect.lastLetter "_parent" = some 't' := by decide +kernel
    simp [ident, lastLetter_append, hparent]
  · have hchild : Dialect.lastLetter "_child" = some 'd' := by decide +kernel
    simp [ident, lastLetter_append, hchild]

theorem ne_of_lastLetter (h : d.IsHandle name) {other : String} {c : Char} (hother : Dialect.lastLetter other = some c) (ht : c ≠ 't')
    (hd : c ≠ 'd') : name ≠ other := by
  rintro rfl
  rcases h.lastLetter with hl | hl
  · exact ht (Option.some.inj (hother.symm.trans hl))
  · exact hd (Option.some.inj (hother.symm.trans hl))

theorem ne_indexVar (h : d.IsHandle name) (k : Nat) : name ≠ d.indexVar k :=
  h.ne_of_lastLetter (d.lastLetter_indexVar k) (by decide) (by decide)

theorem ne_binderVar (h : d.IsHandle name) : name ≠ d.binderVar := h.ne_of_lastLetter d.lastLetter_binderVar (by decide) (by decide)

end IsHandle

theorem binderVar_ne_indexVar (d : Dialect) (k : Nat) : d.binderVar ≠ d.indexVar k := by
  intro h
  have hletter := d.lastLetter_indexVar k
  rw [← h, d.lastLetter_binderVar] at hletter
  cases hletter

end Dialect

theorem NameScope.fresh_eq (s : NameScope) (name : String) : s.fresh name = name ∨ ∃ i, s.fresh name = candidate name i := by
  unfold fresh
  split
  · obtain ⟨i, -, hi, -⟩ := numbered_eq s.used name s.used.length 1
    exact .inr ⟨i, hi⟩
  · exact .inl rfl

namespace Stmt

mutual

/-- The names that a statement declares in the scope it stands in. -/
def declares : Stmt → List String
  | .declare _ name _ => [name]
  | .within _ body => declaresAll body
  | _ => []

def declaresAll : List Stmt → List String
  | [] => []
  | s :: ss => declares s ++ declaresAll ss

end

mutual

/-- For every scope that a statement opens, the names declared in it and in the scopes around it, of which there are `outer` outside the
statement. Function literals have the parameters `literal`. -/
def scopes (literal outer : List String) : Stmt → List (List String)
  | .block _ body _ => (outer ++ declaresAll body) :: scopesAll literal (outer ++ declaresAll body) body
  | .choice _ yes no =>
    ((outer ++ declaresAll yes) :: scopesAll literal (outer ++ declaresAll yes) yes) ++
      ((outer ++ declaresAll no) :: scopesAll literal (outer ++ declaresAll no) no)
  | .loop index _ body =>
    (outer ++ [index] ++ declaresAll body) :: scopesAll literal (outer ++ [index] ++ declaresAll body) body
  | .callback _ body =>
    (outer ++ literal ++ declaresAll body) :: scopesAll literal (outer ++ literal ++ declaresAll body) body
  | .within _ body => scopesAll literal outer body
  | _ => []

def scopesAll (literal outer : List String) : List Stmt → List (List String)
  | [] => []
  | s :: ss => scopes literal outer s ++ scopesAll literal outer ss

end

@[simp] theorem declaresAll_append (as bs : List Stmt) : declaresAll (as ++ bs) = declaresAll as ++ declaresAll bs := by
  induction as with
  | nil => rfl
  | cons a as ih => simp only [List.cons_append, declaresAll, ih, List.append_assoc]

@[simp] theorem scopesAll_append (literal outer : List String) (as bs : List Stmt) :
    scopesAll literal outer (as ++ bs) = scopesAll literal outer as ++ scopesAll literal outer bs := by
  induction as with
  | nil => rfl
  | cons a as ih => simp only [List.cons_append, scopesAll, ih, List.append_assoc]

end Stmt

/-- The names in `outer` do not repeat, and leave room for the handles `inner`, for the counters of loops inside `depth` others and for a
binder temporary. -/
structure Clear (d : Dialect) (depth : Nat) (inner outer : List String) : Prop where
  nodup : outer.Nodup
  new : ∀ n ∈ inner, n ∉ outer
  index : ∀ k : Nat, depth ≤ k → d.indexVar k ∉ outer
  binder : d.binderVar ∉ outer

namespace Clear

variable {d : Dialect} {depth : Nat} {own inner outer : List String}

theorem mono {fewer : List String} (h : Clear d depth inner outer) (hsub : fewer ⊆ inner) : Clear d depth fewer outer :=
  ⟨h.nodup, fun n hn => h.new n (hsub hn), h.index, h.binder⟩

/-- Inside a loop that declares the handles `own` there is still room. -/
theorem loop (h : Clear d depth (own ++ inner) outer) (hnodup : (own ++ inner).Nodup) (hhandle : ∀ n ∈ own ++ inner, d.IsHandle n) :
    Clear d (depth + 1) inner (outer ++ [d.indexVar depth] ++ own) := by
  obtain ⟨hown, -, hdisjoint⟩ := List.nodup_append.mp hnodup
  have hindex : ∀ k : Nat, d.indexVar k ∉ own := fun k hk => (hhandle _ (List.mem_append_left _ hk)).ne_indexVar k rfl
  have hinner : ∀ n ∈ inner, n ≠ d.indexVar depth := fun n hn => (hhandle n (List.mem_append_right _ hn)).ne_indexVar depth
  refine ⟨?_, fun n hn hmem => ?_, fun k hk hmem => ?_, fun hmem => ?_⟩
  · rw [List.append_assoc, List.nodup_append]
    refine ⟨h.nodup, List.nodup_append.mpr ⟨List.nodup_singleton _, hown, ?_⟩, ?_⟩
    · rintro a ha b hb rfl
      exact hindex depth (List.mem_singleton.mp ha ▸ hb)
    · rintro a ha b hb rfl
      rcases List.mem_append.mp hb with hb | hb
      · exact h.index depth (Nat.le_refl _) (List.mem_singleton.mp hb ▸ ha)
      · exact h.new a (List.mem_append_left _ hb) ha
  · rcases List.mem_append.mp hmem with hmem | hmem
    · rcases List.mem_append.mp hmem with hmem | hmem
      · exact h.new n (List.mem_append_right _ hn) hmem
      · exact hinner n hn (List.mem_singleton.mp hmem)
    · exact hdisjoint n hmem n hn rfl
  · rcases List.mem_append.mp hmem with hmem | hmem
    · rcases List.mem_append.mp hmem with hmem | hmem
      · exact h.index k (by omega) hmem
      · have := d.indexVar_injective (List.mem_singleton.mp hmem)
        omega
    · exact hindex k hmem
  · rcases List.mem_append.mp hmem with hmem | hmem
    · rcases List.mem_append.mp hmem with hmem | hmem
      · exact h.binder hmem
      · exact d.binderVar_ne_indexVar depth (List.mem_singleton.mp hmem)
    · exact (hhandle _ (List.mem_append_left _ hmem)).ne_binderVar rfl

end Clear

/-- The statements declare `own` in their scope and repeat no visible name in the scopes inside, where there is room for `inner`. -/
structure Tidy (d : Dialect) (depth : Nat) (own inner : List String) (ss : List Stmt) : Prop where
  own : Stmt.declaresAll ss = own
  scopes : ∀ literal outer, Clear d depth inner outer → ∀ names ∈ Stmt.scopesAll literal outer ss, names.Nodup

namespace Tidy

variable {d : Dialect} {depth : Nat} {own inner : List String} {ss : List Stmt}

/-- Statements that open no scope. -/
theorem flat (hown : Stmt.declaresAll ss = own) (h : ∀ literal outer, Stmt.scopesAll literal outer ss = []) : Tidy d depth own [] ss :=
  ⟨hown, fun literal outer _ names hnames => by simp [h] at hnames⟩

theorem append {own' inner' : List String} {ss' : List Stmt} (h : Tidy d depth own inner ss) (h' : Tidy d depth own' inner' ss') :
    Tidy d depth (own ++ own') (inner ++ inner') (ss ++ ss') := by
  refine ⟨by rw [Stmt.declaresAll_append, h.own, h'.own], fun literal outer hclear names hnames => ?_⟩
  rw [Stmt.scopesAll_append] at hnames
  rcases List.mem_append.mp hnames with hnames | hnames
  · exact h.scopes literal outer (hclear.mono (List.subset_append_left _ _)) names hnames
  · exact h'.scopes literal outer (hclear.mono (List.subset_append_right _ _)) names hnames

theorem within (h : Tidy d depth own inner ss) (path : List String) : Tidy d depth own inner [.within path ss] := by
  refine ⟨by simp [Stmt.declaresAll, Stmt.declares, h.own], fun literal outer hclear names hnames => ?_⟩
  simp only [Stmt.scopesAll, Stmt.scopes, List.append_nil] at hnames
  exact h.scopes literal outer hclear names hnames

/-- A block that declares a binder temporary, or nothing. -/
theorem block {head after : String} (hown : Stmt.declaresAll ss = [] ∨ Stmt.declaresAll ss = [d.binderVar])
    (h : ∀ literal outer, Stmt.scopesAll literal outer ss = []) : Tidy d depth [] [] [.block head ss after] := by
  refine ⟨rfl, fun literal outer hclear names hnames => ?_⟩
  simp only [Stmt.scopesAll, Stmt.scopes, h, List.append_nil, List.mem_singleton] at hnames
  subst hnames
  rcases hown with hown | hown
  · rw [hown, List.append_nil]
    exact hclear.nodup
  · rw [hown]
    refine List.nodup_append.mpr ⟨hclear.nodup, List.nodup_singleton _, ?_⟩
    rintro a ha b hb rfl
    exact hclear.binder (List.mem_singleton.mp hb ▸ ha)

theorem loop {bound : Bound} (h : Tidy d (depth + 1) own inner ss) (hnodup : (own ++ inner).Nodup)
    (hhandle : ∀ n ∈ own ++ inner, d.IsHandle n) : Tidy d depth [] (own ++ inner) [.loop (d.indexVar depth) bound ss] := by
  refine ⟨rfl, fun literal outer hclear names hnames => ?_⟩
  have hinside := hclear.loop hnodup hhandle
  simp only [Stmt.scopesAll, Stmt.scopes, h.own, List.append_nil] at hnames
  rcases List.mem_cons.mp hnames with rfl | hnames
  · exact hinside.nodup
  · exact h.scopes literal _ hinside names hnames

end Tidy

open Naming

/-- The statements of a naming computation declare the names in `plain` at most, and new handles; no scope in them repeats a visible name. -/
def Apart (d : Dialect) (depth : Nat) (plain : List String) (x : Naming (List Stmt)) : Prop :=
  ∀ scope, ∃ own inner taken, Takes scope taken (scopeAfter x (some scope)) ∧ (∀ n ∈ taken, d.IsHandle n) ∧
    (own ++ inner).Subperm (plain ++ taken) ∧ Tidy d depth own inner (out x (some scope))

theorem nodup_of_subperm {as bs : List String} (h : as.Subperm bs) (hbs : bs.Nodup) : as.Nodup :=
  List.nodup_iff_count_le_one.mpr fun n => Nat.le_trans (h.count_le n) (List.nodup_iff_count_le_one.mp hbs n)

namespace Apart

variable {d : Dialect} {depth : Nat} {plain : List String} {x y : Naming (List Stmt)} {ss : List Stmt}

theorem pure (h : Tidy d depth [] [] ss) : Apart d depth [] (return ss) :=
  fun scope => ⟨[], [], [], .nil scope, by simp, .refl _, h⟩

theorem nil : Apart d depth [] (return []) := .pure (.flat rfl fun _ _ => rfl)

theorem fail (f : Fault) : Apart d depth [] (return [.fail f]) := .pure (.flat rfl fun _ _ => rfl)

/-- Two computations, one after the other. -/
theorem both {plain' : List String} (hx : Apart d depth plain x) (hy : Apart d depth plain' y) (scope : NameScope) :
    ∃ own inner own' inner' taken, Takes scope taken (scopeAfter y (scopeAfter x (some scope))) ∧ (∀ n ∈ taken, d.IsHandle n) ∧
      (own ++ inner ++ (own' ++ inner')).Subperm (plain ++ plain' ++ taken) ∧ Tidy d depth own inner (out x (some scope)) ∧
      Tidy d depth own' inner' (out y (scopeAfter x (some scope))) := by
  obtain ⟨own, inner, taken, htakes, hhandle, hsub, htidy⟩ := hx scope
  obtain ⟨mid, hmid, hused⟩ := htakes.after
  obtain ⟨own', inner', taken', htakes', hhandle', hsub', htidy'⟩ := hy mid
  rw [hmid] at htakes ⊢
  refine ⟨own, inner, own', inner', taken ++ taken', ?_, ?_, ?_, htidy, htidy'⟩
  · refine htakes.append fun t ht => ?_
    cases ht
    exact htakes'
  · intro n hn
    rcases List.mem_append.mp hn with hn | hn
    · exact hhandle n hn
    · exact hhandle' n hn
  · refine List.subperm_ext_iff.mpr fun n _ => ?_
    have hn := hsub.count_le n
    have hn' := hsub'.count_le n
    simp only [List.count_append] at hn hn' ⊢
    omega

theorem append {plain' : List String} (hx : Apart d depth plain x) (hy : Apart d depth plain' y) :
    Apart d depth (plain ++ plain') (do return (← x) ++ (← y)) := by
  intro scope
  obtain ⟨own, inner, own', inner', taken, htakes, hhandle, hsub, htidy, htidy'⟩ := hx.both hy scope
  refine ⟨own ++ own', inner ++ inner', taken, htakes, hhandle, ?_, htidy.append htidy'⟩
  refine List.subperm_ext_iff.mpr fun n _ => ?_
  have hn := hsub.count_le n
  simp only [List.count_append] at hn ⊢
  omega

theorem within (hx : Apart d depth plain x) (path : List String) : Apart d depth plain (do return [.within path (← x)]) := by
  intro scope
  obtain ⟨own, inner, taken, htakes, hhandle, hsub, htidy⟩ := hx scope
  exact ⟨own, inner, taken, htakes, hhandle, hsub, htidy.within path⟩

end Apart

namespace Site

theorem nameFor_isHandle (site : Site) (expr : String) {tail : String} (htail : tail = "parent" ∨ tail = "child") (scope : NameScope) :
    site.dialect.IsHandle (out (site.nameFor expr tail) (some scope)) :=
  ⟨expr, tail, htail, scope.fresh_eq _⟩

/-- A new handle, declared in front of what is known to be apart. -/
theorem apart_of_nameFor (site : Site) {depth : Nat} (expr : String) {tail : String} {front : String → List Stmt}
    {rest : String → Naming (List Stmt)} (htail : tail = "parent" ∨ tail = "child")
    (hf : ∀ handle, Tidy site.dialect depth [handle] [] (front handle)) (hr : ∀ handle, Apart site.dialect depth [] (rest handle)) :
    Apart site.dialect depth [] (do
      let handle ← site.nameFor expr tail
      return front handle ++ (← rest handle)) := by
  intro scope
  have htakes := site.nameFor_takes expr tail scope
  have hhandle := site.nameFor_isHandle expr htail scope
  obtain ⟨mid, hmid, hused⟩ := htakes.after
  obtain ⟨own, inner, taken, htakes', hhandle', hsub, htidy⟩ := hr (out (site.nameFor expr tail) (some scope)) mid
  refine ⟨[out (site.nameFor expr tail) (some scope)] ++ own, [] ++ inner, [out (site.nameFor expr tail) (some scope)] ++ taken, ?_, ?_, ?_, ?_⟩
  · simp only [scopeAfter_bind, scopeAfter_pure]
    refine htakes.append fun t ht => ?_
    obtain rfl : mid = t := Option.some.inj (hmid.symm.trans ht)
    rw [hmid]
    exact htakes'
  · exact List.forall_mem_cons.mpr ⟨hhandle, hhandle'⟩
  · refine List.subperm_ext_iff.mpr fun n _ => ?_
    have hn := hsub.count_le n
    simp only [List.count_append, List.count_nil] at hn ⊢
    omega
  · simp only [out_bind, out_pure, hmid]
    exact (hf _).append htidy

theorem elementLoop_apart (site : Site) (whole elem : WireType) (depth : Nat) (bound : Bound)
    {body : String → ByteSize → Naming (List Stmt)} (hb : ∀ index size, Apart site.dialect (depth + 1) [] (body index size)) :
    Apart site.dialect depth [] (site.elementLoop whole elem depth bound body) := by
  unfold elementLoop
  cases elem.byteSize site.dialect with
  | error f => exact .fail f
  | ok size =>
    by_cases hm : site.mode = .exit
    · simpa [hm] using Apart.fail (loopRefused whole)
    · simp only [beq_iff_eq, hm, if_false]
      intro scope
      obtain ⟨own, inner, taken, htakes, hhandle, hsub, htidy⟩ := hb (site.dialect.indexVar depth) size scope
      have hnodup : (own ++ inner).Nodup := nodup_of_subperm hsub htakes.nodup
      exact ⟨[], own ++ inner, taken, htakes, hhandle, hsub, htidy.loop hnodup fun n hn => hhandle n (hsub.subset hn)⟩

theorem embeddedString_tidy (site : Site) (depth : Nat) (place : Place) (parent : String) (offset : Offset) :
    Tidy site.dialect depth [] [] (site.embeddedString place parent offset) :=
  .flat rfl fun _ _ => rfl

theorem embeddedVector_tidy (site : Site) (depth : Nat) (type : String) (place : Place) (parent : String) (offset : Offset)
    (child : String) : Tidy site.dialect depth [child] [] (site.embeddedVector type place parent offset child) :=
  .flat rfl fun _ _ => rfl

theorem embeddedBinder_tidy (site : Site) (depth : Nat) (name : String) (place : Place) (parent : String) (offset : Offset) :
    Tidy site.dialect depth [] [] (site.embeddedBinder name place parent offset) := by
  unfold embeddedBinder
  split
  · exact .block (.inr rfl) fun _ _ => rfl
  · exact .flat rfl fun _ _ => rfl

mutual

/-- A walk never declares a name that is visible already. -/
theorem walk_apart (site : Site) : ∀ (t : WireType) (depth : Nat) (place : Place) (parent : String) (offset : Offset),
    Apart site.dialect depth [] (site.walk t depth place parent offset)
  | .string, depth, place, parent, offset => by
    simp only [walk]
    exact .pure (site.embeddedString_tidy depth place parent offset)
  | .interface name, depth, place, parent, offset => by
    simp only [walk]
    exact .pure (site.embeddedBinder_tidy depth name place parent offset)
  | .struct name fields, depth, place, parent, offset => by
    simp only [walk]
    exact walkMembers_apart site name fields depth place parent offset
  | .array elem dim, depth, place, parent, offset => by
    simp only [walk]
    split
    · exact site.elementLoop_apart _ _ _ _ fun index size => walk_apart site elem _ _ _ _
    · exact .nil
  | .vector elem, depth, place, parent, offset => by
    simp only [walk]
    split
    · exact .fail _
    · rename_i spelling _
      have hcall := site.embeddedVector_tidy depth spelling.name place parent offset
      cases elem.isEmbedded with
      | false => simpa using site.apart_of_nameFor place.text (.inr rfl) hcall fun _ => Apart.nil
      | true =>
        exact site.apart_of_nameFor place.text (.inr rfl) hcall fun child =>
          site.elementLoop_apart _ _ _ _ fun index size => walk_apart site elem _ _ _ _
  | .absent, _, _, _, _ | .scalar _, _, _, _, _ | .enum _ _ _, _, _, _, _ => by
    simp only [walk]
    exact .nil

theorem walkMembers_apart (site : Site) (name : String) : ∀ (fields : List (String × WireType)) (depth : Nat) (place : Place)
    (parent : String) (offset : Offset), Apart site.dialect depth [] (site.walkMembers name fields depth place parent offset)
  | [], _, _, _, _ => by
    simp only [walkMembers]
    exact .nil
  | (field, t) :: rest, depth, place, parent, offset => by
    have hrest := walkMembers_apart site name rest depth place parent offset
    simp only [walkMembers]
    cases t.isEmbedded with
    | false => exact Apart.nil.append hrest
    | true => exact ((walk_apart site t depth (place.member field) parent (offset.step (.member name field))).within _).append hrest

end

end Site

end Parcelgen
