import Mathlib.Data.List.MinMax
import Parcelgen.Proofs.Dialect
import Parcelgen.Proofs.Marshal.Handle

/-!
Reading into a variable whose name starts with the lead, as the results of a proxy are read. Handles are named after the expressions that lead to
their values, and an expression that starts with the lead keeps one copy of it. Two walks whose expressions give identifiers that differ in
front only go side by side (`Follows`), so they declare the same handles up to that difference. There is none but below a vector: it is
dereferenced, the lead then stands behind a parenthesis, and the names get a second one (`vector_lead`).
-/

namespace Parcelgen

open Naming

namespace Stmt

mutual

/-- The handles that a statement declares when it is printed, in order. Nothing behind a failure is printed. -/
def handles (d : Dialect) : Stmt → List String
  | .declare type name _ => if type = "size_t" then [name] else []
  | .block _ body _ | .loop _ _ body | .callback _ body | .within _ body => handlesAll d body
  | .choice _ yes no => handlesAll d yes ++ if (failures d yes).isSome then [] else handlesAll d no
  | _ => []

def handlesAll (d : Dialect) : List Stmt → List String
  | [] => []
  | s :: ss => handles d s ++ if (Layout.failures (layout d s)).isSome then [] else handlesAll d ss

end

theorem handlesAll_append (d : Dialect) (as bs : List Stmt) :
    handlesAll d (as ++ bs) = handlesAll d as ++ if (failures d as).isSome then [] else handlesAll d bs := by
  induction as with
  | nil => simp [handlesAll]
  | cons a as ih =>
    rw [List.cons_append, handlesAll, handlesAll, ih, failures_cons]
    cases Layout.failures (layout d a) with
    | none => exact (List.append_assoc _ _ _).symm
    | some e => simp

theorem handlesAll_singleton (d : Dialect) (s : Stmt) : handlesAll d [s] = handles d s := by
  simp [handlesAll]

end Stmt

namespace Dialect

/-- How many letters and digits a name has. -/
def wordCount (name : String) : Nat := name.toList.countP isWordChar

theorem wordCount_append (a b : String) : wordCount (a ++ b) = wordCount a + wordCount b := by
  simp [wordCount]

theorem wordCount_ident (d : Dialect) (expr tail : String) : wordCount (d.ident expr tail) =
    wordCount d.lead + (dropLead d.lead.toList expr.toList).countP isWordChar + wordCount tail := by
  simp only [wordCount, List.countP_eq_length_filter, toList_ident, List.filter_append, filter_stem, List.length_append]
  by_cases htail : tail = ""
  · simp [htail]
  · simp [htail, isWordChar_underscore]

theorem wordCount_child_lt_parent (d : Dialect) (expr : String) : wordCount (d.ident expr "child") < wordCount (d.ident expr "parent") := by
  have htails : wordCount "child" < wordCount "parent" := by decide
  simpa [wordCount_ident] using htails

end Dialect

/-- A strong pointer is no handle. -/
theorem Dialect.strongPointerTo_ne (d : Dialect) (target : String) : d.strongPointerTo target ≠ "size_t" := by
  intro h
  have hlast := congrArg (fun s => s.toList.getLast?) h
  simp [strongPointerTo, List.getLast?_cons] at hlast

open Dialect (wordCount)

namespace NameScope

/-- Names with at least `bound` letters and digits are used in `t` with `pad` in front when they are used in `s`. Shorter ones do not matter. -/
structure Shifted (pad : String) (bound : Nat) (s t : NameScope) : Prop where
  size : s.used.length = t.used.length
  mem : ∀ n, bound ≤ wordCount n → (n ∈ s.used ↔ pad ++ n ∈ t.used)

namespace Shifted

variable {pad : String} {bound : Nat} {s t : NameScope}

theorem same (s : NameScope) : Shifted "" 0 s s := ⟨rfl, fun n _ => by simp⟩

theorem of_short (h : ∀ n ∈ s.used, wordCount n < bound) : Shifted pad bound s s := by
  refine ⟨rfl, fun n hn => ⟨fun hin => ?_, fun hin => ?_⟩⟩
  · have hshort := h n hin
    omega
  · have hshort := h _ hin
    rw [Dialect.wordCount_append] at hshort
    omega

theorem candidate_append (pad name : String) (i : Nat) : candidate (pad ++ name) i = pad ++ candidate name i := by
  simp [candidate, String.append_assoc]

theorem wordCount_candidate (name : String) (i : Nat) : wordCount name ≤ wordCount (candidate name i) := by
  rw [candidate, Dialect.wordCount_append, Dialect.wordCount_append]
  omega

theorem wordCount_fresh (s : NameScope) (name : String) : wordCount name ≤ wordCount (s.fresh name) := by
  by_cases hused : name ∈ s.used
  · obtain ⟨i, -, hfresh, -⟩ := fresh_of_mem hused
    rw [hfresh]
    exact wordCount_candidate name i
  · rw [fresh_of_not_mem hused]

theorem numbered (h : Shifted pad bound s t) {name : String} (hname : bound ≤ wordCount name) (fuel i : Nat) :
    NameScope.numbered t.used (pad ++ name) fuel i = pad ++ NameScope.numbered s.used name fuel i := by
  induction fuel generalizing i with
  | zero => exact candidate_append pad name i
  | succ fuel ih =>
    have hmem := h.mem (candidate name i) (Nat.le_trans hname (wordCount_candidate name i))
    rw [numbered_succ, numbered_succ, candidate_append, ih]
    by_cases hused : candidate name i ∈ s.used
    · rw [if_pos hused, if_pos (hmem.mp hused)]
    · rw [if_neg hused, if_neg fun hin => hused (hmem.mpr hin)]

theorem fresh (h : Shifted pad bound s t) {name : String} (hname : bound ≤ wordCount name) :
    t.fresh (pad ++ name) = pad ++ s.fresh name := by
  by_cases hused : name ∈ s.used
  · have hused' := (h.mem name hname).mp hused
    rw [NameScope.fresh, NameScope.fresh, if_pos (List.contains_iff_mem.mpr hused), if_pos (List.contains_iff_mem.mpr hused'), ← h.size,
      h.numbered hname]
  · have hused' : pad ++ name ∉ t.used := fun hin => hused ((h.mem name hname).mpr hin)
    rw [fresh_of_not_mem hused, fresh_of_not_mem hused']

theorem cons (h : Shifted pad bound s t) (name : String) : Shifted pad bound { used := name :: s.used } { used := (pad ++ name) :: t.used } := by
  refine ⟨by simp [h.size], fun n hn => ?_⟩
  simp [h.mem n hn]

end Shifted

end NameScope

/-- The statements `ss'` declare the handles of `ss` with `pad` in front, and fail as they do. -/
structure Shadows (d : Dialect) (pad : String) (bound : Nat) (ss ss' : List Stmt) : Prop where
  handles : Stmt.handlesAll d ss' = (Stmt.handlesAll d ss).map (pad ++ ·)
  failures : Stmt.failures d ss' = Stmt.failures d ss
  bound : ∀ n ∈ Stmt.handlesAll d ss, bound ≤ wordCount n

namespace Shadows

variable {d : Dialect} {pad : String} {bound : Nat} {ss ss' : List Stmt}

theorem silent (h : Stmt.handlesAll d ss = []) (h' : Stmt.handlesAll d ss' = []) (hf : Stmt.failures d ss' = Stmt.failures d ss) :
    Shadows d pad bound ss ss' := ⟨by simp [h, h'], hf, by simp [h]⟩

theorem single {name : String} (h : Stmt.handlesAll d ss = [name]) (h' : Stmt.handlesAll d ss' = [pad ++ name])
    (hf : Stmt.failures d ss' = Stmt.failures d ss) (hbound : bound ≤ wordCount name) : Shadows d pad bound ss ss' :=
  ⟨by simp [h, h'], hf, by simpa [h] using hbound⟩

theorem append {more more' : List Stmt} (h : Shadows d pad bound ss ss') (hmore : Shadows d pad bound more more') :
    Shadows d pad bound (ss ++ more) (ss' ++ more') := by
  refine ⟨?_, by rw [Stmt.failures_append, Stmt.failures_append, h.failures, hmore.failures], ?_⟩
  · rw [Stmt.handlesAll_append, Stmt.handlesAll_append, h.handles, h.failures, hmore.handles, List.map_append]
    split <;> rfl
  · intro n hn
    rw [Stmt.handlesAll_append] at hn
    rcases List.mem_append.mp hn with hn | hn
    · exact h.bound n hn
    · split at hn
      · cases hn
      · exact hmore.bound n hn

theorem loop (h : Shadows d pad bound ss ss') (index : String) (extent extent' : Bound) :
    Shadows d pad bound [.loop index extent ss] [.loop index extent' ss'] := by
  refine ⟨?_, by simp [h.failures], ?_⟩
  · simpa only [Stmt.handlesAll_singleton, Stmt.handles] using h.handles
  · simpa only [Stmt.handlesAll_singleton, Stmt.handles] using h.bound

theorem within (h : Shadows d pad bound ss ss') (path : List String) : Shadows d pad bound [.within path ss] [.within path ss'] := by
  refine ⟨?_, by simp [h.failures], ?_⟩
  · simpa only [Stmt.handlesAll_singleton, Stmt.handles] using h.handles
  · simpa only [Stmt.handlesAll_singleton, Stmt.handles] using h.bound

end Shadows

/-- Run on scopes that are shifted, `y` gives what shadows the outcome of `x`, and leaves scopes that are shifted. -/
def Follows (d : Dialect) (pad : String) (bound : Nat) (x y : Naming (List Stmt)) : Prop :=
  ∀ s t : NameScope, s.Shifted pad bound t → Shadows d pad bound (out x (some s)) (out y (some t)) ∧
    ∃ s' t', scopeAfter x (some s) = some s' ∧ scopeAfter y (some t) = some t' ∧ s'.Shifted pad bound t'

namespace Follows

variable {d : Dialect} {pad : String} {bound : Nat} {x y : Naming (List Stmt)}

theorem pure {ss ss' : List Stmt} (h : Shadows d pad bound ss ss') : Follows d pad bound (return ss) (return ss') :=
  fun s t hst => ⟨h, s, t, rfl, rfl, hst⟩

theorem nil : Follows d pad bound (return []) (return []) := .pure (.silent rfl rfl rfl)

theorem fail (f : Fault) : Follows d pad bound (return [.fail f]) (return [.fail f]) := .pure (.silent rfl rfl rfl)

theorem append {x' y' : Naming (List Stmt)} (h : Follows d pad bound x y) (h' : Follows d pad bound x' y') :
    Follows d pad bound (do return (← x) ++ (← x')) (do return (← y) ++ (← y')) := by
  intro s t hst
  obtain ⟨hfirst, s', t', hs, ht, hst'⟩ := h s t hst
  obtain ⟨hsecond, hafter⟩ := h' s' t' hst'
  simp only [out_bind, scopeAfter_bind, out_pure, scopeAfter_pure, hs, ht]
  exact ⟨hfirst.append hsecond, hafter⟩

theorem prepend {ss ss' : List Stmt} (h : Shadows d pad bound ss ss') (hx : Follows d pad bound x y) :
    Follows d pad bound (do return ss ++ (← x)) (do return ss' ++ (← y)) := (Follows.pure h).append hx

theorem within (h : Follows d pad bound x y) (path : List String) :
    Follows d pad bound (do return [.within path (← x)]) (do return [.within path (← y)]) := by
  intro s t hst
  obtain ⟨hout, hafter⟩ := h s t hst
  exact ⟨hout.within path, hafter⟩

end Follows

namespace Site

variable (site : Site) {pad : String} {bound : Nat}

/-- A name that is not in use is given as asked for. -/
theorem nameFor_unused (expr tail : String) (s : NameScope) (h : site.dialect.ident expr tail ∉ s.used) :
    out (site.nameFor expr tail) (some s) = site.dialect.ident expr tail ∧
      scopeAfter (site.nameFor expr tail) (some s) = some { used := site.dialect.ident expr tail :: s.used } := by
  have hfresh : s.fresh (site.dialect.ident expr tail) = site.dialect.ident expr tail := NameScope.fresh_of_not_mem h
  refine ⟨hfresh, ?_⟩
  show some (NameScope.mk (s.fresh (site.dialect.ident expr tail) :: s.used)) = _
  rw [hfresh]

/-- A new handle, and then what is done with it. -/
theorem follows_of_nameFor {expr expr' tail : String} {next next' : String → Naming (List Stmt)}
    (hident : site.dialect.ident expr' tail = pad ++ site.dialect.ident expr tail) (hbound : bound ≤ wordCount (site.dialect.ident expr tail))
    (hnext : ∀ handle, bound ≤ wordCount handle → Follows site.dialect pad bound (next handle) (next' (pad ++ handle))) :
    Follows site.dialect pad bound (site.nameFor expr tail >>= next) (site.nameFor expr' tail >>= next') := by
  intro s t hst
  have hname : out (site.nameFor expr' tail) (some t) = pad ++ out (site.nameFor expr tail) (some s) := by
    show t.fresh (site.dialect.ident expr' tail) = pad ++ s.fresh (site.dialect.ident expr tail)
    rw [hident, hst.fresh hbound]
  have hlong : bound ≤ wordCount (out (site.nameFor expr tail) (some s)) := Nat.le_trans hbound (NameScope.Shifted.wordCount_fresh s _)
  have hscope : ∀ e u, scopeAfter (site.nameFor e tail) (some u) = some { used := out (site.nameFor e tail) (some u) :: u.used } :=
    fun _ _ => rfl
  simp only [out_bind, scopeAfter_bind, hname, hscope]
  exact hnext _ hlong _ _ (hst.cons _)

theorem elementLoop_follows (whole elem : WireType) (depth : Nat) (extent extent' : Bound)
    {body body' : String → ByteSize → Naming (List Stmt)}
    (h : ∀ size, Follows site.dialect pad bound (body (site.dialect.indexVar depth) size) (body' (site.dialect.indexVar depth) size)) :
    Follows site.dialect pad bound (site.elementLoop whole elem depth extent body) (site.elementLoop whole elem depth extent' body') := by
  unfold elementLoop
  cases elem.byteSize site.dialect with
  | error f => exact .fail f
  | ok size =>
    by_cases hm : site.mode = .exit
    · simpa [hm] using Follows.fail (loopRefused whole)
    · simp only [beq_iff_eq, hm, if_false]
      intro s t hst
      obtain ⟨hout, hafter⟩ := h size s t hst
      exact ⟨hout.loop _ _ _, hafter⟩

theorem embeddedString_handles (place : Place) (parent : String) (offset : Offset) :
    Stmt.handlesAll site.dialect (site.embeddedString place parent offset) = [] := by
  simp [embeddedString, Stmt.handlesAll, Stmt.handles]

theorem embeddedVector_handles (type : String) (place : Place) (parent : String) (offset : Offset) (child : String) :
    Stmt.handlesAll site.dialect (site.embeddedVector type place parent offset child) = [child] := by
  simp [embeddedVector, Stmt.handle, Stmt.handlesAll, Stmt.handles]

theorem embeddedBinder_handles (name : String) (place : Place) (parent : String) (offset : Offset) :
    Stmt.handlesAll site.dialect (site.embeddedBinder name place parent offset) = [] := by
  cases hr : site.reader <;> simp [embeddedBinder, hr, Stmt.handlesAll, Stmt.handles, Dialect.strongPointerTo_ne]

theorem embeddedString_shadows (place place' : Place) (parent parent' : String) (offset offset' : Offset) :
    Shadows site.dialect pad bound (site.embeddedString place parent offset) (site.embeddedString place' parent' offset') :=
  .silent (site.embeddedString_handles ..) (site.embeddedString_handles ..)
    ((site.embeddedString_failures ..).trans (site.embeddedString_failures ..).symm)

theorem embeddedBinder_shadows (name : String) (place place' : Place) (parent parent' : String) (offset offset' : Offset) :
    Shadows site.dialect pad bound (site.embeddedBinder name place parent offset) (site.embeddedBinder name place' parent' offset') :=
  .silent (site.embeddedBinder_handles ..) (site.embeddedBinder_handles ..)
    ((site.embeddedBinder_failures ..).trans (site.embeddedBinder_failures ..).symm)

theorem embeddedVector_shadows (type : String) (place place' : Place) (parent parent' : String) (offset offset' : Offset) {child : String}
    (hchild : bound ≤ wordCount child) : Shadows site.dialect pad bound (site.embeddedVector type place parent offset child)
      (site.embeddedVector type place' parent' offset' (pad ++ child)) :=
  .single (site.embeddedVector_handles ..) (site.embeddedVector_handles ..)
    ((site.embeddedVector_failures ..).trans (site.embeddedVector_failures ..).symm) hchild

end Site

/-- What may stand behind an expression: nothing, a member or an index. -/
def Opens (rest : String) : Prop := ∀ c, rest.toList.head? = some c → c = '.' ∨ c = '-' ∨ c = '['

theorem opens_member (isPointer : Bool) (rest : String) : Opens ((if isPointer then "->" else ".") ++ rest) := by
  intro c hc
  cases isPointer with
  | true =>
    have harrow : '-' = c := by simpa using hc
    exact .inr (.inl harrow.symm)
  | false =>
    have hdot : '.' = c := by simpa using hc
    exact .inl hdot.symm

theorem opens_index (rest : String) : Opens ("[" ++ rest) := by
  intro c hc
  have hbracket : '[' = c := by simpa using hc
  exact .inr (.inr hbracket.symm)

/-- The children of what `expr'` leads to are named like those of what `expr` leads to, with `pad` in front. -/
def Shifts (d : Dialect) (pad : String) (bound : Nat) (expr expr' : String) : Prop :=
  ∀ rest, Opens rest → d.ident (expr' ++ rest) "child" = pad ++ d.ident (expr ++ rest) "child" ∧
    bound ≤ wordCount (d.ident (expr ++ rest) "child")

namespace Shifts

variable {d : Dialect} {pad : String} {bound : Nat} {expr expr' : String}

theorem ident (h : Shifts d pad bound expr expr') :
    d.ident expr' "child" = pad ++ d.ident expr "child" ∧ bound ≤ wordCount (d.ident expr "child") := by
  simpa using h "" (by simp [Opens])

theorem append (h : Shifts d pad bound expr expr') (step : String) (hopens : ∀ rest, Opens (step ++ rest)) :
    Shifts d pad bound (expr ++ step) (expr' ++ step) := by
  intro rest _
  simpa only [String.append_assoc] using h (step ++ rest) (hopens rest)

theorem element (h : Shifts d pad bound expr expr') (index : String) :
    Shifts d pad bound (Place.element expr index).text (Place.element expr' index).text := by
  have hstep := h.append ("[" ++ (index ++ "]")) fun rest => by
    rw [String.append_assoc]
    exact opens_index _
  simpa only [Place.element, String.append_assoc] using hstep

theorem member {place place' : Place} (h : Shifts d pad bound place.text place'.text) (hp : place.isPointer = place'.isPointer)
    (field : String) : Shifts d pad bound (place.member field).text (place'.member field).text := by
  have hstep := h.append ((if place.isPointer then "->" else ".") ++ field) fun rest => by
    rw [String.append_assoc]
    exact opens_member _ _
  simpa only [Place.member, Place.select, hp, String.append_assoc] using hstep

end Shifts

namespace Site

variable (site : Site) {pad : String} {bound : Nat}

mutual

/-- Walks side by side through the same type. -/
theorem walk_follows (t : WireType) (depth : Nat) (place place' : Place) (parent parent' : String) (offset offset' : Offset)
    (hp : place.isPointer = false) (hp' : place'.isPointer = false) (h : Shifts site.dialect pad bound place.text place'.text) :
    Follows site.dialect pad bound (site.walk t depth place parent offset) (site.walk t depth place' parent' offset') := by
  cases t with
  | string =>
    simp only [walk]
    exact .pure (site.embeddedString_shadows ..)
  | interface name =>
    simp only [walk]
    exact .pure (site.embeddedBinder_shadows ..)
  | struct name fields =>
    simp only [walk]
    exact walkMembers_follows name fields depth place place' parent parent' offset offset' (hp.trans hp'.symm) h
  | array elem dim =>
    simp only [walk]
    by_cases he : elem.isEmbedded = true
    · rw [if_pos he, if_pos he]
      refine site.elementLoop_follows _ _ _ _ _ fun size => ?_
      exact walk_follows elem (depth + 1) _ _ _ _ _ _ rfl rfl (h.element _)
    · rw [if_neg he, if_neg he]
      exact .nil
  | vector elem =>
    have hvector : place.vector = place.text := by simp [Place.vector, hp]
    have hvector' : place'.vector = place'.text := by simp [Place.vector, hp']
    obtain ⟨hident, hbound⟩ := h.ident
    simp only [walk, hvector, hvector']
    cases (WireType.vector elem).spell site.dialect .stack with
    | error f => exact .fail f
    | ok spelling =>
      refine site.follows_of_nameFor hident hbound fun child hchild => ?_
      have hcall : Shadows site.dialect pad bound (site.embeddedVector spelling.name place parent offset child)
          (site.embeddedVector spelling.name place' parent' offset' (pad ++ child)) := site.embeddedVector_shadows _ _ _ _ _ _ _ hchild
      cases elem.isEmbedded with
      | false => exact .pure hcall
      | true =>
        refine .prepend hcall (site.elementLoop_follows _ _ _ _ _ fun size => ?_)
        exact walk_follows elem (depth + 1) _ _ _ _ _ _ rfl rfl (h.element _)
  | absent | scalar _ | enum _ _ _ =>
    simp only [walk]
    exact .nil

theorem walkMembers_follows (name : String) (fields : List (String × WireType)) (depth : Nat) (place place' : Place)
    (parent parent' : String) (offset offset' : Offset) (hp : place.isPointer = place'.isPointer)
    (h : Shifts site.dialect pad bound place.text place'.text) :
    Follows site.dialect pad bound (site.walkMembers name fields depth place parent offset)
      (site.walkMembers name fields depth place' parent' offset') := by
  match fields with
  | [] =>
    simp only [walkMembers]
    exact .nil
  | (field, t) :: rest =>
    have hrest := walkMembers_follows name rest depth place place' parent parent' offset offset' hp h
    simp only [walkMembers]
    cases t.isEmbedded with
    | false => exact Follows.nil.append hrest
    | true =>
      exact ((walk_follows t depth _ _ parent parent' _ _ rfl rfl (h.member hp field)).within _).append hrest

end

/-- A pointer makes no difference to the names, except in front of a vector, which is dereferenced. -/
theorem walk_pointer_follows {t : WireType} (ht : ∀ elem, t ≠ .vector elem) (depth : Nat) {place place' : Place} (parent parent' : String)
    (offset offset' : Offset) (hp : place.isPointer = place'.isPointer) (h : Shifts site.dialect pad bound place.text place'.text) :
    Follows site.dialect pad bound (site.walk t depth place parent offset) (site.walk t depth place' parent' offset') := by
  cases t with
  | vector elem => exact absurd rfl (ht elem)
  | struct name fields =>
    simp only [walk]
    exact site.walkMembers_follows name fields depth place place' parent parent' offset offset' hp h
  | array elem dim =>
    have hplain := site.walk_follows (.array elem dim) depth { text := place.text } { text := place'.text } parent parent' offset offset' rfl rfl h
    simpa only [walk] using hplain
  | string =>
    simp only [walk]
    exact .pure (site.embeddedString_shadows ..)
  | interface name =>
    simp only [walk]
    exact .pure (site.embeddedBinder_shadows ..)
  | absent | scalar _ | enum _ _ _ =>
    simp only [walk]
    exact .nil

end Site

namespace Dialect

/-- A lead is found in front of a longer expression only if it is found in front of the variable, as long as none of its characters comes next. -/
theorem not_lead_append {lead x rest : List Char} (hx : ¬ lead <+: x) (hrest : ∀ c, rest.head? = some c → c ∉ lead) : ¬ lead <+: x ++ rest := by
  intro h
  rcases List.prefix_or_prefix_of_prefix h (List.prefix_append x rest) with hlead | ⟨more, hmore⟩
  · exact hx hlead
  · rw [← hmore] at h
    have hnext : more <+: rest := (List.prefix_append_right_inj x).mp h
    cases more with
    | nil => exact hx (by simp [← hmore])
    | cons c more =>
      obtain ⟨rest', hrest'⟩ := hnext
      exact hrest c (by simp [← hrest']) (by simp [← hmore])

theorem dropLead_of_not {lead expr : List Char} (h : ¬ lead <+: expr) : dropLead lead expr = expr := by
  rw [dropLead, if_neg (by simpa using h)]

variable {d : Dialect} (hd : d.lead = "_hidl_")
include hd

theorem dropLead_variable {x rest : String} (hx : ¬ "_hidl_".toList <+: x.toList) (hrest : Opens rest) :
    dropLead d.lead.toList (x ++ rest).toList = (x ++ rest).toList := by
  rw [hd, String.toList_append]
  refine dropLead_of_not (not_lead_append hx fun c hc => ?_)
  rcases hrest c hc with rfl | rfl | rfl <;> decide

/-- One copy of the lead is kept. -/
theorem ident_lead {x rest : String} (hx : ¬ "_hidl_".toList <+: x.toList) (hrest : Opens rest) (tail : String) :
    d.ident ("_hidl_" ++ x ++ rest) tail = d.ident (x ++ rest) tail := by
  apply String.toList_inj.mp
  rw [toList_ident, toList_ident, dropLead_variable hd hx hrest, String.append_assoc, ← hd, String.toList_append, dropLead_append]

theorem wordCount_ident_variable {x : String} (hx : ¬ "_hidl_".toList <+: x.toList) (tail : String) :
    wordCount (d.ident x tail) = wordCount d.lead + wordCount x + wordCount tail := by
  rw [wordCount_ident, hd, dropLead_of_not hx]
  rfl

theorem dropLead_deref (expr : String) : dropLead d.lead.toList ("(*" ++ expr).toList = '(' :: '*' :: expr.toList := by
  rw [hd, String.toList_append]
  exact dropLead_of_not (by simp)

theorem wordCount_ident_deref (expr tail : String) :
    wordCount (d.ident ("(*" ++ expr) tail) = wordCount d.lead + wordCount expr + wordCount tail := by
  rw [wordCount_ident, dropLead_deref hd, List.countP_cons_of_neg (by decide), List.countP_cons_of_neg (by decide)]
  rfl

/-- A lead that stands behind a parenthesis is not seen, and is kept beside the one in front. -/
theorem ident_deref (rest tail : String) : d.ident ("(*" ++ ("_hidl_" ++ rest)) tail = "_hidl" ++ d.ident ("(*" ++ rest) tail := by
  have hstem : stem "_hidl_".toList ('(' :: '*' :: ("_hidl_" ++ rest).toList) =
      "_hidl".toList ++ stem "_hidl_".toList ('(' :: '*' :: rest.toList) := by
    rw [String.toList_append]
    show trimUnderscores ("_hidl".toList ++ ("_hidl_".toList ++ wordChars true rest.toList)) =
      "_hidl".toList ++ trimUnderscores ("_hidl_".toList ++ wordChars true rest.toList)
    exact trimUnderscores_append_of_mem ⟨'h', by simp, by decide⟩
  apply String.toList_inj.mp
  rw [String.toList_append, toList_ident, toList_ident, dropLead_deref hd, dropLead_deref hd, hd, hstem, List.append_assoc]

end Dialect

namespace Site

variable (site : Site) {pad : String} {bound : Nat}

theorem scalar_handles (s : Scalar) (cast : Option String) (name : String) : Stmt.handlesAll site.dialect (site.scalar s cast name) = [] := by
  cases hk : s.isKnown <;> cases hr : site.reader <;> simp [scalar, hk, hr, Stmt.handlesAll, Stmt.handles]

theorem scalar_shadows (s : Scalar) (cast : Option String) (name name' : String) :
    Shadows site.dialect pad bound (site.scalar s cast name) (site.scalar s cast name') :=
  .silent (site.scalar_handles ..) (site.scalar_handles ..) ((site.scalar_failures ..).trans (site.scalar_failures ..).symm)

theorem enum_shadows (typeName : String) (storage : Scalar) (name name' : String) :
    Shadows site.dialect pad bound (site.enum typeName storage name) (site.enum typeName storage name') := by
  unfold enum
  by_cases hstorage : storage.isInteger = true
  · rw [if_pos hstorage, if_pos hstorage]
    exact site.scalar_shadows ..
  · rw [if_neg hstorage, if_neg hstorage]
    exact .silent rfl rfl rfl

theorem interface_handles (typeName name : String) : Stmt.handlesAll site.dialect (site.interface typeName name) = [] := by
  cases hr : site.reader <;> simp [interface, hr, Stmt.handlesAll, Stmt.handles, Dialect.strongPointerTo_ne]

theorem interface_shadows (typeName name name' : String) :
    Shadows site.dialect pad bound (site.interface typeName name) (site.interface typeName name') :=
  .silent (site.interface_handles ..) (site.interface_handles ..) ((site.interface_failures ..).trans (site.interface_failures ..).symm)

theorem flatBlock_handles (name type source : String) (extent : Extent) (handle : String) :
    Stmt.handlesAll site.dialect (site.flatBlock name type source extent handle) = [handle] := by
  cases hr : site.reader <;> simp [flatBlock, hr, nullCheck, Stmt.handle, Stmt.handlesAll, Stmt.handles]

theorem flatBlock_shadows (name name' type source source' : String) (extent extent' : Extent) {handle : String}
    (hhandle : bound ≤ wordCount handle) : Shadows site.dialect pad bound (site.flatBlock name type source extent handle)
      (site.flatBlock name' type source' extent' (pad ++ handle)) :=
  .single (site.flatBlock_handles ..) (site.flatBlock_handles ..) ((site.flatBlock_failures ..).trans (site.flatBlock_failures ..).symm) hhandle

/-- What is inside the elements of a vector that is read into a variable. -/
def rootElements (elem : WireType) (name child : String) : Naming (List Stmt) :=
  if elem.isEmbedded then
    site.elementLoop (.vector elem) elem 0 (.elementsOf ("(*" ++ name ++ ")")) fun index size =>
      site.walk elem 1 (Place.element ("(*" ++ name ++ ")") index) child { base := "0", terms := [.element index size] }
  else return []

/-- A vector is refused whatever the variable is called, or it has a spelling. -/
theorem vector_refused_or (elem : WireType) :
    (∃ f, ∀ name, name ≠ "" → out (site.topLevel (.vector elem) name) (some {}) = [.fail f]) ∨
      ∃ spelling, (WireType.vector elem).missing? = none ∧ (WireType.vector elem).spell site.dialect .stack = .ok spelling := by
  cases hmissing : (WireType.vector elem).missing? with
  | some f => exact .inl ⟨f, fun name hne => by simp [topLevel, hne, hmissing]⟩
  | none =>
    cases hspell : (WireType.vector elem).spell site.dialect .stack with
    | error f => exact .inl ⟨f, fun name hne => by simp [topLevel, hne, hmissing, block, hspell]⟩
    | ok spelling => exact .inr ⟨spelling, rfl, rfl⟩

/-- Reading a vector gives handles to its block and to its elements, and goes on with what is inside the elements. -/
theorem vector_handles (hreader : site.reader = true) {elem : WireType} {name : String} (hne : name ≠ "") {spelling : Spelling}
    (hmissing : (WireType.vector elem).missing? = none) (hspell : (WireType.vector elem).spell site.dialect .stack = .ok spelling) :
    let parent := site.dialect.ident name "parent"
    let child := site.dialect.ident name "child"
    Stmt.handlesAll site.dialect (out (site.topLevel (.vector elem) name) (some {})) = parent ::
      if site.mode.fault?.isSome then []
      else child :: Stmt.handlesAll site.dialect (out (site.rootElements elem name child) (some { used := [child, parent] })) := by
  intro parent child
  have hparent := site.nameFor_unused name "parent" {} (by simp)
  have hdistinct : child ∉ [parent] := by
    intro hin
    have hcounts := congrArg wordCount (List.mem_singleton.mp hin)
    exact Nat.ne_of_lt (site.dialect.wordCount_child_lt_parent name) hcounts
  have hchild := site.nameFor_unused name "child" { used := [parent] } hdistinct
  have hwalk : out (site.walk (.vector elem) 0 { text := name, isPointer := true } parent { base := "0" }) (some { used := [parent] }) =
      site.embeddedVector spelling.name { text := name, isPointer := true } parent { base := "0" } child ++
        out (site.rootElements elem name child) (some { used := [child, parent] }) := by
    simp only [walk, hspell, rootElements, Place.vector, if_true, out_bind, hchild.1, hchild.2]
    cases elem.isEmbedded with
    | false => simp [child]
    | true => rfl
  have hroot : out (site.topLevel (.vector elem) name) (some {}) =
      site.flatBlock name spelling.name ("&" ++ name) (.variable name) parent ++
        out (site.walk (.vector elem) 0 { text := name, isPointer := true } parent { base := "0" }) (some { used := [parent] }) := by
    simp only [topLevel, beq_iff_eq, hne, if_false, hmissing, block, hspell, hreader, out_bind, hparent.1, hparent.2]
    rfl
  rw [hroot, hwalk, Stmt.handlesAll_append, Stmt.handlesAll_append, flatBlock_handles, flatBlock_failures, embeddedVector_handles,
    embeddedVector_failures]
  cases site.mode.fault? <;> rfl

variable (hd : site.dialect.lead = "_hidl_") {x : String} (hx : ¬ "_hidl_".toList <+: x.toList)
include hd hx

theorem shifts_variable : Shifts site.dialect "" 0 x ("_hidl_" ++ x) := by
  intro rest hrest
  rw [Dialect.ident_lead hd hx hrest]
  exact ⟨by simp, Nat.zero_le _⟩

theorem ident_variable (tail : String) : site.dialect.ident ("_hidl_" ++ x) tail = site.dialect.ident x tail := by
  have hopens : Opens "" := by simp [Opens]
  simpa using Dialect.ident_lead hd hx hopens tail

/-- A flat block, and then a walk through what the variable leads to. -/
theorem flat_follows {t : WireType} (ht : ∀ elem, t ≠ .vector elem) (type source source' : String) (extent extent' : Extent) (isPointer : Bool) :
    Follows site.dialect "" 0
      (do
        let parent ← site.nameFor x "parent"
        return site.flatBlock x type source extent parent ++ (← site.walk t 0 { text := x, isPointer } parent { base := "0" }))
      (do
        let parent ← site.nameFor ("_hidl_" ++ x) "parent"
        return site.flatBlock ("_hidl_" ++ x) type source' extent' parent ++
          (← site.walk t 0 { text := "_hidl_" ++ x, isPointer } parent { base := "0" })) := by
  refine site.follows_of_nameFor (by simp [site.ident_variable hd hx]) (Nat.zero_le _) fun parent _ => ?_
  exact .prepend (site.flatBlock_shadows _ _ _ _ _ _ _ (Nat.zero_le _)) (site.walk_pointer_follows ht 0 _ _ _ _ rfl (site.shifts_variable hd hx))

theorem block_follows {t : WireType} (ht : ∀ elem, t ≠ .vector elem) : Follows site.dialect "" 0 (site.block t x) (site.block t ("_hidl_" ++ x)) := by
  unfold block
  cases t.spell site.dialect .stack with
  | error f => exact .fail f
  | ok s => exact site.flat_follows hd hx ht _ _ _ _ _ _

theorem array_follows (elem : WireType) (dim : String) :
    Follows site.dialect "" 0 (site.array elem dim x) (site.array elem dim ("_hidl_" ++ x)) := by
  unfold array
  cases elem.spell site.dialect .stack with
  | error f => exact .fail f
  | ok s =>
    by_cases hs : s.suffix = ""
    · have hflat := site.flat_follows hd hx (t := .array elem dim) (by simp) s.name x ("_hidl_" ++ x) (.elements dim s.name)
        (.elements dim s.name) false
      simpa [hs] using hflat
    · simpa [hs] using Follows.fail (nestedArray (.array elem dim))

/-- A variable with the lead in front of its name, unless it is a vector, is read with the same handles. -/
theorem topLevel_follows {t : WireType} (ht : ∀ elem, t ≠ .vector elem) (hne : x ≠ "") :
    Follows site.dialect "" 0 (site.topLevel t x) (site.topLevel t ("_hidl_" ++ x)) := by
  have hempty : (x == "") = false := by simpa using hne
  have hempty' : ("_hidl_" ++ x == "") = false := by simp
  unfold topLevel
  rw [hempty, hempty']
  cases t.missing? with
  | some f => exact .fail f
  | none =>
    cases t with
    | absent => exact .fail _
    | scalar k => exact .pure (site.scalar_shadows ..)
    | enum typeName storage values => exact .pure (site.enum_shadows ..)
    | interface typeName => exact .pure (site.interface_shadows ..)
    | string => exact site.block_follows hd hx ht
    | vector elem => exact absurd rfl (ht elem)
    | struct typeName fields => exact site.block_follows hd hx ht
    | array elem dim => exact site.array_follows hd hx elem dim

/-- Below a vector that is dereferenced the lead is no longer at the start of the expression. -/
theorem shifts_deref (depth : Nat) : Shifts site.dialect "_hidl" (wordCount (site.dialect.ident x "parent") + 1)
    (Place.element ("(*" ++ x ++ ")") (site.dialect.indexVar depth)).text
    (Place.element ("(*" ++ ("_hidl_" ++ x) ++ ")") (site.dialect.indexVar depth)).text := by
  intro rest _
  simp only [Place.element, String.append_assoc]
  refine ⟨Dialect.ident_deref hd _ "child", ?_⟩
  -- The index has more letters and digits than `parent` has beyond `child`.
  have hindex : wordCount (site.dialect.indexVar depth) = wordCount site.dialect.lead + 5 + wordCount (toString (depth : Int)) := by
    rw [Dialect.indexVar, Dialect.wordCount_append, Dialect.wordCount_append]
    rfl
  have hchild : wordCount "child" = 5 := rfl
  have hparent : wordCount "parent" = 6 := rfl
  simp only [Dialect.wordCount_ident_variable hd hx, Dialect.wordCount_ident_deref hd, Dialect.wordCount_append, hindex]
  omega

theorem rootElements_follows (elem : WireType) (child child' : String) :
    Follows site.dialect "_hidl" (wordCount (site.dialect.ident x "parent") + 1) (site.rootElements elem x child)
      (site.rootElements elem ("_hidl_" ++ x) child') := by
  unfold rootElements
  cases elem.isEmbedded with
  | false => exact .nil
  | true =>
    rw [if_pos rfl, if_pos rfl]
    refine site.elementLoop_follows _ _ _ _ _ fun size => ?_
    exact site.walk_follows elem 1 _ _ _ _ _ _ rfl rfl (site.shifts_deref hd hx 0)

/-- A vector keeps the handles to its block and to its elements. All others, which are longer, get a second lead. -/
theorem vector_lead (hreader : site.reader = true) (elem : WireType) (hne : x ≠ "") :
    let handles name := Stmt.handlesAll site.dialect (out (site.topLevel (.vector elem) name) (some {}))
    handles ("_hidl_" ++ x) = (handles x).take 2 ++ ((handles x).drop 2).map ("_hidl" ++ ·) ∧
      (∀ n ∈ (handles x).take 2, wordCount n ≤ wordCount (site.dialect.ident x "parent")) ∧
      ∀ n ∈ (handles x).drop 2, wordCount (site.dialect.ident x "parent") < wordCount n := by
  intro handles
  have hne' : "_hidl_" ++ x ≠ "" := by simp
  rcases site.vector_refused_or elem with ⟨f, hrefused⟩ | ⟨spelling, hmissing, hspell⟩
  · simp [handles, hrefused x hne, hrefused _ hne', Stmt.handlesAll, Stmt.handles]
  · have hplain : handles x = _ := site.vector_handles hreader hne hmissing hspell
    have hlead : handles ("_hidl_" ++ x) = _ := site.vector_handles hreader hne' hmissing hspell
    rw [site.ident_variable hd hx, site.ident_variable hd hx] at hlead
    have hchild := Nat.le_of_lt (site.dialect.wordCount_child_lt_parent x)
    -- The vector's own names are too short to be met with again below it.
    have hown : NameScope.Shifted "_hidl" (wordCount (site.dialect.ident x "parent") + 1)
        { used := [site.dialect.ident x "child", site.dialect.ident x "parent"] }
        { used := [site.dialect.ident x "child", site.dialect.ident x "parent"] } := by
      refine .of_short fun n hn => Nat.lt_succ_of_le ?_
      rcases List.mem_pair.mp hn with rfl | rfl
      · exact hchild
      · exact Nat.le_refl _
    obtain ⟨⟨hinner, -, hlong⟩, -⟩ := site.rootElements_follows hd hx elem (site.dialect.ident x "child") (site.dialect.ident x "child") _ _ hown
    cases hmode : site.mode.fault? with
    | some e => simp [hplain, hlead, hmode]
    | none =>
      rw [hplain, hlead, hinner]
      exact ⟨by simp [hmode], by simpa [hmode] using hchild, fun n hn => hlong n (by simpa [hmode] using hn)⟩

end Site

/-- Names that have something put in front of them are others, unless there are none. -/
theorem mem_pad_iff {own inner : List String} (pad : String) {bound : Nat} (hown : ∀ n ∈ own, wordCount n ≤ bound)
    (hinner : ∀ n ∈ inner, bound < wordCount n) (hpad : 0 < wordCount pad) :
    (∀ n, n ∈ own ++ inner.map (pad ++ ·) ↔ n ∈ own ++ inner) ↔ inner = [] := by
  refine ⟨fun h => ?_, fun h => by simp [h]⟩
  by_contra hne
  -- The longest of the names would be there with `pad` in front.
  obtain ⟨m, hm⟩ : ∃ m, inner.argmax wordCount = some m := Option.ne_none_iff_exists'.mp fun hnone => hne (List.argmax_eq_none.mp hnone)
  have hmem : m ∈ inner := List.argmax_mem hm
  have hlonger : wordCount m < wordCount (pad ++ m) := by
    rw [Dialect.wordCount_append]
    omega
  have hpadded : pad ++ m ∈ own ++ inner := (h (pad ++ m)).mp (List.mem_append_right own (List.mem_map_of_mem hmem))
  rcases List.mem_append.mp hpadded with hin | hin
  · have hshort := hown _ hin
    have hlong := hinner m hmem
    omega
  · have hmax := List.le_of_mem_argmax hin hm
    omega

namespace WireType

/-- Some value of this type is a vector or holds one. -/
def HasVector (t : WireType) : Prop := ∃ p elem, t.at? p = some (.vector elem)

theorem hasVector_vector (elem : WireType) : (WireType.vector elem).HasVector := ⟨[], elem, at?_nil _⟩

theorem hasVector_array {elem : WireType} {dim : String} : (WireType.array elem dim).HasVector ↔ elem.HasVector := by
  constructor
  · rintro ⟨p, e, h⟩
    cases p with
    | nil => simp at h
    | cons step p =>
      cases step with
      | element => exact ⟨p, e, by simpa [child?] using h⟩
      | member i => simp [child?] at h
  · rintro ⟨p, e, h⟩
    exact ⟨.element :: p, e, by simpa [child?] using h⟩

theorem hasVector_struct {name : String} {fields : List (String × WireType)} :
    (WireType.struct name fields).HasVector ↔ ∃ f ∈ fields, f.2.HasVector := by
  constructor
  · rintro ⟨p, e, h⟩
    cases p with
    | nil => simp at h
    | cons step p =>
      obtain ⟨u, hchild, hu⟩ := at?_cons_eq_some h
      rcases child?_cases hchild with ⟨_, _, i, field, hstruct, -, hfield⟩ | ⟨_, harray, -⟩ | ⟨hvector, -⟩
      · cases hstruct
        exact ⟨(field, u), List.mem_of_getElem? hfield, p, e, hu⟩
      · cases harray
      · cases hvector
  · rintro ⟨f, hf, p, e, h⟩
    obtain ⟨i, hi⟩ := List.mem_iff_getElem?.mp hf
    exact ⟨.member i :: p, e, by simpa [child?, hi] using h⟩

theorem not_hasVector_of_leaf {t : WireType} (hvector : ∀ elem, t ≠ .vector elem) (hleaf : ∀ step, t.child? step = none) : ¬ t.HasVector := by
  rintro ⟨p, e, h⟩
  cases p with
  | nil => exact hvector e (by simpa using h)
  | cons step p => simp [hleaf step] at h

theorem not_hasVector_of_not_embedded {t : WireType} (h : t.isEmbedded = false) : ¬ t.HasVector := by
  rintro ⟨p, e, hp⟩
  have hmem : p ∈ t.references := (mem_references t p).mpr ⟨_, hp, rfl⟩
  rw [references_of_not_embedded t h] at hmem
  cases hmem

end WireType

namespace Site

variable (site : Site)

mutual

/-- A walk that does not fail declares a handle when there is a vector to walk through. -/
theorem walk_handles_eq_nil (t : WireType) (depth : Nat) (place : Place) (parent : String) (offset : Offset) (s : Option NameScope)
    (hfault : t.walkFault? site.dialect site.mode = none) :
    Stmt.handlesAll site.dialect (out (site.walk t depth place parent offset) s) = [] ↔ ¬ t.HasVector := by
  cases t with
  | string =>
    simp only [walk, out_pure, site.embeddedString_handles, true_iff]
    exact WireType.not_hasVector_of_leaf (by simp) fun _ => rfl
  | interface name =>
    simp only [walk, out_pure, site.embeddedBinder_handles, true_iff]
    exact WireType.not_hasVector_of_leaf (by simp) fun _ => rfl
  | struct name fields =>
    simp only [WireType.walkFault?] at hfault
    simp only [walk, WireType.hasVector_struct, not_exists, not_and]
    exact walkMembers_handles_eq_nil name fields depth place parent offset s hfault
  | array elem dim =>
    simp only [WireType.walkFault?] at hfault
    simp only [walk, WireType.hasVector_array]
    cases he : elem.isEmbedded with
    | false => simpa [Stmt.handlesAll] using WireType.not_hasVector_of_not_embedded he
    | true =>
      rw [he, if_pos rfl] at hfault
      rw [if_pos rfl, site.elementLoop_out hfault, Stmt.handlesAll_singleton, Stmt.handles]
      exact walk_handles_eq_nil elem _ _ _ _ s (elementFault?_eq_none hfault).2.2
  | vector elem =>
    refine ⟨fun h => ?_, fun h => absurd (WireType.hasVector_vector elem) h⟩
    simp only [walk] at h
    cases hspell : (WireType.vector elem).spell site.dialect .stack with
    | error f => simp [WireType.walkFault?, hspell] at hfault
    | ok spelling =>
      cases he : elem.isEmbedded with
      | false => simp [hspell, he, site.embeddedVector_handles] at h
      | true => simp [hspell, he, Stmt.handlesAll_append, site.embeddedVector_handles] at h
  | absent | scalar _ | enum _ _ _ =>
    simp only [walk, out_pure, Stmt.handlesAll, true_iff]
    exact WireType.not_hasVector_of_leaf (by simp) fun _ => rfl

theorem walkMembers_handles_eq_nil (name : String) (fields : List (String × WireType)) (depth : Nat) (place : Place) (parent : String)
    (offset : Offset) (s : Option NameScope) (hfault : WireType.memberFault? site.dialect site.mode name fields = none) :
    Stmt.handlesAll site.dialect (out (site.walkMembers name fields depth place parent offset) s) = [] ↔ ∀ f ∈ fields, ¬ f.2.HasVector := by
  match fields with
  | [] => simp [walkMembers, Stmt.handlesAll]
  | (field, t) :: rest =>
    simp only [WireType.memberFault?, Option.or_eq_none_iff] at hfault
    have hrest := fun s => walkMembers_handles_eq_nil name rest depth place parent offset s hfault.2
    simp only [walkMembers, List.forall_mem_cons]
    cases he : t.isEmbedded with
    | false => simp [hrest, WireType.not_hasVector_of_not_embedded he]
    | true =>
      have hhere : t.walkFault? site.dialect site.mode = none := by simpa [he] using hfault.1
      have hwithin : Stmt.failures site.dialect [.within [name, field]
          (out (site.walk t depth (place.member field) parent (offset.step (.member name field))) s)] = none := by
        simp [site.walk_failures, hhere]
      simp only [if_true, out_bind, out_pure]
      rw [Stmt.handlesAll_append, Stmt.handlesAll_singleton, Stmt.handles, hwithin, List.append_eq_nil_iff, walk_handles_eq_nil t _ _ _ _ _ hhere]
      simp only [Option.isSome_none, Bool.false_eq_true, if_false, hrest]

end

/-- Reading a vector without a failure declares more than the two handles of its own when its elements hold vectors. -/
theorem vector_handles_length (hreader : site.reader = true) {elem : WireType} {name : String} (hne : name ≠ "")
    (hfault : (WireType.vector elem).transferFault? site.dialect site.mode = none) :
    (Stmt.handlesAll site.dialect (out (site.topLevel (.vector elem) name) (some {}))).length ≤ 2 ↔ ¬ elem.HasVector := by
  obtain ⟨hmissing, hblock⟩ := Option.or_eq_none_iff.mp hfault
  cases hspell : (WireType.vector elem).spell site.dialect .stack with
  | error f => simp [hspell] at hblock
  | ok spelling =>
    simp only [hspell, Option.or_eq_none_iff, WireType.walkFault?] at hblock
    obtain ⟨hmode, -, hwalk⟩ := hblock
    rw [site.vector_handles hreader hne (by simpa using hmissing) hspell, hmode]
    simp only [Option.isSome_none, Bool.false_eq_true, if_false, List.length_cons, Nat.reduceLeDiff, Nat.le_zero, List.length_eq_zero_iff]
    unfold rootElements
    cases he : elem.isEmbedded with
    | false => simpa [Stmt.handlesAll] using WireType.not_hasVector_of_not_embedded he
    | true =>
      rw [he, if_pos rfl] at hwalk
      rw [if_pos rfl, site.elementLoop_out hwalk, Stmt.handlesAll_singleton, Stmt.handles]
      exact site.walk_handles_eq_nil elem _ _ _ _ _ (elementFault?_eq_none hwalk).2.2

end Site

/-- Reading into a variable whose name has the lead in front declares the handles of reading into the variable without it, unless the variable is
a vector. A vector keeps its own two handles only. So the same handles are declared exactly when there are no others, which is when its
elements hold no vectors. -/
theorem handles_of_lead (t : WireType) (buffer : Buffer) (mode : Unwind) (x : String) (hne : x ≠ "")
    (hlead : ¬ ({} : Dialect).lead.toList <+: x.toList) :
    let site : Site := { buffer, reader := true, mode }
    let handles name := Stmt.handlesAll site.dialect (out (site.topLevel t name) (some {}))
    let led := handles (site.dialect.lead ++ x)
    ((∀ elem, t ≠ .vector elem) → led = handles x) ∧
      ∀ elem, t = .vector elem →
        led = (handles x).take 2 ++ ((handles x).drop 2).map ("_hidl" ++ ·) ∧
        ((∀ n, n ∈ led ↔ n ∈ handles x) ↔ (handles x).length ≤ 2) ∧
        (t.transferFault? site.dialect mode = none → ((handles x).length ≤ 2 ↔ ¬ elem.HasVector)) := by
  intro site handles led
  have hd : site.dialect.lead = "_hidl_" := rfl
  refine ⟨fun ht => ?_, ?_⟩
  · have hsame := (site.topLevel_follows hd hlead ht hne {} {} (.same {})).1.handles
    simpa using hsame
  · rintro elem rfl
    obtain ⟨hlaw, hown, hinner⟩ := site.vector_lead hd hlead rfl elem hne
    refine ⟨hlaw, ?_, fun hfault => site.vector_handles_length rfl hne hfault⟩
    have hmem := mem_pad_iff "_hidl" hown hinner (by decide)
    rw [← hlaw, List.take_append_drop, List.drop_eq_nil_iff] at hmem
    exact hmem

theorem handles_of_lead_struct :
    let t : WireType := .struct "Table" [("rows", .vector (.vector (.scalar .uint32)))]
    let site : Site := { buffer := { name := "_hidl_reply" }, reader := true, mode := .goto }
    let handles name := Stmt.handlesAll site.dialect (out (site.topLevel t name) (some {}))
    handles "_hidl_out_r" = handles "out_r" ∧
      handles "out_r" = ["_hidl_out_r_parent", "_hidl_out_r_rows_child", "_hidl_out_r_rows_hidl_index_0_child"] :=
  ⟨(handles_of_lead _ { name := "_hidl_reply" } .goto "out_r" (by decide) (by decide)).1 (by simp), by decide⟩

/-- The rows of a vector of vectors are not found under the name they have without the lead. -/
theorem handles_of_lead_rows :
    let site : Site := { buffer := { name := "_hidl_reply" }, reader := true, mode := .goto }
    let handles name := Stmt.handlesAll site.dialect (out (site.topLevel (.vector (.vector (.scalar .uint32))) name) (some {}))
    handles "_hidl_out_r" = ["_hidl_out_r_parent", "_hidl_out_r_child", "_hidl_hidl_out_r_hidl_index_0_child"] ∧
      handles "out_r" = ["_hidl_out_r_parent", "_hidl_out_r_child", "_hidl_out_r_hidl_index_0_child"] := by
  decide

end Parcelgen
