import Parcelgen.Proofs.Marshal.Transfer

/-!
Where control leaves generated statements. Marshalling statements leave in one way only, the mode of their site, and never by a label, a
return or a `break` of their own; a loop is among them only if that mode can leave one (`Marshals`). Outside braces they declare nothing but
handles without a value (`DeclaresHandles`), so jumping over them skips no initialisation.
-/

namespace Parcelgen

open Naming

namespace Unwind

/-- What the statement of a mode begins with. -/
def initial : Unwind → Char
  | .ignore => '/'
  | .goto => 'g'
  | .exit => 'b'
  | .return => 'r'
  | .unknown => ' '

theorem head?_of_statement {mode : Unwind} {v : Vocabulary} {text : String} (h : mode.statement v = .ok text) :
    text.toList.head? = some mode.initial := by
  cases mode with
  | unknown => cases h
  | _ =>
    obtain rfl := Except.ok.inj h
    simp [initial]

/-- The statement tells its mode, whatever words it is made of. -/
theorem eq_of_statement {mode mode' : Unwind} {v v' : Vocabulary} {text : String} (h : mode.statement v = .ok text)
    (h' : mode'.statement v' = .ok text) : mode = mode' := by
  have hinitial : mode.initial = mode'.initial :=
    Option.some.inj ((head?_of_statement h).symm.trans (head?_of_statement h'))
  cases mode <;> cases mode' <;> simp_all [initial]

theorem eq_goto {mode : Unwind} {v : Vocabulary} {l : String} (h : mode.statement v = .ok ("goto " ++ l ++ ";")) :
    mode = .goto ∧ l = v.label := by
  obtain rfl : mode = .goto := eq_of_statement h (show Unwind.goto.statement ⟨"", "", l⟩ = _ from rfl)
  have htext : "goto " ++ v.label ++ ";" = "goto " ++ l ++ ";" := Except.ok.inj h
  rw [String.append_left_inj, String.append_right_inj] at htext
  exact ⟨rfl, htext.symm⟩

theorem statement_of_toOption (m : Unwind) {v : Vocabulary} {text : String} (h : (m.statement v).toOption = some text) :
    m.statement v = .ok text := by
  cases hs : m.statement v with
  | error f => simp [hs, Except.toOption] at h
  | ok t => simpa [hs, Except.toOption] using h

end Unwind

namespace Stmt

mutual

/-- The statement and all statements inside it. -/
def inside : Stmt → List Stmt
  | .block head body after => .block head body after :: insideAll body
  | .choice test yes no => .choice test yes no :: (insideAll yes ++ insideAll no)
  | .loop index bound body => .loop index bound body :: insideAll body
  | .callback head body => .callback head body :: insideAll body
  | .within _ body => insideAll body
  | s => [s]

def insideAll : List Stmt → List Stmt
  | [] => []
  | s :: ss => inside s ++ insideAll ss

end

mutual

/-- The statements that stand outside all braces of a list. -/
def level : Stmt → List Stmt
  | .within _ body => levelAll body
  | s => [s]

def levelAll : List Stmt → List Stmt
  | [] => []
  | s :: ss => level s ++ levelAll ss

end

/-- The statements between the braces of a statement. -/
def body : Stmt → List Stmt
  | .block _ body _ | .loop _ _ body | .callback _ body => body
  | .choice _ yes no => yes ++ no
  | _ => []

/-- The text by which a statement leaves its place. -/
def leaving? (d : Dialect) : Stmt → Option String
  | .check mode | .unwind mode => (mode.statement d.vocabulary).toOption
  | .leave => some ("return " ++ d.errVar ++ ";")
  | .leaveCase => some "break;"
  | _ => none

/-- The label that a statement defines. -/
def label? (d : Dialect) : Stmt → Option String
  | .label => some d.errorLabel
  | _ => none

@[simp] theorem insideAll_append (as bs : List Stmt) : insideAll (as ++ bs) = insideAll as ++ insideAll bs := by
  induction as with
  | nil => rfl
  | cons a as ih => simp only [List.cons_append, insideAll, ih, List.append_assoc]

@[simp] theorem levelAll_append (as bs : List Stmt) : levelAll (as ++ bs) = levelAll as ++ levelAll bs := by
  induction as with
  | nil => rfl
  | cons a as ih => simp only [List.cons_append, levelAll, ih, List.append_assoc]

mutual

/-- What is inside a statement of a list is inside the list. -/
theorem inside_body_subset : ∀ (t : Stmt) {s : Stmt}, s ∈ inside t → insideAll s.body ⊆ inside t
  | .block head body after, s, h => by
    simp only [inside, List.mem_cons] at h ⊢
    rcases h with rfl | h
    · exact List.subset_cons_self _ _
    · exact List.subset_cons_of_subset _ (insideAll_body_subset body h)
  | .choice test yes no, s, h => by
    simp only [inside, List.mem_cons, List.mem_append] at h ⊢
    rcases h with rfl | h | h
    · rw [body, insideAll_append]
      exact List.subset_cons_self _ _
    · exact List.subset_cons_of_subset _ (List.subset_append_of_subset_left _ (insideAll_body_subset yes h))
    · exact List.subset_cons_of_subset _ (List.subset_append_of_subset_right _ (insideAll_body_subset no h))
  | .loop index bound body, s, h => by
    simp only [inside, List.mem_cons] at h ⊢
    rcases h with rfl | h
    · exact List.subset_cons_self _ _
    · exact List.subset_cons_of_subset _ (insideAll_body_subset body h)
  | .callback head body, s, h => by
    simp only [inside, List.mem_cons] at h ⊢
    rcases h with rfl | h
    · exact List.subset_cons_self _ _
    · exact List.subset_cons_of_subset _ (insideAll_body_subset body h)
  | .within path body, s, h => insideAll_body_subset body h
  | .blank, s, h | .code _, s, h | .declare _ _ _, s, h | .transfer _ _, s, h | .embedded _, s, h | .check _, s, h | .unwind _, s, h
  | .label, s, h | .leave, s, h | .leaveCase, s, h | .fail _, s, h | .note _, s, h => by
    simp only [inside, List.mem_singleton] at h
    subst h
    exact List.nil_subset _

theorem insideAll_body_subset : ∀ (ss : List Stmt) {s : Stmt}, s ∈ insideAll ss → insideAll s.body ⊆ insideAll ss
  | [], s, h => by cases h
  | t :: ss, s, h => by
    simp only [insideAll, List.mem_append] at h
    rcases h with h | h
    · exact List.subset_append_of_subset_left _ (inside_body_subset t h)
    · exact List.subset_append_of_subset_right _ (insideAll_body_subset ss h)

end

mutual

/-- A statement outside braces is there with all that is inside it. -/
theorem inside_of_mem_level : ∀ (s : Stmt) {t : Stmt}, t ∈ level s → t ∈ inside t ∧ inside t ⊆ inside s
  | .within _ body, t, h => inside_of_mem_levelAll body h
  | .block _ _ _, t, h | .choice _ _ _, t, h | .loop _ _ _, t, h | .callback _ _, t, h => by
    simp only [level, List.mem_singleton] at h
    subst h
    exact ⟨List.mem_cons_self, List.Subset.refl _⟩
  | .blank, t, h | .code _, t, h | .declare _ _ _, t, h | .transfer _ _, t, h | .embedded _, t, h | .check _, t, h | .unwind _, t, h
  | .label, t, h | .leave, t, h | .leaveCase, t, h | .fail _, t, h | .note _, t, h => by
    simp only [level, List.mem_singleton] at h
    subst h
    exact ⟨List.mem_cons_self, List.Subset.refl _⟩

theorem inside_of_mem_levelAll : ∀ (ss : List Stmt) {t : Stmt}, t ∈ levelAll ss → t ∈ inside t ∧ inside t ⊆ insideAll ss
  | [], t, h => by cases h
  | s :: ss, t, h => by
    simp only [levelAll, List.mem_append] at h
    rcases h with h | h
    · obtain ⟨hself, hsub⟩ := inside_of_mem_level s h
      exact ⟨hself, List.subset_append_of_subset_left _ hsub⟩
    · obtain ⟨hself, hsub⟩ := inside_of_mem_levelAll ss h
      exact ⟨hself, List.subset_append_of_subset_right _ hsub⟩

end

/-- A statement that marshals values, or leaves as `mode` says; a loop only if the mode can leave it. -/
def marshals (mode : Unwind) : Stmt → Bool
  | .check m | .unwind m => m == mode
  | .loop _ _ _ => mode != .exit
  | .callback _ _ | .label | .leave | .leaveCase => false
  | _ => true

variable {d : Dialect} {mode : Unwind} {s : Stmt}

theorem label?_of_marshals (h : s.marshals mode = true) : s.label? d = none := by
  cases s <;> simp_all [marshals, label?]

/-- A marshalling statement only leaves as its mode says. -/
theorem statement_of_marshals (h : s.marshals mode = true) {text : String} (hs : s.leaving? d = some text) :
    mode.statement d.vocabulary = .ok text := by
  cases s with
  | check m | unwind m =>
    obtain rfl : m = mode := beq_iff_eq.mp h
    exact m.statement_of_toOption hs
  | leave | leaveCase => cases h
  | _ => cases hs

end Stmt

/-- The statements marshal values and leave in one way, inside braces too. -/
def Marshals (mode : Unwind) (ss : List Stmt) : Prop := ∀ s ∈ Stmt.insideAll ss, s.marshals mode = true

namespace Marshals

variable {mode : Unwind} {ss ss' : List Stmt}

theorem nil : Marshals mode [] := by simp [Marshals, Stmt.insideAll]

/-- A statement without braces. -/
theorem plain {s : Stmt} (hinside : s.inside = [s]) (hs : s.marshals mode = true) : Marshals mode [s] := by
  intro t ht
  rw [Stmt.insideAll, Stmt.insideAll, List.append_nil, hinside, List.mem_singleton] at ht
  exact ht ▸ hs

theorem append (h : Marshals mode ss) (h' : Marshals mode ss') : Marshals mode (ss ++ ss') := by
  intro s hs
  rw [Stmt.insideAll_append] at hs
  rcases List.mem_append.mp hs with hs | hs
  · exact h s hs
  · exact h' s hs

theorem within (h : Marshals mode ss) (path : List String) : Marshals mode [.within path ss] := by
  intro s hs
  simp only [Stmt.insideAll, Stmt.inside, List.append_nil] at hs
  exact h s hs

theorem loop (h : Marshals mode ss) (hmode : mode ≠ .exit) (index : String) (bound : Bound) : Marshals mode [.loop index bound ss] := by
  intro s hs
  simp only [Stmt.insideAll, Stmt.inside, List.append_nil, List.mem_cons] at hs
  rcases hs with rfl | hs
  · simpa [Stmt.marshals] using hmode
  · exact h s hs

/-- Nothing inside a loop breaks. -/
theorem leaving?_ne_break (h : Marshals mode ss) {index : String} {bound : Bound} {body : List Stmt}
    (hloop : .loop index bound body ∈ Stmt.insideAll ss) (d : Dialect) : ∀ s ∈ Stmt.insideAll body, s.leaving? d ≠ some "break;" := by
  have hmode : mode ≠ .exit := by simpa [Stmt.marshals] using h _ hloop
  intro s hs hbreak
  have hstatement := Stmt.statement_of_marshals (h s (Stmt.insideAll_body_subset ss hloop hs)) hbreak
  exact hmode (Unwind.eq_of_statement hstatement (show Unwind.exit.statement d.vocabulary = _ from rfl))

end Marshals

/-- Outside braces the statements declare handles only, which get no value where they are declared. -/
def DeclaresHandles (ss : List Stmt) : Prop := ∀ type name rest, .declare type name rest ∈ Stmt.levelAll ss → type = "size_t" ∧ rest = ""

namespace DeclaresHandles

variable {ss ss' : List Stmt}

theorem append (h : DeclaresHandles ss) (h' : DeclaresHandles ss') : DeclaresHandles (ss ++ ss') := by
  intro type name rest hmem
  rw [Stmt.levelAll_append] at hmem
  rcases List.mem_append.mp hmem with hmem | hmem
  · exact h type name rest hmem
  · exact h' type name rest hmem

theorem within (h : DeclaresHandles ss) (path : List String) : DeclaresHandles [.within path ss] := by
  intro type name rest hmem
  simp only [Stmt.levelAll, Stmt.level, List.append_nil] at hmem
  exact h type name rest hmem

end DeclaresHandles

/-- Statements that can stand between a jump and its label. -/
structure Skippable (mode : Unwind) (ss : List Stmt) : Prop where
  marshals : Marshals mode ss
  handles : DeclaresHandles ss

namespace Skippable

variable {mode : Unwind} {ss ss' : List Stmt}

theorem append (h : Skippable mode ss) (h' : Skippable mode ss') : Skippable mode (ss ++ ss') :=
  ⟨h.marshals.append h'.marshals, h.handles.append h'.handles⟩

theorem within (h : Skippable mode ss) (path : List String) : Skippable mode [.within path ss] :=
  ⟨h.marshals.within path, h.handles.within path⟩

theorem loop (h : Skippable mode ss) (hmode : mode ≠ .exit) (index : String) (bound : Bound) : Skippable mode [.loop index bound ss] :=
  ⟨h.marshals.loop hmode index bound, by simp [DeclaresHandles, Stmt.levelAll, Stmt.level]⟩

/-- Statements that can be looked through one by one. -/
theorem of_all (h : ∀ s ∈ Stmt.insideAll ss, s.marshals mode = true)
    (hlevel : ∀ s ∈ Stmt.levelAll ss, ∀ type name rest, s = .declare type name rest → type = "size_t" ∧ rest = "") : Skippable mode ss :=
  ⟨h, fun type name rest hmem => hlevel _ hmem type name rest rfl⟩

theorem nil : Skippable mode [] := ⟨.nil, by simp [DeclaresHandles, Stmt.levelAll]⟩

theorem fail (f : Fault) : Skippable mode [.fail f] :=
  .of_all (by simp [Stmt.insideAll, Stmt.inside, Stmt.marshals]) (by simp [Stmt.levelAll, Stmt.level])

end Skippable

namespace Site

theorem elementLoop_skippable (site : Site) (whole elem : WireType) (depth : Nat) (bound : Bound)
    {body : String → ByteSize → Naming (List Stmt)} (s : Option NameScope)
    (hb : ∀ index size s, Skippable site.mode (out (body index size) s)) :
    Skippable site.mode (out (site.elementLoop whole elem depth bound body) s) := by
  unfold elementLoop
  cases elem.byteSize site.dialect with
  | error f => exact .fail f
  | ok size =>
    by_cases hm : site.mode = .exit
    · simpa [hm] using Skippable.fail (loopRefused whole)
    · simp only [beq_iff_eq, hm, if_false, out_bind, out_pure]
      exact (hb _ size s).loop hm _ bound

theorem embeddedString_skippable (site : Site) (place : Place) (parent : String) (offset : Offset) :
    Skippable site.mode (site.embeddedString place parent offset) :=
  .of_all (by simp [embeddedString, Stmt.insideAll, Stmt.inside, Stmt.marshals]) (by simp [embeddedString, Stmt.levelAll, Stmt.level])

theorem embeddedBinder_skippable (site : Site) (name : String) (place : Place) (parent : String) (offset : Offset) :
    Skippable site.mode (site.embeddedBinder name place parent offset) := by
  unfold embeddedBinder
  split
  · exact .of_all (by simp [Stmt.insideAll, Stmt.inside, Stmt.marshals]) (by simp [Stmt.levelAll, Stmt.level])
  · exact .of_all (by simp [Stmt.insideAll, Stmt.inside, Stmt.marshals]) (by simp [Stmt.levelAll, Stmt.level])

theorem embeddedVector_skippable (site : Site) (type : String) (place : Place) (parent : String) (offset : Offset) (child : String) :
    Skippable site.mode (site.embeddedVector type place parent offset child) :=
  .of_all (by simp [embeddedVector, Stmt.handle, Stmt.insideAll, Stmt.inside, Stmt.marshals])
    (by simp +contextual [embeddedVector, Stmt.handle, Stmt.levelAll, Stmt.level])

mutual

theorem walk_skippable (site : Site) : ∀ (t : WireType) (depth : Nat) (place : Place) (parent : String) (offset : Offset)
    (s : Option NameScope), Skippable site.mode (out (site.walk t depth place parent offset) s)
  | .string, _, place, parent, offset, s => by
    simp only [walk, out_pure]
    exact site.embeddedString_skippable place parent offset
  | .interface name, _, place, parent, offset, s => by
    simp only [walk, out_pure]
    exact site.embeddedBinder_skippable name place parent offset
  | .struct name fields, depth, place, parent, offset, s => by
    simp only [walk]
    exact walkMembers_skippable site name fields depth place parent offset s
  | .array elem dim, depth, place, parent, offset, s => by
    simp only [walk]
    split
    · exact site.elementLoop_skippable _ _ _ _ _ fun index size s => walk_skippable site elem _ _ _ _ s
    · exact .nil
  | .vector elem, depth, place, parent, offset, s => by
    simp only [walk]
    split
    · exact .fail _
    · rename_i spelling _
      cases elem.isEmbedded with
      | false => exact site.embeddedVector_skippable spelling.name place parent offset _
      | true =>
        simp only [if_true, out_bind, out_pure]
        exact (site.embeddedVector_skippable spelling.name place parent offset _).append
          (site.elementLoop_skippable _ _ _ _ _ fun index size s => walk_skippable site elem _ _ _ _ s)
  | .absent, _, _, _, _, _ | .scalar _, _, _, _, _, _ | .enum _ _ _, _, _, _, _, _ => by
    simp only [walk]
    exact .nil

theorem walkMembers_skippable (site : Site) (name : String) : ∀ (fields : List (String × WireType)) (depth : Nat) (place : Place)
    (parent : String) (offset : Offset) (s : Option NameScope),
    Skippable site.mode (out (site.walkMembers name fields depth place parent offset) s)
  | [], _, _, _, _, _ => by
    simp only [walkMembers]
    exact .nil
  | (field, t) :: rest, depth, place, parent, offset, s => by
    have hrest := walkMembers_skippable site name rest depth place parent offset
    simp only [walkMembers]
    cases t.isEmbedded with
    | false => exact Skippable.nil.append (hrest _)
    | true =>
      have hmember := walk_skippable site t depth (place.member field) parent (offset.step (.member name field)) s
      exact (hmember.within _).append (hrest _)

end

end Site

end Parcelgen
