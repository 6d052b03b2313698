import Parcelgen.Marshal.Stmt
import Parcelgen.Proofs.Layout.Outcome

/-!
Failures of generated statements. On a sink that takes everything, printing statements fails with the first failure among them; a label
needs one level of room, because it stands one level to the left.
-/

namespace Parcelgen

/-- Unwinding fails for a mode without a statement only. -/
def Unwind.fault? (mode : Unwind) : Option Error :=
  if mode = .unknown then some (.fault (.unknownErrorMode unknown.name)) else none

namespace Layout

@[simp] theorem failure?_check (mode : Unwind) (v : Vocabulary) : failure? (mode.check v) = mode.fault? := by
  cases mode <;> rfl

@[simp] theorem failure?_unwind (mode : Unwind) (v : Vocabulary) : failure? (mode.failure v) = mode.fault? := by
  cases mode <;> rfl

end Layout

namespace Stmt

/-- The first failure of a list of statements. -/
def failures (d : Dialect) (ss : List Stmt) : Option Error := Layout.failures (layoutAll d ss)

@[simp] theorem failures_nil (d : Dialect) : failures d [] = none := rfl

theorem layoutAll_append (d : Dialect) (as bs : List Stmt) : layoutAll d (as ++ bs) = layoutAll d as ++ layoutAll d bs := by
  induction as with
  | nil => rfl
  | cons a as ih => simp only [List.cons_append, layoutAll, ih, List.append_assoc]

@[simp] theorem failures_cons (d : Dialect) (s : Stmt) (ss : List Stmt) :
    failures d (s :: ss) = (Layout.failures (s.layout d)).or (failures d ss) := by
  simp [failures, layoutAll]

@[simp] theorem failures_append (d : Dialect) (as bs : List Stmt) : failures d (as ++ bs) = (failures d as).or (failures d bs) := by
  simp [failures, layoutAll_append]

theorem failures_eq_none_iff {d : Dialect} {ss : List Stmt} :
    failures d ss = none ↔ ∀ s ∈ ss, Layout.failures (s.layout d) = none := by
  induction ss with
  | nil => simp
  | cons s ss ih => simp [Option.or_eq_none_iff, ih]

@[simp] theorem failures_handle (d : Dialect) (name : String) : failures d (handle name) = none := rfl

@[simp] theorem failures_layout_embedded (d : Dialect) (call : EmbeddedCall) : Layout.failures (layout d (.embedded call)) = none := by
  simp [layout, EmbeddedCall.layout, Layout.hanging, Layout.failures, Layout.failure?]

@[simp] theorem failures_layout_transfer (d : Dialect) (b : Buffer) (t : Transfer) :
    Layout.failures (layout d (.transfer b t)) = none := rfl

@[simp] theorem failures_layout_declare (d : Dialect) (type name rest : String) :
    Layout.failures (layout d (.declare type name rest)) = none := rfl

@[simp] theorem failures_layout_code (d : Dialect) (text : String) : Layout.failures (layout d (.code text)) = none := rfl

@[simp] theorem failures_layout_blank (d : Dialect) : Layout.failures (layout d .blank) = none := rfl

@[simp] theorem failures_layout_note (d : Dialect) (e : Event) : Layout.failures (layout d (.note e)) = none := rfl

@[simp] theorem failures_layout_leave (d : Dialect) : Layout.failures (layout d .leave) = none := rfl

@[simp] theorem failures_layout_leaveCase (d : Dialect) : Layout.failures (layout d .leaveCase) = none := rfl

@[simp] theorem failures_layout_label (d : Dialect) : Layout.failures (layout d .label) = none := rfl

@[simp] theorem failures_layout_check (d : Dialect) (mode : Unwind) : Layout.failures (layout d (.check mode)) = mode.fault? := by
  simp [layout, Layout.failures]

@[simp] theorem failures_layout_unwind (d : Dialect) (mode : Unwind) : Layout.failures (layout d (.unwind mode)) = mode.fault? := by
  simp [layout, Layout.failures]

@[simp] theorem failures_layout_fail (d : Dialect) (f : Fault) : Layout.failures (layout d (.fail f)) = some (.fault f) := rfl

@[simp] theorem failures_layout_block (d : Dialect) (head after : String) (body : List Stmt) :
    Layout.failures (layout d (.block head body after)) = failures d body := by
  simp [layout, Layout.failures, Layout.failure?, failures]

@[simp] theorem failures_layout_choice (d : Dialect) (test : String) (yes no : List Stmt) :
    Layout.failures (layout d (.choice test yes no)) = (failures d yes).or (failures d no) := by
  simp [layout, Layout.failures, Layout.failure?, failures]

@[simp] theorem failures_layout_callback (d : Dialect) (head : String) (body : List Stmt) :
    Layout.failures (layout d (.callback head body)) = failures d body := by
  simp [layout, Layout.failures, Layout.failure?, failures]

@[simp] theorem failures_layout_loop (d : Dialect) (index : String) (bound : Bound) (body : List Stmt) :
    Layout.failures (layout d (.loop index bound body)) = failures d body := by
  simp [layout, Layout.failures, Layout.failure?, failures]

@[simp] theorem failures_layout_within (d : Dialect) (path : List String) (body : List Stmt) :
    Layout.failures (layout d (.within path body)) = (failures d body).map (·.within path) := by
  simp [layout, Layout.failures, Layout.failure?, failures]

mutual

/-- A label stands outside all braces. -/
def labelled : Stmt → Bool
  | .label => true
  | .within _ body => anyLabelled body
  | _ => false

def anyLabelled : List Stmt → Bool
  | [] => false
  | s :: ss => labelled s || anyLabelled ss

end

@[simp] theorem anyLabelled_append (as bs : List Stmt) : anyLabelled (as ++ bs) = (anyLabelled as || anyLabelled bs) := by
  induction as with
  | nil => rfl
  | cons a as ih => simp only [List.cons_append, anyLabelled, ih, Bool.or_assoc]

theorem level_check (d : Dialect) (mode : Unwind) (room : Nat) : Layout.Level room [mode.check d.vocabulary] := by
  cases mode <;> repeat constructor

theorem level_unwind (d : Dialect) (mode : Unwind) (room : Nat) : Layout.Level room [mode.failure d.vocabulary] := by
  cases mode <;> repeat constructor

theorem level_embedded (d : Dialect) (call : EmbeddedCall) (room : Nat) : Layout.Level room (call.layout d) := .text (.hanging .nil)

mutual

theorem layout_level (d : Dialect) : ∀ (s : Stmt) (room : Nat), (labelled s = true → 0 < room) → Layout.Level room (layout d s)
  | .blank, _, _ | .code _, _, _ | .declare _ _ _, _, _ | .transfer _ _, _, _ | .leave, _, _ | .leaveCase, _, _ => .text .nil
  | .embedded call, room, _ => level_embedded d call room
  | .check mode, room, _ => level_check d mode room
  | .unwind mode, room, _ => level_unwind d mode room
  -- Braces make room for a label inside them.
  | .block _ body _, room, _ | .loop _ _ body, room, _ =>
    .text (.scope (layoutAll_level d body (room + 1) fun _ => room.succ_pos) .nil)
  | .choice _ yes no, room, _ =>
    .text (.scope (layoutAll_level d yes (room + 1) fun _ => room.succ_pos)
      (.text (.scope (layoutAll_level d no (room + 1) fun _ => room.succ_pos) .nil)))
  | .callback _ body, room, _ => .scope (layoutAll_level d body (room + 1) fun _ => room.succ_pos) .nil
  | .label, 0, h => absurd (h rfl) (Nat.lt_irrefl 0)
  | .label, room + 1, _ => .outdented .nil
  | .within _ body, room, h => .within (layoutAll_level d body room fun hb => h (by simpa [labelled] using hb)) .nil
  | .fail _, _, _ => .fail .nil
  | .note _, _, _ => .note .nil

theorem layoutAll_level (d : Dialect) : ∀ (ss : List Stmt) (room : Nat), (anyLabelled ss = true → 0 < room) →
    Layout.Level room (layoutAll d ss)
  | [], _, _ => .nil
  | s :: ss, room, h => by
    simp only [anyLabelled, Bool.or_eq_true] at h
    exact (layout_level d s room fun hs => h (.inl hs)).append (layoutAll_level d ss room fun hss => h (.inr hss))

end

/-- Statements without a label, printed anywhere on an unfailing sink, fail with the first failure among them. -/
theorem run_error (d : Dialect) {ss : List Stmt} (h : anyLabelled ss = false) {p : Printer} (hp : p.Unfailing) :
    (Layout.runAll p (layoutAll d ss)).error = failures d ss :=
  ((layoutAll_level d ss 0 (by simp [h])).runs p hp (Nat.zero_le _)).error

end Stmt

end Parcelgen
