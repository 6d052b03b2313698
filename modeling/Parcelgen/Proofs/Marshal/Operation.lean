import Parcelgen.Marshal.TopLevel
import Parcelgen.Proofs.Marshal.Path

/-!
What generated statements do with the buffer. `Stmt.operations` reads it off a list of statements; `WireType.plan` says it for the embedded
content of a type, with any names for handles and vectors. A plan is natural in these names: renaming its handles and vectors gives the plan
with the new names, so two runs of one plan differ in spelling only.
-/

namespace Parcelgen

inductive Direction where
  | read
  | write
deriving Repr, DecidableEq

/-- `D` marks directions, `H` names handles and `V` names vectors. -/
inductive Operation (D H V : Type) where
  | block (dir : D) (handle : H)
  | scalar (dir : D) (accessor : String)
  | binder (dir : D)
  | embeddedString (parent : H) (offset : Offset)
  | embeddedVector (parent : H) (offset : Offset) (child : H)
  | embeddedBinder (parent : H) (offset : Offset)
  | arrayLoop (index dim : String) (body : List (Operation D H V))
  | vectorLoop (index : String) (vector : V) (body : List (Operation D H V))

namespace Operation

variable {D H V D' H' V' D'' H'' V'' : Type}

mutual

def map (f : D → D') (g : H → H') (h : V → V') : Operation D H V → Operation D' H' V'
  | .block dir handle => .block (f dir) (g handle)
  | .scalar dir accessor => .scalar (f dir) accessor
  | .binder dir => .binder (f dir)
  | .embeddedString parent offset => .embeddedString (g parent) offset
  | .embeddedVector parent offset child => .embeddedVector (g parent) offset (g child)
  | .embeddedBinder parent offset => .embeddedBinder (g parent) offset
  | .arrayLoop index dim body => .arrayLoop index dim (mapAll f g h body)
  | .vectorLoop index vector body => .vectorLoop index (h vector) (mapAll f g h body)

def mapAll (f : D → D') (g : H → H') (h : V → V') : List (Operation D H V) → List (Operation D' H' V')
  | [] => []
  | o :: os => map f g h o :: mapAll f g h os

end

@[simp] theorem mapAll_append (f : D → D') (g : H → H') (h : V → V') (as bs : List (Operation D H V)) :
    mapAll f g h (as ++ bs) = mapAll f g h as ++ mapAll f g h bs := by
  induction as with
  | nil => rfl
  | cons a as ih => simp only [List.cons_append, mapAll, ih]

mutual

theorem map_map (f : D → D') (g : H → H') (h : V → V') (f' : D' → D'') (g' : H' → H'') (h' : V' → V'') :
    ∀ o : Operation D H V, map f' g' h' (map f g h o) = map (f' ∘ f) (g' ∘ g) (h' ∘ h) o
  | .block _ _ | .scalar _ _ | .binder _ | .embeddedString _ _ | .embeddedVector _ _ _ | .embeddedBinder _ _ => by simp [map]
  | .arrayLoop _ _ body | .vectorLoop _ _ body => by simp [map, mapAll_mapAll f g h f' g' h' body]

theorem mapAll_mapAll (f : D → D') (g : H → H') (h : V → V') (f' : D' → D'') (g' : H' → H'') (h' : V' → V'') :
    ∀ os : List (Operation D H V), mapAll f' g' h' (mapAll f g h os) = mapAll (f' ∘ f) (g' ∘ g) (h' ∘ h) os
  | [] => rfl
  | o :: os => by simp only [mapAll, map_map f g h f' g' h' o, mapAll_mapAll f g h f' g' h' os]

end

end Operation

/-- Operations as they are spelled in generated code. -/
abbrev SpelledOperation := Operation Direction String String

def Transfer.operation : Transfer → SpelledOperation
  | .readBlock _ _ handle => .block .read handle
  | .writeBlock _ _ handle => .block .write handle
  | .readScalar s _ => .scalar .read s.accessor
  | .writeScalar s _ => .scalar .write s.accessor
  | .readBinder _ => .binder .read
  | .writeBinder _ => .binder .write

def EmbeddedCall.operation (c : EmbeddedCall) : SpelledOperation :=
  match c.node with
  | .string => .embeddedString c.parent c.offset
  | .vector child => .embeddedVector c.parent c.offset child
  | .binder => .embeddedBinder c.parent c.offset

namespace Stmt

variable (outcome : String → Bool)

mutual

/-- What a statement does with the buffer when tests have the given outcomes and nothing fails. -/
def operation : Stmt → List SpelledOperation
  | .transfer _ t => [t.operation]
  | .embedded call => [call.operation]
  | .block _ body _ | .callback _ body | .within _ body => operations body
  | .choice test yes no => if outcome test then operations yes else operations no
  | .loop index (.dimension dim) body => [.arrayLoop index dim (operations body)]
  | .loop index (.elementsOf vector) body => [.vectorLoop index vector (operations body)]
  | .blank | .code _ | .declare _ _ _ | .check _ | .unwind _ | .label | .leave | .leaveCase | .fail _ | .note _ => []

def operations : List Stmt → List SpelledOperation
  | [] => []
  | s :: ss => operation s ++ operations ss

end

@[simp] theorem operations_append (as bs : List Stmt) :
    operations outcome (as ++ bs) = operations outcome as ++ operations outcome bs := by
  induction as with
  | nil => rfl
  | cons a as ih => simp only [List.cons_append, operations, ih, List.append_assoc]

@[simp] theorem operations_handle (name : String) : operations outcome (handle name) = [] := rfl

end Stmt

namespace WireType

/-- The name under which a type without a declarator suffix is spelled; empty when it has no spelling. -/
def spelledName (d : Dialect) (t : WireType) : String :=
  match t.spell d .stack with
  | .ok s => s.name
  | .error _ => ""

/-- The size of a value, whether or not its type has a spelling. -/
def sizeIn (d : Dialect) (t : WireType) : ByteSize := { base := t.arrayShape.1.spelledName d, dims := t.arrayShape.2 }

theorem sizeIn_of_byteSize {d : Dialect} {t : WireType} {size : ByteSize} (h : t.byteSize d = .ok size) : size = t.sizeIn d := by
  unfold byteSize at h
  simp only at h
  split at h
  · cases h
  · cases hs : t.arrayShape.1.spell d .stack with
    | error f => simp [hs, bind, Except.bind] at h
    | ok s =>
      simp only [hs, bind, Except.bind, pure, Except.pure, Except.ok.injEq] at h
      simp [← h, sizeIn, spelledName, hs]

end WireType

/-- Names for the handles and vectors of a tree: what a vector's own handle is called, and the vector itself. -/
structure Labels (H V : Type) where
  handle : Path → H
  vector : Path → V

namespace Labels

variable {H V H' V' : Type}

/-- The names in the subtree that a step leads to. -/
def below (l : Labels H V) (s : Step) : Labels H V := { handle := fun p => l.handle (s :: p), vector := fun p => l.vector (s :: p) }

def map (g : H → H') (h : V → V') (l : Labels H V) : Labels H' V' := { handle := fun p => g (l.handle p), vector := fun p => h (l.vector p) }

@[simp] theorem below_map (g : H → H') (h : V → V') (l : Labels H V) (s : Step) : (l.map g h).below s = (l.below s).map g h := rfl

end Labels

namespace WireType

variable {D D' H V H' V' : Type}

mutual

/-- The operations on the embedded content of a value inside `depth` loops, which lies at `offset` in the block `parent`. -/
def plan (d : Dialect) : WireType → Nat → Labels H V → H → Offset → List (Operation D H V)
  | .string, _, _, parent, offset => [.embeddedString parent offset]
  | .interface _, _, _, parent, offset => [.embeddedBinder parent offset]
  | .struct name fields, depth, l, parent, offset => memberPlan d name 0 fields depth l parent offset
  | .array elem dim, depth, l, parent, offset =>
    if elem.isEmbedded then
      [.arrayLoop (d.indexVar depth) dim
        (elem.plan d (depth + 1) (l.below .element) parent (offset.step (.element (d.indexVar depth) (elem.sizeIn d))))]
    else []
  | .vector elem, depth, l, parent, offset =>
    .embeddedVector parent offset (l.handle []) ::
      if elem.isEmbedded then
        [.vectorLoop (d.indexVar depth) (l.vector [])
          (elem.plan d (depth + 1) (l.below .element) (l.handle [])
            { base := "0", terms := [.element (d.indexVar depth) (elem.sizeIn d)] })]
      else []
  | .absent, _, _, _, _ | .scalar _, _, _, _, _ | .enum _ _ _, _, _, _, _ => []

def memberPlan (d : Dialect) (name : String) :
    Nat → List (String × WireType) → Nat → Labels H V → H → Offset → List (Operation D H V)
  | _, [], _, _, _, _ => []
  | i, (field, t) :: rest, depth, l, parent, offset =>
    t.plan d depth (l.below (.member i)) parent (offset.step (.member name field)) ++
      memberPlan d name (i + 1) rest depth l parent offset

end

mutual

theorem map_plan (d : Dialect) (f : D → D') (g : H → H') (h : V → V') :
    ∀ (t : WireType) (depth : Nat) (l : Labels H V) (parent : H) (offset : Offset),
      Operation.mapAll f g h (t.plan d depth l parent offset) = t.plan d depth (l.map g h) (g parent) offset
  | .string, _, _, _, _ | .interface _, _, _, _, _ => by simp [plan, Operation.mapAll, Operation.map]
  | .struct name fields, depth, l, parent, offset => by
    simpa only [plan] using map_memberPlan d f g h name 0 fields depth l parent offset
  | .array elem dim, depth, l, parent, offset => by
    cases he : elem.isEmbedded with
    | false => simp [plan, he, Operation.mapAll]
    | true => simp [plan, he, Operation.mapAll, Operation.map, map_plan d f g h elem]
  | .vector elem, depth, l, parent, offset => by
    cases he : elem.isEmbedded with
    | false => simp [plan, he, Operation.mapAll, Operation.map, Labels.map]
    | true =>
      simp only [plan, he, if_true, Operation.mapAll, Operation.map, map_plan d f g h elem, Labels.below_map]
      rfl
  | .absent, _, _, _, _ | .scalar _, _, _, _, _ | .enum _ _ _, _, _, _, _ => by simp [plan, Operation.mapAll]

theorem map_memberPlan (d : Dialect) (f : D → D') (g : H → H') (h : V → V') (name : String) :
    ∀ (i : Nat) (fields : List (String × WireType)) (depth : Nat) (l : Labels H V) (parent : H) (offset : Offset),
      Operation.mapAll f g h (memberPlan d name i fields depth l parent offset) =
        memberPlan d name i fields depth (l.map g h) (g parent) offset
  | _, [], _, _, _, _ => by simp [memberPlan, Operation.mapAll]
  | i, (field, t) :: rest, depth, l, parent, offset => by
    simp [memberPlan, map_plan d f g h t, map_memberPlan d f g h name (i + 1) rest]

end

mutual

theorem plan_of_not_embedded (d : Dialect) : ∀ (t : WireType) (depth : Nat) (l : Labels H V) (parent : H) (offset : Offset),
    t.isEmbedded = false → (t.plan d depth l parent offset : List (Operation D H V)) = []
  | .string, _, _, _, _, h | .interface _, _, _, _, _, h | .vector _, _, _, _, _, h => by simp [isEmbedded] at h
  | .struct name fields, depth, l, parent, offset, h => by
    simp only [isEmbedded] at h
    simpa only [plan] using memberPlan_of_not_embedded d name 0 fields depth l parent offset h
  | .array elem dim, depth, l, parent, offset, h => by
    simp only [isEmbedded] at h
    simp [plan, h]
  | .absent, _, _, _, _, _ | .scalar _, _, _, _, _, _ | .enum _ _ _, _, _, _, _, _ => by simp [plan]

theorem memberPlan_of_not_embedded (d : Dialect) (name : String) : ∀ (i : Nat) (fields : List (String × WireType)) (depth : Nat)
    (l : Labels H V) (parent : H) (offset : Offset), anyEmbedded fields = false →
      (memberPlan d name i fields depth l parent offset : List (Operation D H V)) = []
  | _, [], _, _, _, _, _ => by simp [memberPlan]
  | i, (field, t) :: rest, depth, l, parent, offset, h => by
    simp only [anyEmbedded, Bool.or_eq_false_iff] at h
    simp [memberPlan, plan_of_not_embedded d t _ _ _ _ h.1, memberPlan_of_not_embedded d name (i + 1) rest _ _ _ _ h.2]

end

/-- The plan of members from position `i` on asks for the names of paths from there on only. -/
theorem memberPlan_congr (d : Dialect) (name : String) {l l' : Labels H V} :
    ∀ (i : Nat) (fields : List (String × WireType)) (depth : Nat) (parent : H) (offset : Offset),
      (∀ j, i ≤ j → j < i + fields.length → l.below (.member j) = l'.below (.member j)) →
      (memberPlan d name i fields depth l parent offset : List (Operation D H V)) =
        memberPlan d name i fields depth l' parent offset
  | _, [], _, _, _, _ => by simp [memberPlan]
  | i, (field, t) :: rest, depth, parent, offset, hl => by
    have hrest : (memberPlan d name (i + 1) rest depth l parent offset : List (Operation D H V)) =
        memberPlan d name (i + 1) rest depth l' parent offset :=
      memberPlan_congr d name (i + 1) rest depth parent offset fun j hj hlt => hl j (by omega) (by simp only [List.length_cons]; omega)
    simp only [memberPlan, hl i (Nat.le_refl i) (by simp), hrest]

/-- The expression for the node at a path, given one for the root inside `depth` loops. -/
def placeOf (d : Dialect) : WireType → Nat → Place → Path → Place
  | .struct _ fields, depth, place, .member i :: p =>
    match fields[i]? with
    | some (field, t) => t.placeOf d depth (place.member field) p
    | none => place
  | .array elem _, depth, place, .element :: p =>
    elem.placeOf d (depth + 1) (Place.element place.text (d.indexVar depth)) p
  | .vector elem, depth, place, .element :: p =>
    elem.placeOf d (depth + 1) (Place.element place.vector (d.indexVar depth)) p
  | _, _, place, _ => place

end WireType

end Parcelgen
