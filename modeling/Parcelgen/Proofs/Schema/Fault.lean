import Parcelgen.Proofs.Package.Validate
import Parcelgen.Proofs.Schema.Lift

/-!
What a document can be refused for. All faults of resolution are local but those of look-ups (`resolve_fails_of_typeOf`), so what holds of
local faults and of look-ups holds of every refusal. In particular a refusal is about the input, never about a malformed type tree or a value
outside its closed set (`resolve_fails`). The checks in front of the look-ups and behind them also say where they failed; of those behind, two
would not, but they are for packages that no document leads to (`validate_fails`).
-/

namespace Parcelgen

/-- Every fault of the computation satisfies `Q`. -/
def Fails {α : Type} (x : Except Fault α) (Q : Fault → Prop) : Prop := ∀ f, x = .error f → Q f

/-- The fault is about the input. -/
def Fault.AboutInput (f : Fault) : Prop := f.isContract = false

/-- The fault says where it was found. -/
def Fault.IsLocated (f : Fault) : Prop := f.path ≠ []

namespace Fault.IsLocated

variable {path : List String}

theorem invalidInput (phase : Phase) (h : path ≠ []) (detail : String) : (Fault.invalidInput phase path detail).IsLocated := h

theorem duplicate (phase : Phase) (h : path ≠ []) (what name : String) : (Fault.duplicate phase path what name).IsLocated := h

theorem within (f : Fault) (h : path ≠ []) : (f.within path).IsLocated := List.append_ne_nil_of_left_ne_nil h _

end Fault.IsLocated

namespace Fails

variable {α β : Type} {Q : Fault → Prop}

theorem ok (a : α) : Fails (.ok a) Q := by
  intro f h
  cases h

theorem error {f : Fault} (h : Q f) : Fails (.error f : Except Fault α) Q := by
  intro g hg
  cases hg
  exact h

theorem bind {x : Except Fault α} {k : α → Except Fault β} (hx : Fails x Q) (hk : ∀ a, Fails (k a) Q) : Fails (x >>= k) Q := by
  cases x with
  | error f => exact .error (hx f rfl)
  | ok a => exact hk a

theorem guard {c : Prop} [Decidable c] {f : Fault} {k : PUnit → Except Fault α} (hf : Q f) (hk : Fails (k ()) Q) :
    Fails (if c then MonadExcept.throw f >>= k else k ()) Q := by
  split
  · exact .bind (x := MonadExcept.throw f) (.error hf) fun _ => hk
  · exact hk

theorem mono {x : Except Fault α} {Q' : Fault → Prop} (hx : Fails x Q) (h : ∀ f, Q f → Q' f) : Fails x Q' := fun f hf => h f (hx f hf)

end Fails

namespace Package

theorem validateTypes_fails (pkg : String) (seen : List String) (ts : List WireType) :
    Fails (validateTypes pkg seen ts) fun f => f.IsLocal ∧ ((∀ t ∈ ts, t.isNamedType = true) → f.IsLocated) := by
  induction ts generalizing seen with
  | nil => exact .ok _
  | cons t ts ih =>
    have hrest : Fails (validateTypes pkg (t.localName :: seen) ts) fun f =>
        f.IsLocal ∧ ((∀ u ∈ t :: ts, u.isNamedType = true) → f.IsLocated) :=
      (ih _).mono fun f hf => ⟨hf.1, fun h => hf.2 (List.forall_mem_cons.mp h).2⟩
    unfold validateTypes
    split
    · exact .error ⟨.invalidInput _ _ _, fun _ => .invalidInput _ (by simp) _⟩
    · split
      · exact .error ⟨.duplicate _ _ _ _, fun _ => .duplicate _ (by simp) _ _⟩
      · exact hrest
    · split
      · exact .error ⟨.duplicate _ _ _ _, fun _ => .duplicate _ (by simp) _ _⟩
      · exact hrest
    · refine .error ⟨.unsupported _ _ _, fun h => ?_⟩
      have ht := (List.forall_mem_cons.mp h).1
      cases t <;> simp_all [WireType.isNamedType]

theorem validateParams_fails (path : List String) (lead : String) (seen : List String) (ps : List Param) :
    Fails (validateParams path lead seen ps) fun f => f.IsLocal ∧ (path ≠ [] → f.IsLocated) := by
  induction ps generalizing seen with
  | nil => exact .ok _
  | cons p ps ih =>
    unfold validateParams
    repeat' split
    · exact .error ⟨.invalidInput _ _ _, fun h => .invalidInput _ h _⟩
    · exact .error ⟨.invalidInput _ _ _, fun _ => .invalidInput _ (by simp) _⟩
    · exact .error ⟨.duplicate _ _ _ _, fun h => .duplicate _ h _ _⟩
    · exact ih _

theorem validateMethods_fails (path : List String) (lead : String) (seen : List String) (ms : List Method) :
    Fails (validateMethods path lead seen ms) fun f => f.IsLocal ∧ (path ≠ [] → f.IsLocated) := by
  induction ms generalizing seen with
  | nil => exact .ok _
  | cons m ms ih =>
    have hparams := (validateParams_fails (path ++ [m.name]) lead [] (m.args ++ m.results)).mono fun f hf =>
      show f.IsLocal ∧ (path ≠ [] → f.IsLocated) from ⟨hf.1, fun _ => hf.2 (by simp)⟩
    unfold validateMethods
    repeat' split
    · exact .error ⟨.invalidInput _ _ _, fun h => .invalidInput _ h _⟩
    · exact .error ⟨.duplicate _ _ _ _, fun h => .duplicate _ h _ _⟩
    · exact .error ⟨.invalidInput _ _ _, fun _ => .invalidInput _ (by simp) _⟩
    · exact .bind hparams fun _ => ih _

theorem validateInterfaces_fails (pkg lead : String) (seen : List String) (is : List Interface) :
    Fails (validateInterfaces pkg lead seen is) fun f => f.IsLocal ∧ f.IsLocated := by
  induction is generalizing seen with
  | nil => exact .ok _
  | cons i is ih =>
    have hmethods := (validateMethods_fails [pkg, i.name] lead [] i.methods).mono fun f hf =>
      show f.IsLocal ∧ f.IsLocated from ⟨hf.1, hf.2 (by simp)⟩
    unfold validateInterfaces
    exact .guard ⟨.invalidInput _ _ _, .invalidInput _ (by simp) _⟩
      (.bind hmethods fun _ => .guard ⟨.duplicate _ _ _ _, .duplicate _ (by simp) _ _⟩ (ih _))

/-- Only a package without a name, or with a type that is neither struct nor enum, is refused at no place. -/
theorem validate_fails (d : Dialect) (p : Package) :
    Fails (p.validate d) fun f => f.IsLocal ∧ (p.name ≠ "" → (∀ t ∈ p.types, t.isNamedType = true) → f.IsLocated) := by
  have htypes := (validateTypes_fails p.name [] p.types).mono fun f hf =>
    show f.IsLocal ∧ (p.name ≠ "" → (∀ t ∈ p.types, t.isNamedType = true) → f.IsLocated) from ⟨hf.1, fun _ => hf.2⟩
  have hinterfaces := fun seen => (validateInterfaces_fails p.name d.lead seen p.interfaces).mono fun f hf =>
    show f.IsLocal ∧ (p.name ≠ "" → (∀ t ∈ p.types, t.isNamedType = true) → f.IsLocated) from ⟨hf.1, fun _ _ => hf.2⟩
  unfold validate
  by_cases hname : p.name = ""
  · exact .guard ⟨.invalidInput _ _ _, fun h => absurd hname h⟩ (.bind htypes hinterfaces)
  · simp only [beq_iff_eq, hname, if_false]
    exact .bind htypes hinterfaces

end Package

namespace Schema

/-- Every fault of the computation, whatever is finished before it, satisfies `Q`. -/
def Resolving.Throws {α : Type} (x : Resolving α) (Q : Fault → Prop) : Prop := ∀ fin, Fails (x.run fin) Q

open Resolving

namespace Resolving.Throws

variable {α β : Type} {Q : Fault → Prop}

theorem pure (a : α) : Throws (Pure.pure a) Q := fun _ => .ok _

theorem throw {f : Fault} (h : Q f) : Throws (MonadExcept.throw f : Resolving α) Q := fun _ => .error h

/-- What follows a fault is not reached. -/
theorem throw_bind {f : Fault} (h : Q f) (k : α → Resolving β) : Throws (MonadExcept.throw f >>= k) Q := fun _ => .error h

theorem bind {x : Resolving α} {k : α → Resolving β} (hx : Throws x Q) (hk : ∀ a, Throws (k a) Q) : Throws (x >>= k) Q :=
  fun fin => .bind (hx fin) fun r => hk r.1 r.2

/-- What local faults have is passed on by whatever looks names up. -/
theorem lifting (hQ : ∀ f : Fault, f.IsLocal → Q f) : Lifting fun x (_ : Unit → _) => Throws x Q where
  pure := pure
  throw hf := throw (hQ _ hf)
  bind := bind

end Resolving.Throws

namespace Scope

variable {s : Scope} {Q : Fault → Prop}

theorem declType_throws (hQ : ∀ f : Fault, f.IsLocal → Q f) {look : List String → String → Resolving WireType} {d : TypeDecl}
    (h : ∀ name ∈ d.references, ∀ path, Throws (look path name) Q) : Throws (s.declType look d) Q :=
  declType_lift (Throws.lifting hQ) (l := fun _ => look) s d h

theorem interfaces_throws (hQ : ∀ f : Fault, f.IsLocal → Q f) (h : ∀ path name, Throws (s.typeOf path name) Q)
    (is : List InterfaceDecl) : Throws (is.mapM s.interface) Q :=
  (Throws.lifting hQ).mapM (g := fun _ => s.interface) (interface_lift (Throws.lifting hQ) (t := fun _ => s) h) is

theorem typesOf_throws (h : ∀ path name, Throws (s.typeOf path name) Q) (ds : List TypeDecl) :
    Throws (forIn ds PUnit.unit fun d _ => do
      let _ ← s.typeOf [] d.name
      return ForInStep.yield PUnit.unit) Q := by
  induction ds with
  | nil => exact .pure _
  | cons d ds ih =>
    rw [List.forIn_cons]
    simp only [bind_assoc, pure_bind]
    exact .bind (h [] d.name) fun _ => ih

/-- The faults of a look-up: a name that is not there, a name inside its own declaration, and those of the declaration. -/
theorem lookup_throws (hQ : ∀ f : Fault, f.IsLocal → Q f) {fuel : Nat} {chain path : List String} {name : String}
    (hcycle : ∀ d, s.decl? name = some d → name ∈ chain → Q (.cycle .resolve (chain.dropWhile (· != name) ++ [name])))
    (hend : ∀ d, s.decl? name = some d → name ∉ chain → fuel = 0 → Q (.cycle .resolve (chain ++ [name])))
    (hdecl : ∀ d rest, s.decl? name = some d → name ∉ chain → fuel = rest + 1 →
      Throws (s.declType (s.lookup rest (chain ++ [name])) d) Q) :
    Throws (s.lookup fuel chain path name) Q := by
  unfold lookup
  split
  · exact .pure _
  · split
    · rename_i d hd
      refine .bind (fun _ => .ok _) fun fin => ?_
      split
      · exact .pure _
      · by_cases hc : name ∈ chain
        · simp only [List.contains_iff_mem, hc, if_true]
          exact .throw_bind (hcycle d hd hc) _
        · simp only [List.contains_iff_mem, hc, if_false]
          cases fuel with
          | zero => exact .throw (hend d hd hc rfl)
          | succ rest => exact .bind (hdecl d rest hd hc rfl) fun t => .bind (fun _ => .ok _) fun _ => .pure t
    · split
      · exact .pure _
      · exact .throw (hQ _ (.notFound _ _ _ _))

end Scope

namespace Document

theorem checkTypes_fails (seen : List String) (ds : List TypeDecl) : Fails (checkTypes seen ds) fun f => f.IsLocal ∧ f.IsLocated := by
  induction ds generalizing seen with
  | nil => exact .ok _
  | cons d ds ih =>
    unfold checkTypes
    exact .guard ⟨.invalidInput _ _ _, .invalidInput _ (by simp) _⟩ (.guard ⟨.invalidInput _ _ _, .invalidInput _ (by simp) _⟩
      (.guard ⟨.duplicate _ _ _ _, .duplicate _ (by simp) _ _⟩ (ih _)))

theorem checkInterfaces_fails (seen : List String) (is : List InterfaceDecl) :
    Fails (checkInterfaces seen is) fun f => f.IsLocal ∧ f.IsLocated := by
  induction is generalizing seen with
  | nil => exact .ok _
  | cons i is ih =>
    unfold checkInterfaces
    exact .guard ⟨.invalidInput _ _ _, .invalidInput _ (by simp) _⟩ (.guard ⟨.duplicate _ _ _ _, .duplicate _ (by simp) _ _⟩ (ih _))

theorem checkNames_fails (doc : Document) : Fails doc.checkNames fun f => f.IsLocal ∧ f.IsLocated := by
  unfold checkNames
  exact .guard ⟨.invalidInput _ _ _, .invalidInput _ (by simp) _⟩ (.guard ⟨.invalidInput _ _ _, .invalidInput _ (by simp) _⟩
    (.bind (checkTypes_fails _ _) fun _ => checkInterfaces_fails _ _))

/-- Every refusal has what local faults and the faults of look-ups have. -/
theorem resolve_fails_of_typeOf {doc : Document} {Q : Fault → Prop} (hQ : ∀ f : Fault, f.IsLocal → Q f)
    (h : ∀ path name, Throws (doc.scope.typeOf path name) Q) : Fails doc.resolve Q := by
  have hall : Throws doc.resolveAll Q := .bind (Scope.typesOf_throws h doc.types) fun _ => Scope.interfaces_throws hQ h doc.interfaces
  exact .bind (doc.checkNames_fails.mono fun f hf => hQ f hf.1) fun _ => .bind (hall []) fun _ =>
    .bind ((Package.validate_fails {} _).mono fun f hf => hQ f hf.1) fun _ => .ok _

end Document

theorem Scope.lookup_throws_aboutInput (s : Scope) (fuel : Nat) (chain path : List String) (name : String) :
    Throws (s.lookup fuel chain path name) Fault.AboutInput := by
  have hlocal : ∀ f : Fault, f.IsLocal → f.AboutInput := fun _ hf => hf.input
  induction fuel generalizing chain path name with
  | zero => exact lookup_throws hlocal (fun _ _ _ => rfl) (fun _ _ _ _ => rfl) fun _ rest _ _ h => by cases h
  | succ fuel ih =>
    refine lookup_throws hlocal (fun _ _ _ => rfl) (fun _ _ _ h => by cases h) fun d rest _ _ h => ?_
    cases h
    exact declType_throws hlocal fun n _ path => ih _ path n

/-- A document is refused for its input only. -/
theorem Document.resolve_fails (doc : Document) : Fails doc.resolve Fault.AboutInput :=
  resolve_fails_of_typeOf (fun _ hf => hf.input) fun path name => doc.scope.lookup_throws_aboutInput _ [] path name

end Schema

end Parcelgen
