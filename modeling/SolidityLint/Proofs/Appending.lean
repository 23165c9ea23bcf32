import SolidityLint.Context

set_option autoImplicit false

/-! # Operations that only append

A rule takes a context and gives one back, so nothing in its type keeps it from forgetting a name or
rewriting an earlier finding. `Context.Appends op more` says that it does neither: `op` leaves the
registry alone and appends `more`, which depends on the registry alone. The relation composes along
`++` and along loops, so a rule is taken apart into its reports and nothing above them looks at a
context again.

`Context.found` is what can be seen of an operation from outside: the findings of a context that had
none before. -/

namespace SolidityLint

/-- The note that `rule` could not be evaluated at a location. -/
def Rule.skipped (rule : Rule) (location : Location) : Diagnostic :=
  Rule.ruleSkipped.diagnostic (rule.skippedMessage location) location

namespace Context

/-- What an operation reports in a context that has this registry and no findings. -/
def found (op : Context → Context) (registry : Registry) : List Diagnostic :=
  (op ⟨registry, []⟩).diagnostics

/-- The operation leaves the registry alone and appends `more`. -/
structure Appends (op : Context → Context) (more : Registry → List Diagnostic) : Prop where
  eq : ∀ c, op c = { c with diagnostics := c.diagnostics ++ more c.registry }

namespace Appends

variable {op f g : Context → Context} {a b : Registry → List Diagnostic}

theorem registry_eq (h : Appends op a) (c : Context) : (op c).registry = c.registry := by
  rw [h.eq]

theorem diagnostics_eq (h : Appends op a) (c : Context) :
    (op c).diagnostics = c.diagnostics ++ a c.registry := by
  rw [h.eq]

/-- What is appended is what can be seen of the operation. -/
theorem found_eq (h : Appends op a) (registry : Registry) : found op registry = a registry :=
  h.diagnostics_eq ⟨registry, []⟩

theorem self (h : Appends op a) : Appends op (found op) := by
  rw [funext h.found_eq]
  exact h

/-- If what is appended does not depend on the registry, it can be seen with any. -/
theorem steady (h : Appends op a) (ha : ∀ registry, a registry = a .empty) :
    Appends op fun _ => found op .empty := by
  rw [h.found_eq, ← funext ha]
  exact h

/-! ## Reports -/

theorem nothing : Appends (fun c => c) fun _ => [] := by
  refine ⟨fun c => ?_⟩
  rw [List.append_nil]

theorem report {rule : Rule} {message : String} {loc : Location} :
    Appends (·.report rule message loc) fun _ => [rule.diagnostic message loc] :=
  ⟨fun _ => rfl⟩

theorem skipped {rule : Rule} {loc : Location} :
    Appends (·.skipped rule loc) fun _ => [rule.skipped loc] :=
  ⟨fun _ => rfl⟩

/-! ## Control flow -/

/-- One operation after the other. -/
theorem comp (hf : Appends f a) (hg : Appends g b) :
    Appends (fun c => g (f c)) fun registry => a registry ++ b registry := by
  refine ⟨fun c => ?_⟩
  rw [hg.eq, hf.eq]
  simp only [List.append_assoc]

theorem ite {p : Prop} [Decidable p] (hf : Appends f a) (hg : Appends g b) :
    Appends (fun c => if p then f c else g c)
      fun registry => if p then a registry else b registry := by
  split
  · exact hf
  · exact hg

/-- An operation that reads the registry before it reports. -/
theorem reading {f : Registry → Context → Context} {a : Registry → Registry → List Diagnostic}
    (h : ∀ registry, Appends (f registry) (a registry)) :
    Appends (fun c => f c.registry c) fun registry => a registry registry :=
  ⟨fun c => (h c.registry).eq c⟩

/-- An operation that asks for a name before it reports. -/
theorem asking {name : String} (hf : Appends f a) (hg : Appends g b) :
    Appends (fun c => if c.registry.contains name then f c else g c)
      fun registry => if registry.contains name then a registry else b registry :=
  reading (f := fun registry c => if registry.contains name then f c else g c) fun _ => hf.ite hg

/-- A loop over a list. -/
theorem foldl {α : Type} {f : Context → α → Context} {a : α → Registry → List Diagnostic}
    (xs : List α) (h : ∀ x, Appends (f · x) (a x)) :
    Appends (fun c => xs.foldl f c) fun registry => xs.flatMap fun x => a x registry := by
  induction xs with
  | nil => exact nothing
  | cons x rest ih => exact (h x).comp ih

end Appends

end Context

end SolidityLint
