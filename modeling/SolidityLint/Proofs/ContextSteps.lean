import Mathlib.Data.List.Basic
import Mathlib.Data.List.Induction
import SolidityLint.Engine
import SolidityLint.Proofs.RuleFindings

set_option autoImplicit false

/-! # A context under any sequence of steps

Outside of a pass a context can be driven by hand: names are registered and asked for, findings are
reported, names are judged and checks are run, in any order and any number of times. Each step comes
with the options of its own check.

One step is described by `step_registry` and `step_diagnostics`: it registers the name it says and
nothing else, and it appends to the findings what it would add to none (`Context.added`). For a step
that runs a check this is `Context.appends_inspect`. What many steps do follows by induction: from
any context (`registry_takeSteps`, `takeSteps_eq`), and from a fresh one, over the steps taken
before (`registry_after`, `diagnostics_after`). -/

namespace SolidityLint

/-! ## Registering keeps first occurrences -/

namespace Registry

/-- Registers names one after the other. -/
def registerAll (r : Registry) (names : List String) : Registry :=
  names.foldl register r

theorem registerAll_append (r : Registry) (names more : List String) :
    r.registerAll (names ++ more) = (r.registerAll names).registerAll more :=
  List.foldl_append

theorem register_eraseDups (names : List String) (name : String) :
    (Registry.mk names.eraseDups).register name = ⟨(names ++ [name]).eraseDups⟩ := by
  unfold register contains
  rw [List.eraseDups_append]
  by_cases h : name ∈ names
  · rw [if_pos (by simpa using h)]
    simp [List.removeAll, h]
  · rw [if_neg (by simpa using h)]
    simp [List.removeAll, h, List.eraseDups_cons]

theorem registerAll_eraseDups (names more : List String) :
    (Registry.mk names.eraseDups).registerAll more = ⟨(names ++ more).eraseDups⟩ := by
  unfold registerAll
  induction more generalizing names with
  | nil => simp
  | cons name rest ih =>
    rw [List.foldl_cons, register_eraseDups, ih, List.append_assoc, List.singleton_append]

end Registry

/-- The name that a step registers. -/
def Step.registers : Step → Option String
  | .register name => some name
  | _ => none

namespace Context

/-! ## One step -/

/-- What a step adds to a context that has this registry and no findings. -/
def added (options : Options) (registry : Registry) (s : Step) : List Diagnostic :=
  (step options ⟨registry, []⟩ s).1.diagnostics

variable (options : Options) (c : Context) (s : Step)

theorem step_registry :
    (step options c s).1.registry = c.registry.registerAll s.registers.toList := by
  cases s with
  | judgeName kind name style reference loc => exact (Check.appends_judgeName ..).registry_eq c
  | inspect i => exact (appends_inspect options i).registry_eq c
  | _ => rfl

theorem step_diagnostics :
    (step options c s).1.diagnostics = c.diagnostics ++ added options c.registry s := by
  cases s with
  | register name => exact (List.append_nil _).symm
  | contains name => exact (List.append_nil _).symm
  | report rule message loc => rfl
  | skipped rule loc => rfl
  | judgeName kind name style reference loc =>
    exact (Check.appends_judgeName kind name style reference loc).self.diagnostics_eq c
  | inspect i => exact (appends_inspect options i).self.diagnostics_eq c

/-! ## A sequence of steps -/

/-- The names that steps register, in order and with repetitions. -/
def registered (steps : List (Options × Step)) : List String :=
  steps.filterMap fun (_, s) => s.registers

theorem registered_cons (steps : List (Options × Step)) :
    registered ((options, s) :: steps) = s.registers.toList ++ registered steps := by
  unfold registered
  cases h : s.registers <;> simp [h]

/-- Takes steps one after the other. -/
def takeSteps (c : Context) (steps : List (Options × Step)) : Context :=
  steps.foldl (fun c (options, s) => (step options c s).1) c

theorem registry_takeSteps (steps : List (Options × Step)) :
    (takeSteps c steps).registry = c.registry.registerAll (registered steps) := by
  induction steps generalizing c with
  | nil => rfl
  | cons first rest ih =>
    obtain ⟨options, s⟩ := first
    rw [registered_cons, Registry.registerAll_append, ← step_registry options c s]
    exact ih (step options c s).1

/-- **What steps do does not depend on what was found.** They append what they would add to no
    findings, and register the same names. -/
theorem takeSteps_eq (steps : List (Options × Step)) :
    takeSteps c steps
      = ⟨(takeSteps ⟨c.registry, []⟩ steps).registry,
          c.diagnostics ++ (takeSteps ⟨c.registry, []⟩ steps).diagnostics⟩ := by
  induction steps generalizing c with
  | nil => simp [takeSteps]
  | cons first rest ih =>
    obtain ⟨options, s⟩ := first
    have hregistry : (step options ⟨c.registry, []⟩ s).1.registry
        = (step options c s).1.registry := by rw [step_registry, step_registry]
    have hstep := ih (step options c s).1
    have hfresh := ih (step options ⟨c.registry, []⟩ s).1
    rw [step_diagnostics] at hstep
    rw [hregistry] at hfresh
    show takeSteps (step options c s).1 rest
      = ⟨(takeSteps (step options ⟨c.registry, []⟩ s).1 rest).registry,
          c.diagnostics ++ (takeSteps (step options ⟨c.registry, []⟩ s).1 rest).diagnostics⟩
    rw [hstep, hfresh, List.append_assoc]
    rfl

/-! ## Steps from a fresh context -/

/-- The context after some steps from a fresh one. -/
def after (steps : List (Options × Step)) : Context :=
  takeSteps .empty steps

theorem after_concat (steps : List (Options × Step)) :
    after (steps ++ [(options, s)]) = (step options (after steps) s).1 := by
  simp [after, takeSteps]

theorem registry_after (steps : List (Options × Step)) :
    (after steps).registry = ⟨(registered steps).eraseDups⟩ := by
  rw [after, registry_takeSteps]
  exact Registry.registerAll_eraseDups [] (registered steps)

theorem contains_registry_after (steps : List (Options × Step)) (name : String) :
    (after steps).registry.contains name = decide (name ∈ registered steps) := by
  simp [registry_after, Registry.contains]

/-- What steps add, one after the other: the one at position `i` with the names that the steps
    before it registered. -/
def addedAlong (steps : List (Options × Step)) : List Diagnostic :=
  steps.zipIdx.flatMap fun ((options, s), i) =>
    added options ⟨(registered (steps.take i)).eraseDups⟩ s

theorem diagnostics_after (steps : List (Options × Step)) :
    (after steps).diagnostics = addedAlong steps := by
  induction steps using List.reverseRecOn with
  | nil => rfl
  | append_singleton steps last ih =>
    obtain ⟨options, s⟩ := last
    -- The last step leaves the positions before it, and what was registered before them, alone.
    have hfront : (steps.zipIdx.flatMap fun ((o, t), i) =>
        added o ⟨(registered ((steps ++ [(options, s)]).take i)).eraseDups⟩ t)
        = addedAlong steps := by
      refine List.flatMap_congr fun ((o, t), i) hmem => ?_
      have hi : i < steps.length := List.snd_lt_of_mem_zipIdx hmem
      simp only [List.take_append_of_le_length (Nat.le_of_lt hi)]
    rw [after_concat, step_diagnostics, ih, registry_after, ← hfront]
    simp [addedAlong, List.zipIdx_append]

/-- **Steps keep to their part of the context.** After any steps the registry holds the names they
    registered, each at its first place. The next step answers by these names, registers its own
    name if it is that kind of step, and appends what it would add to no findings. -/
theorem steps_keep_discipline (before : List (Options × Step)) (options : Options) (s : Step) :
    (after before).registry.names = (registered before).eraseDups
      ∧ (step options (after before) s).2 = (match s with
          | .register name => some (decide (name ∉ registered before))
          | .contains name => some (decide (name ∈ registered before))
          | _ => none)
      ∧ (after (before ++ [(options, s)])).registry = (match s with
          | .register name => (after before).registry.register name
          | _ => (after before).registry)
      ∧ (after (before ++ [(options, s)])).diagnostics
          = (after before).diagnostics
            ++ (step options ⟨(after before).registry, []⟩ s).1.diagnostics
      ∧ (after before).diagnostics = addedAlong before := by
  refine ⟨?_, ?_, ?_, ?_, diagnostics_after before⟩
  · rw [registry_after]
  · cases s with
    | register name => simp [step, contains_registry_after]
    | contains name => simp [step, contains_registry_after]
    | _ => rfl
  · rw [after_concat, step_registry]
    cases s <;> rfl
  · rw [after_concat, step_diagnostics]
    rfl

end Context

end SolidityLint
