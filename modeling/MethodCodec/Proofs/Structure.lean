import Mathlib
import MethodCodec.Proofs.Lists
import MethodCodec.Spec.Basic

/-!
# Structural rules of a document

A document breaks no rule exactly when its aliases, its class ids and the
method ids of each class are pairwise distinct and every argument says its type
exactly once.
-/

namespace MethodCodec

/-! ## The rules -/

/-- An argument has a type or a domain, and not both. -/
def ArgumentSpec.Clear (argument : ArgumentSpec) : Prop :=
  argument.type.isSome ≠ argument.domain.isSome

theorem ArgumentSpec.reference?_eq_none_iff (argument : ArgumentSpec) :
    argument.reference? = none ↔ ¬ argument.Clear := by
  rw [reference?, Clear]
  cases argument.type <;> cases argument.domain <;> simp

namespace Spec

/-- The structural rules of a document. -/
structure WellFormed (spec : Spec) : Prop where
  aliases : (spec.domains.map Prod.fst).Nodup
  classIds : (spec.classes.map ClassSpec.id).Nodup
  methodIds : ∀ cls ∈ spec.classes, (cls.methods.map MethodSpec.id).Nodup
  clear :
    ∀ cls ∈ spec.classes, ∀ method ∈ cls.methods,
      ∀ argument ∈ method.arguments, argument.Clear

/-! ## Documents without a violation -/

theorem repeatedAlias?_eq_none_iff
    {seen : List String} {entries : List (String × String)} :
    repeatedAlias? seen entries = none ↔
      Fresh seen (entries.map Prod.fst) := by
  induction entries generalizing seen with
  | nil =>
      simp [repeatedAlias?, fresh_nil]
  | cons entry entries inductionHypothesis =>
      rw [repeatedAlias?, List.map_cons, fresh_cons_iff,
        ← inductionHypothesis]
      split_ifs with met <;> simp [met]

theorem unclearArgument?_eq_none_iff
    {className methodName : String} {arguments : List ArgumentSpec} :
    unclearArgument? className methodName arguments = none ↔
      ∀ argument ∈ arguments, argument.Clear := by
  induction arguments with
  | nil =>
      simp [unclearArgument?]
  | cons argument arguments inductionHypothesis =>
      rw [unclearArgument?, List.forall_mem_cons]
      cases said : argument.reference? with
      | none =>
          have unclear := argument.reference?_eq_none_iff.mp said
          simp [unclear]
      | some reference =>
          have clear : argument.Clear := by
            by_contra unclear
            rw [argument.reference?_eq_none_iff.mpr unclear] at said
            cases said
          simp [clear, inductionHypothesis]

theorem methodViolation?_eq_none_iff
    (className : String) {seen : List UInt16} {methods : List MethodSpec} :
    methodViolation? className seen methods = none ↔
      Fresh seen (methods.map MethodSpec.id) ∧
        ∀ method ∈ methods, ∀ argument ∈ method.arguments,
          argument.Clear := by
  induction methods generalizing seen with
  | nil =>
      simp [methodViolation?, fresh_nil]
  | cons method methods inductionHypothesis =>
      rw [methodViolation?, List.map_cons, fresh_cons_iff,
        List.forall_mem_cons, ← unclearArgument?_eq_none_iff]
      split_ifs with met
      · simp [met]
      · cases unclearArgument? className method.name method.arguments with
        | some violation =>
            simp
        | none =>
            simp [met, inductionHypothesis]

theorem classViolation?_eq_none_iff
    {seen : List UInt16} {classes : List ClassSpec} :
    classViolation? seen classes = none ↔
      Fresh seen (classes.map ClassSpec.id) ∧
        ∀ cls ∈ classes,
          (cls.methods.map MethodSpec.id).Nodup ∧
            ∀ method ∈ cls.methods, ∀ argument ∈ method.arguments,
              argument.Clear := by
  induction classes generalizing seen with
  | nil =>
      simp [classViolation?, fresh_nil]
  | cons cls classes inductionHypothesis =>
      rw [classViolation?, List.map_cons, fresh_cons_iff,
        List.forall_mem_cons, ← fresh_nil_iff,
        ← methodViolation?_eq_none_iff cls.name]
      split_ifs with met
      · simp [met]
      · cases methodViolation? cls.name [] cls.methods with
        | some violation =>
            simp
        | none =>
            simp [met, inductionHypothesis]

/-- A document has no violation exactly when it keeps the structural rules. -/
theorem violation?_eq_none_iff {spec : Spec} :
    spec.violation? = none ↔ spec.WellFormed := by
  have aliases :
      repeatedAlias? [] spec.domains = none ↔
        (spec.domains.map Prod.fst).Nodup :=
    repeatedAlias?_eq_none_iff.trans fresh_nil_iff
  have classes :
      classViolation? [] spec.classes = none ↔ _ :=
    classViolation?_eq_none_iff
  rw [fresh_nil_iff] at classes
  rw [violation?]
  cases repeated : repeatedAlias? [] spec.domains with
  | some violation =>
      rw [repeated] at aliases
      have broken := mt aliases.mpr (by simp)
      simp only [reduceCtorEq, false_iff]
      exact fun wellFormed => broken wellFormed.aliases
  | none =>
      have distinct := aliases.mp repeated
      dsimp only
      rw [classes]
      constructor
      · rintro ⟨classIds, inside⟩
        exact ⟨distinct, classIds, fun cls member => (inside cls member).1,
          fun cls member => (inside cls member).2⟩
      · rintro ⟨_, classIds, methodIds, clear⟩
        exact ⟨classIds, fun cls member =>
          ⟨methodIds cls member, clear cls member⟩⟩

end Spec

end MethodCodec
