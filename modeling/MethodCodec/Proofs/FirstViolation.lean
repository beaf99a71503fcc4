import Mathlib
import MethodCodec.Proofs.Structure

/-!
# The violation that is reported

The check of the structural rules decides whether a document keeps them, and
where it does not its message is that of the first violation: the aliases of the
domains, then class by class its id, then method by method its id, then the
arguments of that method in order.  Ids of methods are compared inside their
class only.
-/

namespace MethodCodec

namespace Spec

/-! ## Scans that look for a key met before -/

section Keyed

variable {α κ : Type} {key : α → κ} {seen : List κ} {before : List α}

/-- What is wrong with an item: its key is that of an earlier item, or else
there is something wrong inside it. -/
inductive Breaks (key : α → κ) (repeatedKey : α → String)
    (inside : α → String → Prop) (before : List α) (item : α) : String → Prop
  | repeated (met : ∃ earlier ∈ before, key earlier = key item) :
      Breaks key repeatedKey inside before item (repeatedKey item)
  | inside {message : String} (new : ∀ earlier ∈ before, key earlier ≠ key item)
      (broken : inside item message) :
      Breaks key repeatedKey inside before item message

/-- That a list of keys holds those of the items passed, and no others. -/
def Lists (key : α → κ) (seen : List κ) (before : List α) : Prop :=
  ∀ value, value ∈ seen ↔ ∃ earlier ∈ before, key earlier = value

@[simp]
theorem lists_nil (key : α → κ) : Lists key [] [] := by
  simp [Lists]

theorem Lists.concat (lists : Lists key seen before) (item : α) :
    Lists key (key item :: seen) (before ++ [item]) := by
  intro value
  rw [List.mem_cons, lists value]
  simp only [List.mem_append, List.mem_singleton, or_and_right, exists_or,
    exists_eq_left]
  rw [or_comm, eq_comm]

theorem breaks_iff
    (lists : Lists key seen before) {repeatedKey : α → String}
    {inside : α → String → Prop} {item : α} {message : String} :
    Breaks key repeatedKey inside before item message ↔
      key item ∈ seen ∧ message = repeatedKey item ∨
        key item ∉ seen ∧ inside item message := by
  rw [lists]
  constructor
  · rintro (met | ⟨new, broken⟩)
    · exact .inl ⟨met, rfl⟩
    · exact .inr ⟨by simpa using new, broken⟩
  · rintro (⟨met, rfl⟩ | ⟨new, broken⟩)
    · exact .repeated met
    · exact .inside (by simpa using new) broken

/-- A scan that keeps the keys of the items passed, and looks inside an item
whose key is new, finds the first item with which something is wrong. -/
theorem keyedScan_eq_some_iff
    [DecidableEq κ] (scan : List κ → List α → Option String)
    (look : α → Option String) {repeatedKey : α → String}
    {inside : α → String → Prop} {items : List α} {message : String}
    (looks : ∀ item other, look item = some other ↔ inside item other)
    (done : ∀ seen, scan seen [] = none)
    (step : ∀ seen item items,
      scan seen (item :: items) =
        if key item ∈ seen then some (repeatedKey item)
        else (look item).or (scan (key item :: seen) items)) :
    scan [] items = some message ↔
      FirstAt (Breaks key repeatedKey inside) items message := by
  refine scan_eq_some_iff scan (Lists key) done (fun seen before item lists => ?_) _
    (lists_nil key)
  simp only [breaks_iff lists, ← looks, step]
  by_cases met : key item ∈ seen
  · exact .inl ⟨repeatedKey item, by simp [met], by simp [met]⟩
  cases look item with
  | some other =>
      exact .inl ⟨other, by simp [met, eq_comm], by simp [met]⟩
  | none =>
      exact .inr ⟨by simp [met], _, lists.concat item, by simp [met]⟩

end Keyed

/-! ## Domains -/

/-- The alias of a domain is that of an earlier one. -/
def AliasBreaks : List (String × String) → String × String → String → Prop :=
  Breaks Prod.fst (fun entry => "domain `" ++ entry.1 ++ "` is declared twice")
    fun _ _ => False

theorem repeatedAlias?_eq_some_iff
    {entries : List (String × String)} {message : String} :
    (repeatedAlias? [] entries).map Violation.message = some message ↔
      FirstAt AliasBreaks entries message := by
  refine keyedScan_eq_some_iff
    (fun seen entries => (repeatedAlias? seen entries).map Violation.message)
    (fun _ => none) (by simp) (fun _ => rfl) fun seen entry entries => ?_
  rw [repeatedAlias?]
  split_ifs <;> rfl

/-! ## Arguments -/

/-- An argument has both a type and a domain, or neither. -/
inductive ArgumentBreaks (className methodName : String) (argument : ArgumentSpec) :
    String → Prop
  | unclear (unclear : ¬ argument.Clear) :
      ArgumentBreaks className methodName argument
        ("argument `" ++ argument.name ++ "` of `" ++ className ++ "." ++ methodName
          ++ "` must have exactly one of `type` or `domain`")

theorem unclearArgument?_eq_some_iff
    {className methodName : String} {arguments : List ArgumentSpec}
    {message : String} :
    (unclearArgument? className methodName arguments).map Violation.message =
        some message ↔
      FirstAt (fun _ => ArgumentBreaks className methodName) arguments message := by
  refine scan_eq_some_iff_of_alone
    (fun arguments =>
      (unclearArgument? className methodName arguments).map Violation.message)
    rfl fun argument => ?_
  simp only [unclearArgument?]
  cases said : argument.reference? with
  | none =>
      have unclear := argument.reference?_eq_none_iff.mp said
      refine .inl ⟨_, fun other => ⟨?_, ?_⟩, fun _ => rfl⟩
      · rintro ⟨_⟩
        rfl
      · rintro rfl
        exact .unclear unclear
  | some reference =>
      refine .inr ⟨?_, fun _ => rfl⟩
      rintro _ ⟨unclear⟩
      rw [argument.reference?_eq_none_iff.mpr unclear] at said
      cases said

/-! ## Methods and classes -/

/-- The id of a method is that of an earlier one of its class, or else one of
its arguments is unclear. -/
def MethodBreaks (className : String) :
    List MethodSpec → MethodSpec → String → Prop :=
  Breaks MethodSpec.id
    (fun method =>
      "duplicate method id " ++ Text.decimal method.id.toNat ++ " in class `"
        ++ className ++ "`")
    fun method =>
      FirstAt (fun _ => ArgumentBreaks className method.name) method.arguments

theorem methodViolation?_eq_some_iff
    {className : String} {methods : List MethodSpec} {message : String} :
    (methodViolation? className [] methods).map Violation.message = some message ↔
      FirstAt (MethodBreaks className) methods message := by
  refine keyedScan_eq_some_iff
    (fun seen methods =>
      (methodViolation? className seen methods).map Violation.message)
    (fun method =>
      (unclearArgument? className method.name method.arguments).map
        Violation.message)
    (fun _ _ => unclearArgument?_eq_some_iff) (fun _ => rfl)
    fun seen method methods => ?_
  rw [methodViolation?]
  split_ifs
  · rfl
  · cases unclearArgument? className method.name method.arguments <;> rfl

/-- The id of a class is that of an earlier one, or else there is a violation
among its methods. -/
def ClassBreaks : List ClassSpec → ClassSpec → String → Prop :=
  Breaks ClassSpec.id
    (fun cls =>
      "duplicate class id " ++ Text.decimal cls.id.toNat ++ " (`" ++ cls.name ++ "`)")
    fun cls => FirstAt (MethodBreaks cls.name) cls.methods

theorem classViolation?_eq_some_iff
    {classes : List ClassSpec} {message : String} :
    (classViolation? [] classes).map Violation.message = some message ↔
      FirstAt ClassBreaks classes message := by
  refine keyedScan_eq_some_iff
    (fun seen classes => (classViolation? seen classes).map Violation.message)
    (fun cls => (methodViolation? cls.name [] cls.methods).map Violation.message)
    (fun _ _ => methodViolation?_eq_some_iff) (fun _ => rfl)
    fun seen cls classes => ?_
  rw [classViolation?]
  split_ifs
  · rfl
  · cases methodViolation? cls.name [] cls.methods <;> rfl

/-! ## Documents -/

/-- The message of the first violation of a document: among its aliases, or else
among its classes. -/
inductive FirstBreach (spec : Spec) : String → Prop
  | domain {message : String} (first : FirstAt AliasBreaks spec.domains message) :
      FirstBreach spec message
  | inside {message : String} (aliases : (spec.domains.map Prod.fst).Nodup)
      (first : FirstAt ClassBreaks spec.classes message) :
      FirstBreach spec message

/-- A document passes the check exactly where it keeps the structural rules, and
is refused with a message exactly where this is the message of the first
violation. -/
theorem violation?_decides (spec : Spec) :
    (spec.violation? = none ↔ spec.WellFormed) ∧
      ∀ message,
        spec.violation?.map Violation.message = some message ↔
          spec.FirstBreach message := by
  refine ⟨violation?_eq_none_iff, fun message => ?_⟩
  rw [violation?]
  constructor
  · intro found
    split at found
    next violation repeated =>
      refine .domain (repeatedAlias?_eq_some_iff.mp ?_)
      rwa [repeated]
    next distinct =>
      exact .inside (fresh_nil_iff.mp (repeatedAlias?_eq_none_iff.mp distinct))
        (classViolation?_eq_some_iff.mp found)
  · rintro (first | ⟨aliases, first⟩)
    · have found := repeatedAlias?_eq_some_iff.mpr first
      cases repeated : repeatedAlias? [] spec.domains with
      | none =>
          rw [repeated] at found
          cases found
      | some violation =>
          rwa [repeated] at found
    · rw [repeatedAlias?_eq_none_iff.mpr (fresh_nil_iff.mpr aliases)]
      exact classViolation?_eq_some_iff.mpr first

end Spec

end MethodCodec
