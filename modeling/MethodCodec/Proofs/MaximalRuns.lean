import Mathlib
import MethodCodec.Wire.Layout

/-!
# Maximal runs of flags

An argument list has one layout only: the one that keeps all arguments in
order, gives every plain field a segment of its own, and cuts no run of flags in
two.
-/

namespace MethodCodec

/-- The positions of the arguments in a segment. -/
def Segment.positions : Segment → List Nat
  | .field index => [index]
  | .flags indices => indices

/-- Whether a segment is a run of flags. -/
def Segment.isRun : Segment → Bool
  | .field _ => false
  | .flags _ => true

namespace Layout

/-! ## Segments told apart by the flags -/

/-- Segments that put no flag by itself, no other argument in a run, and no two
runs side by side, where `flag` says which positions hold flags. -/
structure Segmented (flag : Nat → Bool) (layout : List Segment) : Prop where
  plain : ∀ index, .field index ∈ layout → flag index = false
  filled : ∀ indices, .flags indices ∈ layout → indices ≠ []
  flags : ∀ indices, .flags indices ∈ layout →
    ∀ index ∈ indices, flag index = true
  maximal : layout.IsChain fun segment next =>
    ¬ (segment.isRun = true ∧ next.isRun = true)

section

variable {flag : Nat → Bool} {layout : List Segment}

@[simp]
theorem segmented_nil (flag : Nat → Bool) : Segmented flag [] where
  plain := by simp
  filled := by simp
  flags := by simp
  maximal := .nil

theorem segmented_field_cons_iff {index : Nat} :
    Segmented flag (.field index :: layout) ↔
      flag index = false ∧ Segmented flag layout := by
  constructor
  · rintro ⟨plain, filled, flags, maximal⟩
    exact ⟨plain index List.mem_cons_self,
      fun other member => plain other (List.mem_cons_of_mem _ member),
      fun indices member => filled indices (List.mem_cons_of_mem _ member),
      fun indices member => flags indices (List.mem_cons_of_mem _ member),
      maximal.tail⟩
  · rintro ⟨here, plain, filled, flags, maximal⟩
    refine ⟨?_, ?_, ?_, ?_⟩
    · simpa [here] using plain
    · simpa using filled
    · simpa using flags
    · exact List.isChain_cons.mpr ⟨by simp [Segment.isRun], maximal⟩

/-- A run is followed by the end or by a plain field. -/
theorem segmented_flags_cons_iff {indices : List Nat} :
    Segmented flag (.flags indices :: layout) ↔
      indices ≠ [] ∧ (∀ index ∈ indices, flag index = true) ∧
        (∀ next ∈ layout.head?, next.isRun = false) ∧
        Segmented flag layout := by
  constructor
  · rintro ⟨plain, filled, flags, maximal⟩
    obtain ⟨apart, rest⟩ := List.isChain_cons.mp maximal
    refine ⟨filled indices List.mem_cons_self,
      flags indices List.mem_cons_self, ?_,
      fun other member => plain other (List.mem_cons_of_mem _ member),
      fun others member => filled others (List.mem_cons_of_mem _ member),
      fun others member => flags others (List.mem_cons_of_mem _ member), rest⟩
    intro next first
    simpa [Segment.isRun] using apart next first
  · rintro ⟨nonempty, here, apart, plain, filled, flags, maximal⟩
    refine ⟨?_, ?_, ?_, ?_⟩
    · simpa using plain
    · simpa [nonempty] using filled
    · simpa using ⟨here, flags⟩
    · refine List.isChain_cons.mpr ⟨fun next first => ?_, maximal⟩
      simp [apart next first]

/-! ## One layout at most -/

theorem positions_ne_nil
    {segment : Segment} (segmented : Segmented flag (segment :: layout)) :
    segment.positions ≠ [] := by
  cases segment with
  | field index => exact List.cons_ne_nil index []
  | flags indices => exact segmented.filled indices List.mem_cons_self

/-- A run at the front takes in all flags at the front. -/
theorem takeWhile_positions
    {indices : List Nat} (segmented : Segmented flag (.flags indices :: layout)) :
    ((.flags indices :: layout).flatMap Segment.positions).takeWhile flag =
      indices := by
  obtain ⟨_, here, apart, rest⟩ := segmented_flags_cons_iff.mp segmented
  have stop : (layout.flatMap Segment.positions).takeWhile flag = [] := by
    cases layout with
    | nil => rfl
    | cons next layout =>
        cases next with
        | field index =>
            have plain := (segmented_field_cons_iff.mp rest).1
            simp [Segment.positions, plain]
        | flags others => cases apart (.flags others) rfl
  rw [List.flatMap_cons, Segment.positions,
    List.takeWhile_append_of_pos here, stop, List.append_nil]

/-- The first segment is told by the positions alone. -/
theorem head_eq_of_positions
    {segment other : Segment} {others : List Segment}
    (segmented : Segmented flag (segment :: layout))
    (segmentedOther : Segmented flag (other :: others))
    (same :
      (segment :: layout).flatMap Segment.positions =
        (other :: others).flatMap Segment.positions) :
    segment = other := by
  cases segment with
  | field index =>
      cases other with
      | field place =>
          rw [List.flatMap_cons, List.flatMap_cons] at same
          rw [(List.cons.inj same).1]
      | flags indices =>
          -- The run would be empty, since the first position holds no flag.
          have plain := (segmented_field_cons_iff.mp segmented).1
          have run := takeWhile_positions segmentedOther
          rw [← same, List.flatMap_cons, Segment.positions,
            List.singleton_append, List.takeWhile_cons_of_neg (by simp [plain])]
            at run
          exact absurd run.symm (positions_ne_nil segmentedOther)
  | flags indices =>
      cases other with
      | field place =>
          have plain := (segmented_field_cons_iff.mp segmentedOther).1
          have run := takeWhile_positions segmented
          rw [same, List.flatMap_cons, Segment.positions,
            List.singleton_append, List.takeWhile_cons_of_neg (by simp [plain])]
            at run
          exact absurd run.symm (positions_ne_nil segmented)
      | flags others =>
          rw [← takeWhile_positions segmented, same,
            takeWhile_positions segmentedOther]

theorem eq_of_positions
    {others : List Segment} (segmented : Segmented flag layout)
    (segmentedOthers : Segmented flag others)
    (same :
      layout.flatMap Segment.positions = others.flatMap Segment.positions) :
    layout = others := by
  induction layout generalizing others with
  | nil =>
      cases others with
      | nil => rfl
      | cons other others =>
          rw [List.flatMap_nil, List.flatMap_cons, eq_comm,
            List.append_eq_nil_iff] at same
          exact absurd same.1 (positions_ne_nil segmentedOthers)
  | cons segment layout inductionHypothesis =>
      cases others with
      | nil =>
          rw [List.flatMap_nil, List.flatMap_cons,
            List.append_eq_nil_iff] at same
          exact absurd same.1 (positions_ne_nil segmented)
      | cons other others =>
          obtain rfl := head_eq_of_positions segmented segmentedOthers same
          rw [List.flatMap_cons, List.flatMap_cons,
            List.append_cancel_left_eq] at same
          have tail (segments : List Segment)
              (whole : Segmented flag (segment :: segments)) :
              Segmented flag segments := by
            cases segment with
            | field index => exact (segmented_field_cons_iff.mp whole).2
            | flags indices => exact (segmented_flags_cons_iff.mp whole).2.2.2
          rw [inductionHypothesis (tail layout segmented)
            (tail others segmentedOthers) same]

end

/-! ## The layout of an argument list -/

@[simp]
theorem positions_closeRun (run : List Nat) (rest : List Segment) :
    (closeRun run rest).flatMap Segment.positions =
      run.reverse ++ rest.flatMap Segment.positions := by
  cases run with
  | nil => rfl
  | cons last before => rfl

theorem segmented_closeRun
    {flag : Nat → Bool} {run : List Nat} {rest : List Segment}
    (flags : ∀ index ∈ run, flag index = true)
    (apart : ∀ next ∈ rest.head?, next.isRun = false)
    (segmented : Segmented flag rest) :
    Segmented flag (closeRun run rest) := by
  cases run with
  | nil => exact segmented
  | cons last before =>
      refine segmented_flags_cons_iff.mpr
        ⟨by simp, fun index member => ?_, apart, segmented⟩
      exact flags index (List.mem_reverse.mp member)

/-- The flags of the open run come first, and then all positions that are
left. -/
theorem positions_segmentsFrom
    (index : Nat) (run : List Nat) (kinds : List WireType) :
    (segmentsFrom index run kinds).flatMap Segment.positions =
      run.reverse ++ List.range' index kinds.length := by
  induction kinds generalizing index run with
  | nil =>
      rw [segmentsFrom, positions_closeRun]
      rfl
  | cons kind kinds inductionHypothesis =>
      rw [segmentsFrom, List.length_cons, List.range'_succ]
      split_ifs
      · rw [inductionHypothesis, List.reverse_cons, List.append_assoc]
        rfl
      · rw [positions_closeRun, List.flatMap_cons, inductionHypothesis]
        rfl

theorem segmented_segmentsFrom
    {flag : Nat → Bool} {index : Nat} {run : List Nat} {kinds : List WireType}
    (flags : ∀ place ∈ run, flag place = true)
    (left : ∀ offset kind,
      kinds[offset]? = some kind → flag (index + offset) = kind.isFlag) :
    Segmented flag (segmentsFrom index run kinds) := by
  induction kinds generalizing index run with
  | nil =>
      exact segmented_closeRun flags (by simp) (segmented_nil flag)
  | cons kind kinds inductionHypothesis =>
      have here : flag index = kind.isFlag := left 0 kind rfl
      have later (offset : Nat) (other : WireType)
          (found : kinds[offset]? = some other) :
          flag (index + 1 + offset) = other.isFlag := by
        rw [Nat.add_assoc, Nat.add_comm 1]
        exact left (offset + 1) other found
      rw [segmentsFrom]
      split_ifs with isFlag
      · refine inductionHypothesis ?_ later
        rw [List.forall_mem_cons]
        exact ⟨here.trans isFlag, flags⟩
      · refine segmented_closeRun flags (by simp [Segment.isRun])
          (segmented_field_cons_iff.mpr ⟨?_, inductionHypothesis (by simp) later⟩)
        rw [here]
        simpa using isFlag

/-- Whether the argument at a position is a flag. -/
def flagAt (kinds : List WireType) (index : Nat) : Bool :=
  kinds[index]?.any WireType.isFlag

/-- What makes a list of segments a layout of the arguments: laid end to end it
gives every position in order; a segment for a field points to an argument that
is no flag; a run is not empty and points to flags only; and no two runs stand
side by side. -/
structure LaysOut (kinds : List WireType) (layout : List Segment) : Prop where
  complete : layout.flatMap Segment.positions = List.range kinds.length
  plain : ∀ index, .field index ∈ layout →
    ∃ kind, kinds[index]? = some kind ∧ kind.isFlag = false
  filled : ∀ indices, .flags indices ∈ layout → indices ≠ []
  flags : ∀ indices, .flags indices ∈ layout →
    ∀ index ∈ indices, ∃ kind, kinds[index]? = some kind ∧ kind.isFlag = true
  maximal : layout.IsChain fun segment next =>
    ¬ (segment.isRun = true ∧ next.isRun = true)

theorem laysOut_iff {kinds : List WireType} {layout : List Segment} :
    LaysOut kinds layout ↔
      layout.flatMap Segment.positions = List.range kinds.length ∧
        Segmented (flagAt kinds) layout := by
  have isFlag (index : Nat) :
      (∃ kind, kinds[index]? = some kind ∧ kind.isFlag = true) ↔
        flagAt kinds index = true := by
    simp [flagAt, Option.any_eq_true]
  constructor
  · rintro ⟨complete, plain, filled, flags, maximal⟩
    refine ⟨complete, fun index member => ?_, filled,
      fun indices member index inside =>
        (isFlag index).mp (flags indices member index inside), maximal⟩
    obtain ⟨kind, found, notFlag⟩ := plain index member
    simp [flagAt, found, notFlag]
  · rintro ⟨complete, plain, filled, flags, maximal⟩
    refine ⟨complete, fun index member => ?_, filled,
      fun indices member index inside =>
        (isFlag index).mpr (flags indices member index inside), maximal⟩
    have declared : index < kinds.length := by
      rw [← List.mem_range, ← complete]
      exact List.mem_flatMap.mpr ⟨_, member, List.mem_singleton_self index⟩
    have notFlag := plain index member
    rw [flagAt, List.getElem?_eq_getElem declared] at notFlag
    exact ⟨kinds[index], List.getElem?_eq_getElem declared, by simpa using notFlag⟩

/-- The layout of an argument list is the one list of segments that lays the
arguments out. -/
theorem laysOut_iff_eq_segments (kinds : List WireType) (layout : List Segment) :
    LaysOut kinds layout ↔ layout = segments kinds := by
  have complete :
      (segments kinds).flatMap Segment.positions = List.range kinds.length := by
    rw [segments, positions_segmentsFrom, List.range_eq_range']
    rfl
  have segmented : Segmented (flagAt kinds) (segments kinds) := by
    refine segmented_segmentsFrom (by simp) fun offset kind found => ?_
    simp [flagAt, found]
  rw [laysOut_iff]
  constructor
  · rintro ⟨completeOther, segmentedOther⟩
    exact eq_of_positions segmentedOther segmented
      (completeOther.trans complete.symm)
  · rintro rfl
    exact ⟨complete, segmented⟩

end Layout

end MethodCodec
