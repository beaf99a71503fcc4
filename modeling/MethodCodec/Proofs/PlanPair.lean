import Mathlib
import MethodCodec.Proofs.Bits
import MethodCodec.Proofs.MaximalRuns

/-!
# Two plans of one layout

The reading plan and the writing plan of an argument list name the same
arguments in the same order, and a run of flags is read from bytes of its own:
as many as packing the run gives, eight flags from each.
-/

namespace MethodCodec

/-- The argument that a step of a reading plan fills, if it fills one. -/
def ReadStep.argument? : ReadStep → Option Nat
  | .field index | .flag index _ => some index
  | .flagByte => none

/-- The arguments that a step of a writing plan writes, in order. -/
def WriteStep.arguments : WriteStep → List Nat
  | .field index => [index]
  | .flags indices => indices

namespace Layout

/-! ## Arguments in the order of the plans -/

theorem readChunk_eq (chunk : List Nat) :
    readChunk chunk =
      .flagByte :: chunk.zipIdx.map fun flag => .flag flag.1 flag.2 := by
  rw [readChunk, List.mapIdx_eq_zipIdx_map]

theorem filterMap_argument?_readChunk (chunk : List Nat) :
    (readChunk chunk).filterMap ReadStep.argument? = chunk := by
  have taken :
      (ReadStep.argument? ∘ fun flag : Nat × Nat => .flag flag.1 flag.2) =
        some ∘ Prod.fst := rfl
  rw [readChunk_eq, List.filterMap_cons_none (by rfl), List.filterMap_map, taken,
    ← List.filterMap_map, List.zipIdx_map_fst, List.filterMap_some]

theorem filterMap_argument?_readSegment (segment : Segment) :
    (readSegment segment).filterMap ReadStep.argument? = segment.positions := by
  cases segment with
  | field index => rfl
  | flags indices =>
      rw [readSegment, List.filterMap_flatMap]
      simp only [filterMap_argument?_readChunk]
      rw [List.flatMap_id', Bits.flatten_chunks]
      rfl

@[simp]
theorem filterMap_argument?_readPlan (layout : List Segment) :
    (readPlan layout).filterMap ReadStep.argument? =
      layout.flatMap Segment.positions := by
  rw [readPlan, List.filterMap_flatMap]
  simp only [filterMap_argument?_readSegment]

theorem flatMap_arguments_writePlan (layout : List Segment) :
    (writePlan layout).flatMap WriteStep.arguments =
      layout.flatMap Segment.positions := by
  have same (segment : Segment) :
      (writeSegment segment).arguments = segment.positions := by
    cases segment <;> rfl
  rw [writePlan, List.flatMap_map]
  simp only [same]

/-! ## Bytes of a run -/

/-- A flag that a reading plan takes. Bytes of flags are counted from one, in
the order in which they are read; a flag that is taken before any byte is from
byte zero. -/
structure FlagTaken where
  argument : Nat
  byte : Nat
  position : Nat
  deriving DecidableEq

/-- The flags that a reading plan takes, each from the byte that has been read
last, when `read` bytes of flags have been read before. -/
def flagsTaken (read : Nat) : List ReadStep → List FlagTaken
  | [] => []
  | .field _ :: plan => flagsTaken read plan
  | .flagByte :: plan => flagsTaken (read + 1) plan
  | .flag index position :: plan =>
      ⟨index, read, position⟩ :: flagsTaken read plan

theorem flagsTaken_append (read : Nat) (plan others : List ReadStep) :
    flagsTaken read (plan ++ others) =
      flagsTaken read plan ++
        flagsTaken (read + plan.count .flagByte) others := by
  induction plan generalizing read with
  | nil => rfl
  | cons step plan inductionHypothesis =>
      cases step with
      | field index =>
          rw [List.cons_append, flagsTaken, flagsTaken, inductionHypothesis,
            List.count_cons_of_ne (by simp)]
      | flagByte =>
          rw [List.cons_append, flagsTaken, flagsTaken, inductionHypothesis,
            List.count_cons_self, Nat.add_right_comm, Nat.add_assoc]
      | flag index position =>
          rw [List.cons_append, flagsTaken, flagsTaken, inductionHypothesis,
            List.count_cons_of_ne (by simp), List.cons_append]

theorem count_flagByte_readChunk (chunk : List Nat) :
    (readChunk chunk).count .flagByte = 1 := by
  have noByte :
      .flagByte ∉ chunk.mapIdx fun position index =>
        ReadStep.flag index position := by
    simp [List.mem_mapIdx]
  rw [readChunk, List.count_cons_self, List.count_eq_zero_of_not_mem noByte]

/-- A chunk reads one byte and takes all its flags from there. -/
theorem flagsTaken_readChunk (read : Nat) (chunk : List Nat) :
    flagsTaken read (readChunk chunk) =
      chunk.mapIdx fun position index => ⟨index, read + 1, position⟩ := by
  have each (read : Nat) (flags : List (Nat × Nat)) :
      flagsTaken read (flags.map fun flag => .flag flag.1 flag.2) =
        flags.map fun flag => ⟨flag.1, read, flag.2⟩ := by
    induction flags with
    | nil => rfl
    | cons flag flags inductionHypothesis =>
        rw [List.map_cons, List.map_cons, flagsTaken, inductionHypothesis]
  rw [readChunk_eq, flagsTaken, each, List.mapIdx_eq_zipIdx_map]

theorem readSegment_flags_of_ne_nil
    {indices : List Nat} (nonempty : indices ≠ []) :
    readSegment (.flags indices) =
      readChunk (indices.take 8) ++ readSegment (.flags (indices.drop 8)) := by
  rw [readSegment, readSegment, Bits.chunks_of_ne_nil nonempty,
    List.flatMap_cons]

@[simp]
theorem count_flagByte_readSegment (indices : List Nat) :
    (readSegment (.flags indices)).count .flagByte =
      (Segment.flags indices).flagBytes := by
  rw [readSegment, List.count_flatMap, Segment.flagBytes,
    ← Bits.length_chunks]
  simp [Function.comp_def, count_flagByte_readChunk]

/-- Flags are taken in order, eight from each byte that the run reads. -/
theorem flagsTaken_readSegment (read : Nat) (indices : List Nat) :
    flagsTaken read (readSegment (.flags indices)) =
      indices.mapIdx fun place index =>
        ⟨index, read + place / 8 + 1, place % 8⟩ := by
  induction indices using Bits.chunks_induction generalizing read with
  | nil => simp [readSegment, flagsTaken]
  | step indices nonempty inductionHypothesis =>
      rw [readSegment_flags_of_ne_nil nonempty, flagsTaken_append,
        flagsTaken_readChunk, count_flagByte_readChunk, inductionHypothesis]
      conv_rhs =>
        rw [← List.take_append_drop 8 indices, List.mapIdx_append]
      congr 1
      · refine List.ext_getElem (by simp) fun place inside _ => ?_
        rw [List.length_mapIdx, List.length_take] at inside
        simp only [List.getElem_mapIdx, FlagTaken.mk.injEq, true_and]
        omega
      · refine List.ext_getElem (by simp) fun place inside _ => ?_
        rw [List.length_mapIdx, List.length_drop] at inside
        have full : (indices.take 8).length = 8 :=
          List.length_take_of_le (by omega)
        simp only [List.getElem_mapIdx, FlagTaken.mk.injEq, true_and, full]
        omega

theorem lt_of_flag_mem_readPlan
    {layout : List Segment} {index position : Nat}
    (member : .flag index position ∈ readPlan layout) :
    position < 8 := by
  obtain ⟨segment, _, member⟩ := List.mem_flatMap.mp member
  cases segment with
  | field other => simp [readSegment] at member
  | flags indices =>
      obtain ⟨chunk, inside, member⟩ := List.mem_flatMap.mp member
      have short := Bits.length_le_of_mem_chunks inside
      simp only [readChunk, List.mem_cons, reduceCtorEq, List.mem_mapIdx,
        ReadStep.flag.injEq, false_or] at member
      obtain ⟨place, below, _, rfl⟩ := member
      exact Nat.lt_of_lt_of_le below short

/-! ## The plans of an argument list -/

/-- Both plans go through the arguments in order. A run of flags has its own
part of the reading plan. It reads as many bytes as packing the run gives, and
takes eight flags from each, from position zero up. -/
theorem plans_agree (kinds : List WireType) :
    (readPlan (segments kinds)).filterMap ReadStep.argument? =
        List.range kinds.length ∧
      (writePlan (segments kinds)).flatMap WriteStep.arguments =
        List.range kinds.length ∧
      (∀ index position,
        .flag index position ∈ readPlan (segments kinds) → position < 8) ∧
      ∀ before indices after,
        segments kinds = before ++ .flags indices :: after →
          let run := readSegment (.flags indices)
          let read := (readPlan before).count .flagByte
          readPlan (segments kinds) =
              readPlan before ++ run ++ readPlan after ∧
            run.count .flagByte = (Segment.flags indices).flagBytes ∧
            (∀ flags : List Bool, flags.length = indices.length →
              (Bits.pack flags).length = run.count .flagByte) ∧
            flagsTaken 0 (readPlan (segments kinds)) =
              flagsTaken 0 (readPlan before) ++
                (indices.mapIdx fun place index =>
                  ⟨index, read + place / 8 + 1, place % 8⟩) ++
                flagsTaken (read + run.count .flagByte) (readPlan after) := by
  have complete := ((laysOut_iff_eq_segments kinds _).mpr rfl).complete
  refine ⟨(filterMap_argument?_readPlan _).trans complete,
    (flatMap_arguments_writePlan _).trans complete,
    fun _ _ member => lt_of_flag_mem_readPlan member, ?_⟩
  intro before indices after split
  have parts :
      readPlan (segments kinds) =
        readPlan before ++ readSegment (.flags indices) ++ readPlan after := by
    rw [split]
    simp only [readPlan, List.flatMap_append, List.flatMap_cons,
      List.append_assoc]
  refine ⟨parts, count_flagByte_readSegment indices, fun flags same => ?_, ?_⟩
  · rw [Bits.length_pack, same, count_flagByte_readSegment, Segment.flagBytes]
  · rw [parts, flagsTaken_append, flagsTaken_append, flagsTaken_readSegment,
      List.count_append, Nat.zero_add, Nat.zero_add]

/-- A run of more than eight flags, and a run of one behind a plain field. -/
def twoRuns : List WireType :=
  List.replicate 9 .bit ++ [.octet, .bit]

theorem plans_agree_twoRuns :
    segments twoRuns =
        [.flags (List.range 9), .field 9] ++ .flags [10] :: [] ∧
      (readSegment (.flags [10])).count .flagByte = 1 ∧
      flagsTaken 0 (readPlan (segments twoRuns)) =
        (List.range 8).map (fun place => ⟨place, 1, place⟩) ++
          [⟨8, 2, 0⟩, ⟨10, 3, 0⟩] := by
  have split :
      segments twoRuns =
        [.flags (List.range 9), .field 9] ++ .flags [10] :: [] := by
    decide
  obtain ⟨_, _, _, runs⟩ := plans_agree twoRuns
  obtain ⟨_, bytes, _, taken⟩ := runs _ _ _ split
  exact ⟨split, bytes.trans (by decide), taken.trans (by cbv)⟩

end Layout

end MethodCodec
