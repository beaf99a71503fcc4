import MethodCodec.Wire.Type
import MethodCodec.Wire.Bits

/-!
The wire layout of an argument list. Arguments are partitioned once into plain
fields and maximal runs of flags; the reading plan and the writing plan are
both read off that partition, so they cannot disagree on where a run ends.
-/

namespace MethodCodec

/-- One unit of a layout. Numbers are positions in the argument list. -/
inductive Segment
  /-- An argument that is not a flag and is encoded on its own. -/
  | field (index : Nat)
  /-- A run of consecutive flags that share bytes. -/
  | flags (indices : List Nat)
  deriving DecidableEq

/-- A step of a reading plan. -/
inductive ReadStep
  /-- Read an argument by its own encoding. -/
  | field (index : Nat)
  /-- Read one byte and open it as eight flags. -/
  | flagByte
  /-- Take the flag at `position` of the byte opened last. -/
  | flag (index position : Nat)
  deriving DecidableEq

/-- A step of a writing plan. -/
inductive WriteStep
  /-- Write an argument by its own encoding. -/
  | field (index : Nat)
  /-- Pack the flags of a whole run and write its bytes. -/
  | flags (indices : List Nat)
  deriving DecidableEq

/-- What keeps a plan from being carried out on a list of arguments: it names
an argument that is not there, reads or writes a flag on its own, or asks for
a flag position that a byte does not have. -/
inductive PlanFault
  | noField (index : Nat)
  | loneFlag (index : Nat)
  | noPosition (position : Nat)
  deriving DecidableEq

/-- The wording of a fault. -/
def PlanFault.message : PlanFault → String
  | .noField index => "the plan names argument " ++ toString index ++ ", which is not declared"
  | .loneFlag index => "the plan treats flag argument " ++ toString index ++ " as a plain field"
  | .noPosition position => "the plan takes flag " ++ toString position ++ " of a byte"

namespace Layout

/-- Closes the run that is open, if it holds a flag. The run is kept with its
latest position first. -/
def closeRun (run : List Nat) (rest : List Segment) : List Segment :=
  match run with
  | [] => rest
  | last :: before => .flags (last :: before).reverse :: rest

/-- Partitions the arguments from position `index` on, while `run` holds the
positions of the flags seen since the last plain field, latest first. -/
def segmentsFrom (index : Nat) (run : List Nat) :
    List WireType → List Segment
  | [] => closeRun run []
  | kind :: rest =>
      if kind.isFlag then
        segmentsFrom (index + 1) (index :: run) rest
      else
        closeRun run (.field index :: segmentsFrom (index + 1) [] rest)

/-- The layout of an argument list: each plain field on its own, each maximal
run of consecutive flags as one segment. -/
def segments (kinds : List WireType) : List Segment :=
  segmentsFrom 0 [] kinds

/-- The steps that read one chunk of at most eight flags: its byte, then its
flags from position zero up. -/
def readChunk (chunk : List Nat) : List ReadStep :=
  .flagByte :: chunk.mapIdx fun position index => .flag index position

/-- The steps that read a segment. -/
def readSegment : Segment → List ReadStep
  | .field index => [.field index]
  | .flags indices => (Bits.chunks indices).flatMap readChunk

/-- The reading plan: a run reads a byte before its first flag and again
before every ninth, starting over at position zero. -/
def readPlan (layout : List Segment) : List ReadStep :=
  layout.flatMap readSegment

/-- The step that writes a segment. -/
def writeSegment : Segment → WriteStep
  | .field index => .field index
  | .flags indices => .flags indices

/-- The writing plan: one step per segment, so a run is written at once. -/
def writePlan (layout : List Segment) : List WriteStep :=
  layout.map writeSegment

end Layout

/-- The bytes that a run of flags occupies. -/
def Segment.flagBytes : Segment → Nat
  | .field _ => 0
  | .flags indices => Bits.byteCount indices.length

end MethodCodec
