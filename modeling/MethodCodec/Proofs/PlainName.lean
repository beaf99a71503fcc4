import Mathlib
import MethodCodec.Proofs.LegalIdentifier

/-!
# Plain names

Names all of whose pieces begin with a letter.  Such a name can be read off each
of its three identifiers, so no two of them share one; and the type of one is the
constant of another only where all pieces of the first are a letter with digits
behind it.
-/

namespace MethodCodec.Name

/-! ## Segments that begin with a letter -/

/-- A lower-case letter with lower-case letters and digits behind it. -/
def IsSegment (segment : List Char) : Prop :=
  segment.head?.any Char.isLower = true ∧ ∀ c ∈ segment, isPieceChar c = true

instance : DecidablePred IsSegment := fun segment =>
  decidable_of_iff
    (segment.head?.any Char.isLower = true ∧ segment.all isPieceChar = true)
    (by simp [IsSegment])

/-- Such segments with hyphens between them. -/
def Plain (written : String) : Prop :=
  ∀ segment ∈ written.toList.splitOn '-', IsSegment segment

instance : DecidablePred Plain := fun written =>
  inferInstanceAs (Decidable (∀ segment ∈ written.toList.splitOn '-', IsSegment segment))

theorem IsSegment.exists_cons {segment : List Char} (isSegment : IsSegment segment) :
    ∃ c rest,
      segment = c :: rest ∧ c.isLower = true ∧
        ∀ other ∈ rest, isPieceChar other = true := by
  obtain ⟨start, inside⟩ := isSegment
  cases segment with
  | nil => cases start
  | cons c rest =>
      exact ⟨c, rest, rfl, by simpa using start, (List.forall_mem_cons.mp inside).2⟩

theorem IsSegment.isPiece {segment : List Char} (isSegment : IsSegment segment) :
    IsPiece segment := by
  obtain ⟨c, rest, rfl, _, _⟩ := isSegment.exists_cons
  exact ⟨List.cons_ne_nil c rest, isSegment.2⟩

section Characters

variable {c : Char}

theorem toUpper_ne_underscore (allowed : isPieceChar c = true) :
    c.toUpper ≠ '_' := by
  intro same
  have alphanum := isAlphanum_toUpper allowed
  rw [same] at alphanum
  cases alphanum

theorem isLower_of_isDigit (digit : c.isDigit = true) : c.isLower = false := by
  rw [Bool.eq_false_iff]
  simp only [Char.isLower, Char.isDigit, ne_eq, Bool.and_eq_true,
    decide_eq_true_eq, ge_iff_le, UInt32.le_iff_toNat_le] at digit ⊢
  have bounds : 'a'.val.toNat = 97 ∧ '9'.val.toNat = 57 := ⟨rfl, rfl⟩
  omega

theorem ne_underscore_of_isPieceChar (allowed : isPieceChar c = true) :
    c ≠ '_' := by
  rintro rfl
  cases allowed

end Characters

section Plain

variable {written : String}

theorem splitOn_ne_nil (written : String) : written.toList.splitOn '-' ≠ [] :=
  List.splitOnP_ne_nil _ _

theorem Plain.conventional (plain : Plain written) : Conventional written where
  pieces := fun piece member => (plain piece member).isPiece
  start := by
    obtain ⟨segment, rest, split⟩ :=
      List.exists_cons_of_ne_nil (splitOn_ne_nil written)
    have isSegment := plain segment (by simp [split])
    obtain ⟨c, others, rfl, lower, _⟩ := isSegment.exists_cons
    rw [← intercalate_pieces, split]
    cases rest with
    | nil => simpa using lower
    | cons next rest => simpa [List.intercalate_cons_cons] using lower

/-! ## Fields and modules -/

/-- The name that a field or module is named for. -/
def ofSnake (identifier : String) : String :=
  String.ofList ((identifier.toList.dropWhile (· = '_')).map fun c =>
    if c = '_' then '-' else c)

theorem ofSnake_snakeCase (plain : Plain written) :
    ofSnake (snakeCase written) = written := by
  obtain ⟨first, rest, letters, lower, inside⟩ := plain.conventional.characters
  have notHyphen : first ≠ '-' := by
    rintro rfl
    cases lower
  have notUnderscore : first ≠ '_' := by
    rintro rfl
    cases lower
  have spelled :
      (underscored written).toList =
        first :: rest.map fun c => if c = '-' then '_' else c := by
    rw [underscored, String.toList_ofList, letters, List.map_cons, if_neg notHyphen]
  -- An underscore in front of a keyword is dropped, and no other is in front.
  have dropped :
      (snakeCase written).toList.dropWhile (· = '_') = (underscored written).toList := by
    rw [snakeCase]
    split_ifs
    · simp [spelled, notUnderscore]
    · simp [spelled, notUnderscore]
  have restored :
      (rest.map fun c => if c = '-' then '_' else c).map
          (fun c => if c = '_' then '-' else c) = rest := by
    rw [List.map_map]
    refine (List.map_congr_left fun c member => ?_).trans (List.map_id rest)
    rcases (List.forall_mem_cons.mp inside).2 c member with allowed | rfl
    · simp [ne_hyphen_of_isPieceChar allowed, ne_underscore_of_isPieceChar allowed]
    · rfl
  apply String.toList_inj.mp
  rw [ofSnake, dropped, spelled, String.toList_ofList, List.map_cons,
    if_neg notUnderscore, restored, letters]

/-! ## Constants -/

/-- The name that a constant is named for. -/
def ofScreaming (identifier : String) : String :=
  String.ofList (identifier.toList.map fun c =>
    if c = '_' then '-' else c.toLower)

theorem ofScreaming_screamingCase (plain : Plain written) :
    ofScreaming (screamingCase written) = written := by
  obtain ⟨first, rest, letters, _, inside⟩ := plain.conventional.characters
  rw [← letters] at inside
  apply String.toList_inj.mp
  rw [plain.conventional.screamingCase_eq, ofScreaming, String.toList_ofList,
    String.toList_ofList, List.map_map]
  refine (List.map_congr_left fun c member => ?_).trans (List.map_id _)
  rcases inside c member with allowed | rfl
  · simp [ne_hyphen_of_isPieceChar allowed, toUpper_ne_underscore allowed,
      toLower_toUpper_of_isPieceChar allowed]
  · rfl

/-! ## Types -/

/-- A piece with its first character in upper case. -/
def capitalized : List Char → List Char
  | [] => []
  | c :: rest => c.toUpper :: rest

/-- The type is made of the pieces, each capitalized by itself. -/
theorem capitalizeFrom_intercalate
    {pieces : List (List Char)} (each : ∀ piece ∈ pieces, IsPiece piece) :
    capitalizeFrom true (['-'].intercalate pieces) = pieces.flatMap capitalized := by
  induction pieces with
  | nil => rfl
  | cons piece pieces inductionHypothesis =>
      obtain ⟨⟨nonempty, here⟩, others⟩ := List.forall_mem_cons.mp each
      obtain ⟨c, piece, rfl⟩ := List.exists_cons_of_ne_nil nonempty
      obtain ⟨first, here⟩ := List.forall_mem_cons.mp here
      rw [List.flatMap_cons, capitalized]
      cases pieces with
      | nil =>
          rw [List.intercalate_singleton, capitalizeFrom_cons first,
            capitalizeFrom_piece here, List.flatMap_nil, List.append_nil]
      | cons next pieces =>
          rw [List.intercalate_cons_cons, List.append_assoc, List.cons_append,
            capitalizeFrom_cons first, capitalizeFrom_append here,
            List.singleton_append, capitalizeFrom, if_pos rfl,
            inductionHypothesis others]
          rfl

theorem toList_pascalCase (plain : Plain written) :
    (pascalCase written).toList =
      (written.toList.splitOn '-').flatMap capitalized := by
  rw [pascalCase, String.toList_ofList,
    ← capitalizeFrom_intercalate plain.conventional.pieces, intercalate_pieces]

/-- A hyphen in front of what was a first letter; other characters stay. -/
def separated (c : Char) : List Char :=
  if c.isUpper then ['-', c.toLower] else [c]

/-- The name that a type is named for. -/
def ofPascal (identifier : String) : String :=
  String.ofList (identifier.toList.flatMap separated).tail

theorem flatMap_separated_capitalized
    {segment : List Char} (isSegment : IsSegment segment) :
    (capitalized segment).flatMap separated = '-' :: segment := by
  obtain ⟨c, rest, rfl, lower, allowed⟩ := isSegment.exists_cons
  have first : isPieceChar c = true := by simp [isPieceChar, lower]
  have upper : c.toUpper.isUpper = true := by
    rw [Char.isUpper_toUpper_eq_isAlpha]
    simp [Char.isAlpha, lower]
  have kept : rest.flatMap separated = rest := by
    rw [List.flatMap_congr fun other member => by
      rw [separated, isUpper_of_isPieceChar (allowed other member),
        if_neg Bool.false_ne_true]]
    exact List.flatMap_singleton' rest
  rw [capitalized, List.flatMap_cons, kept, separated, if_pos upper,
    toLower_toUpper_of_isPieceChar first]
  rfl

theorem cons_intercalate
    {segments : List (List Char)} (filled : segments ≠ []) :
    '-' :: ['-'].intercalate segments = segments.flatMap fun segment => '-' :: segment := by
  induction segments with
  | nil => exact absurd rfl filled
  | cons segment segments inductionHypothesis =>
      cases segments with
      | nil => simp
      | cons next segments =>
          rw [List.flatMap_cons, ← inductionHypothesis (List.cons_ne_nil next segments),
            List.intercalate_cons_cons, List.append_assoc]
          rfl

theorem ofPascal_pascalCase (plain : Plain written) :
    ofPascal (pascalCase written) = written := by
  have whole :
      (pascalCase written).toList.flatMap separated = '-' :: written.toList := by
    rw [toList_pascalCase plain, List.flatMap_assoc,
      List.flatMap_congr fun segment member =>
        flatMap_separated_capitalized (plain segment member),
      ← cons_intercalate (splitOn_ne_nil written), intercalate_pieces]
  rw [ofPascal, whole, List.tail_cons, String.ofList_toList]

/-! ## Identifiers of one name only -/

theorem snakeCase_injOn : Set.InjOn snakeCase {written | Plain written} :=
  Set.LeftInvOn.injOn fun _ plain => ofSnake_snakeCase plain

theorem pascalCase_injOn : Set.InjOn pascalCase {written | Plain written} :=
  Set.LeftInvOn.injOn fun _ plain => ofPascal_pascalCase plain

theorem screamingCase_injOn : Set.InjOn screamingCase {written | Plain written} :=
  Set.LeftInvOn.injOn fun _ plain => ofScreaming_screamingCase plain

/-! ## Types that are constants -/

/-- A name all of whose segments are one letter and digits behind it. -/
def Terse (written : String) : Prop :=
  ∀ segment ∈ written.toList.splitOn '-', ∀ c ∈ segment.tail, c.isDigit = true

instance : DecidablePred Terse := fun written =>
  decidable_of_iff
    ((written.toList.splitOn '-').all fun segment => segment.tail.all Char.isDigit)
    (by simp [Terse])

/-- A name without its hyphens. -/
def unhyphenated (written : String) : String :=
  String.ofList (written.toList.filter (· ≠ '-'))

theorem filter_intercalate
    {pieces : List (List Char)} (each : ∀ piece ∈ pieces, IsPiece piece) :
    (['-'].intercalate pieces).filter (· ≠ '-') = pieces.flatten := by
  induction pieces with
  | nil => rfl
  | cons piece pieces inductionHypothesis =>
      obtain ⟨⟨_, here⟩, each⟩ := List.forall_mem_cons.mp each
      have kept : piece.filter (· ≠ '-') = piece := by
        refine List.filter_eq_self.mpr fun c member => ?_
        simpa using ne_hyphen_of_isPieceChar (here c member)
      cases pieces with
      | nil => rw [List.intercalate_singleton, kept, List.flatten_singleton]
      | cons next pieces =>
          rw [List.intercalate_cons_cons, List.filter_append, List.filter_append,
            inductionHypothesis each, kept]
          simp

theorem toList_unhyphenated (plain : Plain written) :
    (unhyphenated written).toList = (written.toList.splitOn '-').flatten := by
  rw [unhyphenated, String.toList_ofList,
    ← filter_intercalate plain.conventional.pieces, intercalate_pieces]

/-- No letter of the type is lower-case exactly if the name is terse. -/
theorem forall_isLower_pascalCase_iff (plain : Plain written) :
    (∀ c ∈ (pascalCase written).toList, c.isLower = false) ↔ Terse written := by
  rw [toList_pascalCase plain, List.forall_mem_flatMap, Terse]
  refine forall₂_congr fun segment member => ?_
  obtain ⟨first, rest, rfl, _, allowed⟩ := (plain segment member).exists_cons
  rw [capitalized, List.forall_mem_cons, and_iff_right (Char.isLower_toUpper_eq_false first),
    List.tail_cons]
  refine forall₂_congr fun c inside => ?_
  have piece := allowed c inside
  rw [isPieceChar, Bool.or_eq_true] at piece
  constructor
  · intro notLower
    simpa [notLower] using piece
  · exact isLower_of_isDigit

/-- The type of a terse name is the name in upper case, hyphens dropped. -/
theorem toList_pascalCase_of_terse (plain : Plain written) (terse : Terse written) :
    (pascalCase written).toList = (unhyphenated written).toList.map Char.toUpper := by
  rw [toList_pascalCase plain, toList_unhyphenated plain, List.map_flatten,
    List.flatMap_def]
  congr 1
  refine List.map_congr_left fun segment member => ?_
  obtain ⟨first, rest, rfl, _, _⟩ := (plain segment member).exists_cons
  have digits := terse _ member
  rw [capitalized, List.map_cons]
  congr 1
  refine (List.map_id rest).symm.trans (List.map_congr_left fun c inside => ?_)
  have notLower : ¬ c.isLower = true := by
    simp [isLower_of_isDigit (digits c inside)]
  rw [Char.toUpper_eq_of_not_isLower notLower, id]

theorem isPieceChar_of_mem_unhyphenated
    (plain : Plain written) {c : Char} (member : c ∈ (unhyphenated written).toList) :
    isPieceChar c = true := by
  rw [toList_unhyphenated plain] at member
  obtain ⟨segment, isSegment, inside⟩ := List.mem_flatten.mp member
  exact (plain segment isSegment).2 c inside

/-- Read as a constant, the type of a terse name is the name without hyphens. -/
theorem ofScreaming_pascalCase (plain : Plain written) (terse : Terse written) :
    ofScreaming (pascalCase written) = unhyphenated written := by
  apply String.toList_inj.mp
  rw [ofScreaming, String.toList_ofList, toList_pascalCase_of_terse plain terse,
    List.map_map]
  refine (List.map_congr_left fun c member => ?_).trans (List.map_id _)
  have allowed := isPieceChar_of_mem_unhyphenated plain member
  simp [toUpper_ne_underscore allowed, toLower_toUpper_of_isPieceChar allowed]

/-- A type is a constant exactly if its name is terse and is the name of the
constant but for its hyphens. -/
theorem pascalCase_eq_screamingCase_iff
    {other : String} (plain : Plain written) (plainOther : Plain other) :
    pascalCase written = screamingCase other ↔
      Terse written ∧ unhyphenated written = other := by
  constructor
  · intro same
    have terse : Terse written := by
      rw [← forall_isLower_pascalCase_iff plain, same, screamingCase,
        String.toList_ofList]
      exact fun c member => isLower_of_mem_joinScreaming member
    rw [← ofScreaming_pascalCase plain terse, same,
      ofScreaming_screamingCase plainOther]
    exact ⟨terse, rfl⟩
  · rintro ⟨terse, rfl⟩
    apply String.toList_inj.mp
    rw [toList_pascalCase_of_terse plain terse,
      plainOther.conventional.screamingCase_eq, String.toList_ofList]
    refine List.map_congr_left fun c member => ?_
    rw [if_neg (ne_hyphen_of_isPieceChar
      (isPieceChar_of_mem_unhyphenated plain member))]

end Plain

end MethodCodec.Name
