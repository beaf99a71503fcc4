import Mathlib
import MethodCodec.Source.Statement

/-!
# Names of variables

The variables of a reading routine that are not arguments have fresh names: the
least number of underscores that keeps them apart from the arguments.  The search
for such a name knows no limit, and still ends within as many rounds as there are
arguments.  The variables and the names of the arguments are identifiers.
-/

namespace MethodCodec.Source

/-! ## Fresh names -/

/-- A name with underscores behind it. -/
def padded (base : String) (count : Nat) : String :=
  base ++ String.ofList (List.replicate count '_')

@[simp]
theorem padded_zero (base : String) : padded base 0 = base :=
  String.append_empty

@[simp]
theorem padded_succ (base : String) (count : Nat) :
    padded base (count + 1) = padded base count ++ "_" := by
  apply String.toList_inj.mp
  simp [padded, List.replicate_succ']

theorem padded_underscore (base : String) (count : Nat) :
    padded (base ++ "_") count = padded base (count + 1) := by
  apply String.toList_inj.mp
  simp [padded, List.replicate_succ]

theorem padded_injective (base : String) :
    Function.Injective (padded base) := by
  intro left right same
  have lengths := congrArg String.length same
  simpa [padded] using lengths

/-- Every round passes a name that is taken. -/
theorem freshWithin_padded
    (base : String) (taken : List String) (rounds count : Nat) :
    ∃ more ≤ rounds,
      freshWithin taken rounds (padded base count) =
          padded base (count + more) ∧
        (∀ earlier < more, padded base (count + earlier) ∈ taken) ∧
        (more < rounds → padded base (count + more) ∉ taken) := by
  induction rounds generalizing count with
  | zero =>
      exact ⟨0, le_rfl, rfl, by simp, by simp⟩
  | succ rounds inductionHypothesis =>
      rw [freshWithin]
      by_cases occupied : padded base count ∈ taken
      · obtain ⟨more, bound, found, earlier, free⟩ :=
          inductionHypothesis (count + 1)
        have shift (offset : Nat) : count + (offset + 1) = count + 1 + offset := by
          omega
        refine ⟨more + 1, Nat.succ_le_succ bound, ?_, ?_, ?_⟩
        · rw [if_pos occupied, ← padded_succ, found, shift more]
        · intro offset below
          cases offset with
          | zero => exact occupied
          | succ offset =>
              rw [shift]
              exact earlier offset (Nat.lt_of_succ_lt_succ below)
        · intro below
          rw [shift]
          exact free (Nat.lt_of_succ_lt_succ below)
      · exact ⟨0, Nat.zero_le _, if_neg occupied, by simp,
          fun _ => occupied⟩

/-- There are more candidates than names taken. -/
theorem exists_padded_not_mem (base : String) (taken : List String) :
    ∃ count ≤ taken.length, padded base count ∉ taken := by
  by_contra everywhere
  push Not at everywhere
  have distinct :
      ((List.range (taken.length + 1)).map (padded base)).Nodup :=
    List.nodup_range.map (padded_injective base)
  have inside :
      (List.range (taken.length + 1)).map (padded base) ⊆ taken := by
    intro name member
    obtain ⟨count, below, rfl⟩ := List.mem_map.mp member
    exact everywhere count (Nat.le_of_lt_succ (List.mem_range.mp below))
  have bound := (distinct.subperm inside).length_le
  rw [List.length_map, List.length_range] at bound
  exact absurd bound (Nat.not_succ_le_self taken.length)

/-- A fresh name is the first candidate that is not taken. -/
theorem freshName_spec (base : String) (taken : List String) :
    ∃ count ≤ taken.length,
      freshName base taken = padded base count ∧
        padded base count ∉ taken ∧
        ∀ earlier < count, padded base earlier ∈ taken := by
  obtain ⟨count, bound, found, earlier, free⟩ :=
    freshWithin_padded base taken taken.length 0
  simp only [Nat.zero_add, padded_zero] at found earlier free
  refine ⟨count, bound, found, ?_, earlier⟩
  obtain ⟨other, otherBound, otherFree⟩ := exists_padded_not_mem base taken
  have notBefore : count ≤ other := by
    by_contra before
    exact otherFree (earlier other (Nat.lt_of_not_le before))
  by_cases last : count < taken.length
  · exact free last
  · have same : other = count := by omega
    exact same ▸ otherFree

theorem freshName_not_mem (base : String) (taken : List String) :
    freshName base taken ∉ taken := by
  obtain ⟨count, _, found, free, _⟩ := freshName_spec base taken
  rwa [found]

theorem snake_ne_freshName (base : String) (fields : List Field) :
    ∀ field ∈ fields,
      field.name.snake ≠ freshName base (fields.map fun field => field.name.snake) := by
  intro field member same
  apply freshName_not_mem base (fields.map fun field => field.name.snake)
  rw [← same]
  exact List.mem_map.mpr ⟨field, member, rfl⟩

/-- The two variables are told apart by their first letters. -/
theorem reader_ne_flags (fields : List Field) :
    (ReadLocals.ofFields fields).reader ≠ (ReadLocals.ofFields fields).flags := by
  intro same
  obtain ⟨left, _, reader, _⟩ :=
    freshName_spec "reader" (fields.map fun field => field.name.snake)
  obtain ⟨right, _, flags, _⟩ :=
    freshName_spec "bits" (fields.map fun field => field.name.snake)
  rw [ReadLocals.ofFields] at same
  dsimp only at same
  rw [reader, flags] at same
  have letters := congrArg (fun name => name.toList.head?) same
  simp [padded] at letters

/-! ## The search for a fresh name -/

/-- The search for a name that is not taken: how many rounds it goes, where it
begins and where it ends.  A round puts an underscore behind a name that is
taken, and only at a name that is not does the search end. -/
inductive Search (taken : List String) : Nat → String → String → Prop
  | found {name : String} (free : name ∉ taken) :
      Search taken 0 name name
  | again {rounds : Nat} {name last : String} (occupied : name ∈ taken)
      (rest : Search taken rounds (name ++ "_") last) :
      Search taken (rounds + 1) name last

section Search

variable {taken : List String} {base last : String} {rounds : Nat}

theorem search_zero_iff :
    Search taken 0 base last ↔ last = base ∧ base ∉ taken := by
  constructor
  · intro search
    cases search with
    | found free => exact ⟨rfl, free⟩
  · rintro ⟨rfl, free⟩
    exact .found free

theorem search_succ_iff :
    Search taken (rounds + 1) base last ↔
      base ∈ taken ∧ Search taken rounds (base ++ "_") last := by
  constructor
  · intro search
    cases search with
    | again occupied rest => exact ⟨occupied, rest⟩
  · rintro ⟨occupied, rest⟩
    exact .again occupied rest

theorem isLeast_padded_iff :
    IsLeast {count | padded base count ∉ taken} rounds ↔
      padded base rounds ∉ taken ∧
        ∀ earlier < rounds, padded base earlier ∈ taken := by
  constructor
  · rintro ⟨free, least⟩
    refine ⟨free, fun earlier before => ?_⟩
    by_contra alsoFree
    exact absurd (least alsoFree) (Nat.not_le_of_lt before)
  · rintro ⟨free, occupied⟩
    refine ⟨free, fun count alsoFree => ?_⟩
    by_contra before
    exact alsoFree (occupied count (Nat.lt_of_not_le before))

/-- A search goes through the candidates in order and ends at the first that is
not taken. -/
theorem search_iff :
    Search taken rounds base last ↔
      last = padded base rounds ∧
        IsLeast {count | padded base count ∉ taken} rounds := by
  -- A round takes the search to a base one underscore longer, so the base varies
  -- along the induction.
  induction rounds generalizing base with
  | zero =>
      rw [search_zero_iff, isLeast_padded_iff, padded_zero]
      simp
  | succ rounds inductionHypothesis =>
      rw [search_succ_iff, inductionHypothesis, isLeast_padded_iff,
        isLeast_padded_iff, Nat.forall_lt_succ_left, padded_zero]
      simp only [padded_underscore]
      tauto

theorem Search.unique
    {otherRounds : Nat} {otherLast : String}
    (search : Search taken rounds base last)
    (other : Search taken otherRounds base otherLast) :
    rounds = otherRounds ∧ last = otherLast := by
  obtain ⟨ends, least⟩ := search_iff.mp search
  obtain ⟨otherEnds, otherLeast⟩ := search_iff.mp other
  have same : rounds = otherRounds := least.unique otherLeast
  exact ⟨same, by rw [ends, otherEnds, same]⟩

end Search

theorem exists_search_freshName (base : String) (taken : List String) :
    ∃ rounds ≤ taken.length, Search taken rounds base (freshName base taken) := by
  obtain ⟨rounds, bound, found, free, earlier⟩ := freshName_spec base taken
  have least := isLeast_padded_iff.mpr ⟨free, earlier⟩
  exact ⟨rounds, bound, search_iff.mpr ⟨found, least⟩⟩

/-- Whatever the fields are called, the search for a name apart from theirs ends
within as many rounds as there are fields, in one way only, with the least
number of underscores that keeps the name apart from all of them.  So the two
variables of a reading routine differ from each other and from every field. -/
theorem freshNames_least_and_apart :
    (∀ (base : String) (fields : List Field),
      ∃ rounds ≤ fields.length,
        (∀ count last,
          Search (fields.map fun field => field.name.snake) count base last ↔
            count = rounds ∧
              last = freshName base (fields.map fun field => field.name.snake)) ∧
        freshName base (fields.map fun field => field.name.snake) =
          padded base rounds ∧
        IsLeast {count | ∀ field ∈ fields, field.name.snake ≠ padded base count}
          rounds) ∧
      ∀ method : Method,
        (ReadLocals.ofFields method.fields).reader ≠
            (ReadLocals.ofFields method.fields).flags ∧
          ∀ field ∈ method.fields,
            field.name.snake ≠ (ReadLocals.ofFields method.fields).reader ∧
              field.name.snake ≠ (ReadLocals.ofFields method.fields).flags := by
  refine ⟨fun base fields => ?_, fun method => ?_⟩
  · obtain ⟨rounds, bound, search⟩ :=
      exists_search_freshName base (fields.map fun field => field.name.snake)
    obtain ⟨found, least⟩ := search_iff.mp search
    rw [List.length_map] at bound
    refine ⟨rounds, bound, fun count last => ⟨fun other => other.unique search, ?_⟩,
      found, ?_⟩
    · rintro ⟨rfl, rfl⟩
      exact search
    · simpa using least
  · exact ⟨reader_ne_flags method.fields, fun field member =>
      ⟨snake_ne_freshName "reader" _ field member,
        snake_ne_freshName "bits" _ field member⟩⟩

/-- Names that stand in any order are passed one after the other. -/
example :
    freshName "reader" ["reader__", "bits", "reader", "reader_"] = "reader___" := by
  decide

/-! ## Identifiers -/

/-- The characters of identifiers. -/
def isIdentifierChar (c : Char) : Bool :=
  c.isAlphanum || c == '_'

/-- A letter or an underscore, and then letters, digits and underscores, all of
them ASCII. -/
def isIdentifier (name : String) : Bool :=
  match name.toList with
  | [] => false
  | first :: rest =>
      (first.isAlpha || first == '_') && rest.all isIdentifierChar

/-- A letter, and then letters, digits, hyphens and underscores, all of them
ASCII. -/
def isPlainName (written : String) : Bool :=
  match written.toList with
  | [] => false
  | first :: rest =>
      first.isAlpha && rest.all fun c => isIdentifierChar c || c == '-'

/-- Letters, digits and underscores only, all of them ASCII. -/
def isIdentifierText (name : String) : Bool :=
  name.toList.all isIdentifierChar

/-- Letters, digits, hyphens and underscores only, all of them ASCII. -/
def isPlainText (written : String) : Bool :=
  written.toList.all fun c => isIdentifierChar c || c == '-'

theorem isIdentifierText_of_isIdentifier
    {name : String} (identifier : isIdentifier name = true) :
    isIdentifierText name = true := by
  rw [isIdentifier] at identifier
  rw [isIdentifierText]
  cases letters : name.toList with
  | nil => rfl
  | cons first rest =>
      rw [letters, Bool.and_eq_true, Bool.or_eq_true] at identifier
      obtain ⟨start, others⟩ := identifier
      have here : isIdentifierChar first = true := by
        rw [isIdentifierChar, Char.isAlphanum]
        rcases start with alpha | underscore
        · simp [alpha]
        · simp [underscore]
      rw [List.all_cons, here, others]
      rfl

theorem isIdentifier_padded
    {base : String} (identifier : isIdentifier base = true) (count : Nat) :
    isIdentifier (padded base count) = true := by
  rw [isIdentifier] at identifier ⊢
  rw [padded, String.toList_append, String.toList_ofList]
  cases letters : base.toList with
  | nil =>
      rw [letters] at identifier
      cases identifier
  | cons first rest =>
      rw [letters, Bool.and_eq_true] at identifier
      obtain ⟨start, others⟩ := identifier
      have underscores : (List.replicate count '_').all isIdentifierChar = true := by
        simp [isIdentifierChar]
      rw [List.cons_append]
      dsimp only
      rw [List.all_append, start, others, underscores]
      rfl

theorem isIdentifier_freshName
    {base : String} (identifier : isIdentifier base = true)
    (taken : List String) :
    isIdentifier (freshName base taken) = true := by
  obtain ⟨count, _, found, _⟩ := freshName_spec base taken
  rw [found]
  exact isIdentifier_padded identifier count

@[simp]
theorem isIdentifier_reader (fields : List Field) :
    isIdentifier (ReadLocals.ofFields fields).reader = true :=
  isIdentifier_freshName (by decide) _

@[simp]
theorem isIdentifier_flags (fields : List Field) :
    isIdentifier (ReadLocals.ofFields fields).flags = true :=
  isIdentifier_freshName (by decide) _

theorem isIdentifierChar_underscored
    {c : Char} (allowed : (isIdentifierChar c || c == '-') = true) :
    isIdentifierChar (if c = '-' then '_' else c) = true := by
  split_ifs with hyphen
  · rfl
  · simpa [hyphen] using allowed

theorem isIdentifierText_underscored
    {written : String} (plain : isPlainText written = true) :
    isIdentifierText (Name.underscored written) = true := by
  rw [isPlainText, List.all_eq_true] at plain
  rw [isIdentifierText, Name.underscored, String.toList_ofList, List.all_map,
    List.all_eq_true]
  exact fun c member => isIdentifierChar_underscored (plain c member)

theorem isIdentifierText_snakeCase
    {written : String} (plain : isPlainText written = true) :
    isIdentifierText (Name.snakeCase written) = true := by
  have underscored := isIdentifierText_underscored plain
  rw [Name.snakeCase]
  split_ifs
  · rw [isIdentifierText] at underscored ⊢
    rw [String.toList_append, List.all_append, underscored]
    rfl
  · exact underscored

/-- The identifier of a plain name is one. -/
theorem isIdentifier_snakeCase
    {written : String} (plain : isPlainName written = true) :
    isIdentifier (Name.snakeCase written) = true := by
  rw [isPlainName] at plain
  cases letters : written.toList with
  | nil =>
      rw [letters] at plain
      cases plain
  | cons first rest =>
      rw [letters, Bool.and_eq_true] at plain
      obtain ⟨alpha, others⟩ := plain
      have notHyphen : first ≠ '-' := by
        rintro rfl
        cases alpha
      have start : isIdentifierChar first = true := by
        simp [isIdentifierChar, Char.isAlphanum, alpha]
      have rest_all :
          (rest.map fun c => if c = '-' then '_' else c).all isIdentifierChar =
            true := by
        rw [List.all_map, List.all_eq_true]
        intro c member
        exact isIdentifierChar_underscored (List.all_eq_true.mp others c member)
      rw [Name.snakeCase, Name.underscored, letters]
      split_ifs
      · simp [isIdentifier, notHyphen, start, rest_all]
      · simp [isIdentifier, notHyphen, alpha, rest_all]

end MethodCodec.Source
