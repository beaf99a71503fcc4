import Mathlib
import MethodCodec.Proofs.Identifier

/-!
# Identifiers of fields and modules

How much of a name its identifier keeps.  Hyphens and underscores become one,
and so do a keyword and the same keyword behind an underscore; no other two
names share an identifier.
-/

namespace MethodCodec.Name

/-! ## Keywords -/

@[simp]
theorem isKeyword_iff {word : String} : isKeyword word = true ↔ word ∈ keywords :=
  List.contains_iff_mem

/-- With an underscore in front no keyword is one any more. -/
theorem isKeyword_escaped {word : String} (keyword : word ∈ keywords) :
    isKeyword ("_" ++ word) = false := by
  have escaped : ∀ word ∈ keywords, isKeyword ("_" ++ word) = false := by
    decide
  exact escaped word keyword

theorem snakeCase_of_mem {name : String} (keyword : underscored name ∈ keywords) :
    snakeCase name = "_" ++ underscored name := by
  rw [snakeCase, if_pos (isKeyword_iff.mpr keyword)]

theorem snakeCase_of_not_mem {name : String} (free : underscored name ∉ keywords) :
    snakeCase name = underscored name := by
  rw [snakeCase, if_neg (mt isKeyword_iff.mp free)]

theorem isKeyword_snakeCase (name : String) : isKeyword (snakeCase name) = false := by
  by_cases keyword : underscored name ∈ keywords
  · rw [snakeCase_of_mem keyword]
    exact isKeyword_escaped keyword
  · rw [snakeCase_of_not_mem keyword, Bool.eq_false_iff]
    exact mt isKeyword_iff.mp keyword

/-! ## The identifier of an identifier -/

theorem hyphen_not_mem_underscored (name : String) :
    '-' ∉ (underscored name).toList := by
  rw [underscored, String.toList_ofList, List.mem_map]
  rintro ⟨c, _, same⟩
  split_ifs at same with hyphen
  · cases same
  · exact hyphen same

theorem hyphen_not_mem_snakeCase (name : String) :
    '-' ∉ (snakeCase name).toList := by
  rw [snakeCase]
  split_ifs
  · simp [hyphen_not_mem_underscored]
  · exact hyphen_not_mem_underscored name

@[simp]
theorem snakeCase_snakeCase (name : String) :
    snakeCase (snakeCase name) = snakeCase name := by
  have kept : underscored (snakeCase name) = snakeCase name :=
    underscored_of_not_mem (hyphen_not_mem_snakeCase name)
  rw [snakeCase, kept, isKeyword_snakeCase, if_neg Bool.false_ne_true]

/-! ## Names that share an identifier -/

/-- The first word is a keyword, and the second the same behind an
underscore. -/
def Escapes (word escaped : String) : Prop :=
  word ∈ keywords ∧ escaped = "_" ++ word

theorem Escapes.not_mem {word escaped : String} (escapes : Escapes word escaped) :
    escaped ∉ keywords := by
  obtain ⟨keyword, rfl⟩ := escapes
  rw [← isKeyword_iff, isKeyword_escaped keyword]
  exact Bool.false_ne_true

/-- What stands behind an underscore is no keyword, so of two names with one
identifier that differ in more than hyphens just one is a keyword. -/
theorem snakeCase_eq_snakeCase_iff {name other : String} :
    snakeCase name = snakeCase other ↔
      underscored name = underscored other ∨
        Escapes (underscored name) (underscored other) ∨
          Escapes (underscored other) (underscored name) := by
  by_cases keyword : underscored name ∈ keywords
  · have unescaped : ¬ Escapes (underscored other) (underscored name) :=
      fun escapes => escapes.not_mem keyword
    rw [snakeCase_of_mem keyword, or_iff_left unescaped]
    by_cases otherKeyword : underscored other ∈ keywords
    · have otherUnescaped : ¬ Escapes (underscored name) (underscored other) :=
        fun escapes => escapes.not_mem otherKeyword
      rw [snakeCase_of_mem otherKeyword, or_iff_left otherUnescaped]
      exact String.append_right_inj "_"
    · have different : underscored name ≠ underscored other :=
        fun same => otherKeyword (same ▸ keyword)
      rw [snakeCase_of_not_mem otherKeyword, or_iff_right different, Escapes,
        and_iff_right keyword, eq_comm]
  · have free : ¬ Escapes (underscored name) (underscored other) :=
      fun escapes => keyword escapes.1
    rw [snakeCase_of_not_mem keyword, or_iff_right free]
    by_cases otherKeyword : underscored other ∈ keywords
    · have different : underscored name ≠ underscored other :=
        fun same => keyword (same ▸ otherKeyword)
      rw [snakeCase_of_mem otherKeyword, or_iff_right different, Escapes,
        and_iff_right otherKeyword]
    · have otherFree : ¬ Escapes (underscored other) (underscored name) :=
        fun escapes => otherKeyword escapes.1
      rw [snakeCase_of_not_mem otherKeyword, or_iff_left otherFree]

/-! ## Names that keep apart -/

theorem underscored_injOn :
    Set.InjOn underscored {name | '_' ∉ name.toList} := by
  -- Without underscores of its own, a name is had back by undoing the hyphens.
  let restored (word : String) : String :=
    String.ofList (word.toList.map fun c => if c = '_' then '-' else c)
  have inverse : Set.LeftInvOn restored underscored {name | '_' ∉ name.toList} := by
    intro name free
    apply String.toList_inj.mp
    rw [underscored, String.toList_ofList, String.toList_ofList, List.map_map]
    refine (List.map_congr_left fun c member => ?_).trans (List.map_id _)
    have other : c ≠ '_' := fun same => free (same ▸ member)
    by_cases hyphen : c = '-'
    · simp [hyphen]
    · simp [hyphen, other]
  exact inverse.injOn

/-- What begins with an underscore comes of a name that has one or that begins
with a hyphen. -/
theorem underscore_mem_or_head?_eq
    {name word : String} (escaped : underscored name = "_" ++ word) :
    '_' ∈ name.toList ∨ name.toList.head? = some '-' := by
  have letters := congrArg String.toList escaped
  rw [underscored, String.toList_ofList] at letters
  cases chars : name.toList with
  | nil => simp [chars] at letters
  | cons c rest =>
      rw [chars, List.map_cons, String.toList_append] at letters
      have first := (List.cons.inj letters).1
      split_ifs at first with hyphen
      · exact .inr (congrArg some hyphen)
      · exact .inl (first ▸ List.mem_cons_self)

theorem snakeCase_unescaped_injOn :
    Set.InjOn snakeCase
      {name | '_' ∉ name.toList ∧ name.toList.head? ≠ some '-'} := by
  rintro name ⟨free, start⟩ other ⟨otherFree, otherStart⟩ same
  rcases snakeCase_eq_snakeCase_iff.mp same with same | escapes | escapes
  · exact underscored_injOn free otherFree same
  · exact absurd (underscore_mem_or_head?_eq escapes.2) (by simp [otherFree, otherStart])
  · exact absurd (underscore_mem_or_head?_eq escapes.2) (by simp [free, start])

/-- The identifier of a field or module has no hyphen, is no keyword and is its
own identifier.  Two names share theirs exactly if they differ in hyphens for
underscores only or one becomes a keyword and the other that keyword behind an
underscore; so names without underscores that do not begin with a hyphen keep
apart. -/
theorem snakeCase_laws (name other : String) :
    ('-' ∉ (snakeCase name).toList ∧ snakeCase name ∉ keywords ∧
        snakeCase (snakeCase name) = snakeCase name) ∧
      (snakeCase name = snakeCase other ↔
        underscored name = underscored other ∨
          Escapes (underscored name) (underscored other) ∨
            Escapes (underscored other) (underscored name)) ∧
      Set.InjOn snakeCase
        {name | '_' ∉ name.toList ∧ name.toList.head? ≠ some '-'} := by
  have free : snakeCase name ∉ keywords := by
    rw [← isKeyword_iff, isKeyword_snakeCase]
    exact Bool.false_ne_true
  exact ⟨⟨hyphen_not_mem_snakeCase name, free, snakeCase_snakeCase name⟩,
    snakeCase_eq_snakeCase_iff, snakeCase_unescaped_injOn⟩

/-- A hyphen in front is enough for a name to meet a keyword. -/
example : snakeCase "-type" = snakeCase "type" ∧ snakeCase "type" = "_type" := by
  decide

end MethodCodec.Name
