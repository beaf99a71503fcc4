import Mathlib
import MethodCodec.Name

/-!
# Letters of identifiers

Identifiers of types begin with no lower-case letter of ASCII, and constants
have none at all.
-/

namespace MethodCodec.Name

/-! ## Types -/

theorem isLower_of_capitalizeFrom
    {chars rest : List Char} {c : Char}
    (capitalized : capitalizeFrom true chars = c :: rest) :
    c.isLower = false := by
  induction chars with
  | nil =>
      rw [capitalizeFrom] at capitalized
      cases capitalized
  | cons first chars inductionHypothesis =>
      rw [capitalizeFrom] at capitalized
      by_cases hyphen : first = '-'
      · rw [if_pos hyphen] at capitalized
        exact inductionHypothesis capitalized
      · rw [if_neg hyphen, if_pos rfl] at capitalized
        -- The upper-case form is not empty, so it has the first character.
        cases upper : Text.uppercase first with
        | nil => exact absurd upper (Text.uppercase_ne_nil first)
        | cons head tail =>
            rw [upper, List.cons_append] at capitalized
            have same : head = c := (List.cons.inj capitalized).1
            have member : head ∈ Text.uppercase first := by simp [upper]
            exact same ▸ Text.isLower_of_mem_uppercase member

theorem pascalCase_ne_of_isLower
    {word : String} {c : Char} {rest : List Char}
    (letters : word.toList = c :: rest) (lower : c.isLower = true)
    (written : String) :
    pascalCase written ≠ word := by
  rintro rfl
  rw [pascalCase, String.toList_ofList] at letters
  rw [isLower_of_capitalizeFrom letters] at lower
  cases lower

/-! ## Constants -/

theorem isLower_of_mem_joinScreaming
    {words : List (List Char)} {c : Char} (member : c ∈ joinScreaming words) :
    c.isLower = false := by
  induction words with
  | nil => cases member
  | cons word words inductionHypothesis =>
      cases words with
      | nil =>
          rw [joinScreaming] at member
          obtain ⟨_, _, upper⟩ := List.mem_flatMap.mp member
          exact Text.isLower_of_mem_uppercase upper
      | cons next words =>
          rw [joinScreaming, List.mem_append, List.mem_cons] at member
          rcases member with here | rfl | later
          · obtain ⟨_, _, upper⟩ := List.mem_flatMap.mp here
            exact Text.isLower_of_mem_uppercase upper
          · rfl
          · exact inductionHypothesis later
          · simp

theorem screamingCase_ne_of_isLower
    {word : String} {c : Char} (letter : c ∈ word.toList)
    (lower : c.isLower = true) (written : String) :
    screamingCase written ≠ word := by
  rintro rfl
  rw [screamingCase, String.toList_ofList] at letter
  rw [isLower_of_mem_joinScreaming letter] at lower
  cases lower

/-! ## Modules -/

theorem underscored_of_not_mem
    {name : String} (noHyphen : '-' ∉ name.toList) :
    underscored name = name := by
  apply String.toList_inj.mp
  rw [underscored, String.toList_ofList]
  refine (List.map_congr_left fun c member => ?_).trans (List.map_id _)
  have different : c ≠ '-' := by
    rintro rfl
    exact noHyphen member
  rw [if_neg different, id]

theorem eq_of_underscored
    {name word : String} (noUnderscore : '_' ∉ word.toList)
    (same : underscored name = word) :
    name = word := by
  have noHyphen : '-' ∉ name.toList := by
    intro member
    apply noUnderscore
    rw [← same, underscored, String.toList_ofList]
    exact List.mem_map.mpr ⟨'-', member, if_pos rfl⟩
  rw [← same, underscored_of_not_mem noHyphen]

/-- A word without hyphens and underscores that is no keyword is the identifier
of itself only. -/
theorem snakeCase_eq_iff
    {word : String} (noUnderscore : '_' ∉ word.toList)
    (noHyphen : '-' ∉ word.toList) (free : isKeyword word = false)
    (written : String) :
    snakeCase written = word ↔ written = word := by
  constructor
  · intro same
    rw [snakeCase] at same
    split_ifs at same with keyword
    · exact absurd (by simp [← same]) noUnderscore
    · exact eq_of_underscored noUnderscore same
  · rintro rfl
    rw [snakeCase, underscored_of_not_mem noHyphen, free, if_neg (by simp)]

end MethodCodec.Name
