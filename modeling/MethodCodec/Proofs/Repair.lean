import Mathlib
import MethodCodec.Proofs.Utf8

/-!
# What repair makes of bytes

Where a character stands in front it is read.  Elsewhere the bytes in front are bad:
as many as can begin a character, or a single one that can begin none.  Every such
stretch becomes one replacement character, and what is behind it is read on its own.
-/

namespace MethodCodec.Utf8

/-- Bytes that begin a character. -/
def Begins (bytes : List UInt8) : Prop :=
  ∃ c, bytes <+: encodeChar c

/-- The bytes in front of the rest that are not read: no character stands there, and
they are as many as can begin one, but not none. -/
structure BadStretch (bad rest : List UInt8) : Prop where
  nonempty : bad ≠ []
  noCharacter : ∀ c, ¬ encodeChar c <+: bad ++ rest
  begins : bad.length = 1 ∨ Begins bad
  maximal : ∀ next ∈ rest.head?, ¬ Begins (bad ++ [next])

/-- A text that bytes are repaired to. -/
inductive Repairs : List UInt8 → List Char → Prop
  | nil : Repairs [] []
  | character (c : Char) {rest : List UInt8} {text : List Char}
      (later : Repairs rest text) : Repairs (encodeChar c ++ rest) (c :: text)
  | stretch {bad rest : List UInt8} {text : List Char} (bounded : BadStretch bad rest)
      (later : Repairs rest text) : Repairs (bad ++ rest) (replacement :: text)

/-! ## Bad stretches -/

theorem Begins.of_prefix {front bytes : List UInt8} (begins : Begins bytes)
    (inFront : front <+: bytes) : Begins front := by
  obtain ⟨c, within⟩ := begins
  exact ⟨c, inFront.trans within⟩

/-- A stretch that goes on behind another one cannot be bad as well. -/
theorem BadStretch.eq_nil_of_append {bad more rest : List UInt8}
    (shorter : BadStretch bad (more ++ rest)) (longer : BadStretch (bad ++ more) rest) :
    more = [] := by
  cases more with
  | nil => rfl
  | cons next more =>
      have begins : Begins (bad ++ next :: more) := by
        refine longer.begins.resolve_left fun single => ?_
        have filled : 0 < bad.length := List.length_pos_iff.mpr shorter.nonempty
        rw [List.length_append, List.length_cons] at single
        omega
      have further : bad ++ [next] <+: bad ++ next :: more :=
        (List.prefix_append_right_inj bad).mpr ⟨more, rfl⟩
      exact absurd (begins.of_prefix further) (shorter.maximal next rfl)

/-- Bytes are bad in one way only. -/
theorem BadStretch.unique {bad other rest others : List UInt8}
    (bounded : BadStretch bad rest) (alsoBounded : BadStretch other others)
    (same : bad ++ rest = other ++ others) : bad = other ∧ rest = others := by
  rcases List.append_eq_append_iff.mp same with
    ⟨more, rfl, rfl⟩ | ⟨more, rfl, rfl⟩
  · obtain rfl := bounded.eq_nil_of_append alsoBounded
    simp
  · obtain rfl := alsoBounded.eq_nil_of_append bounded
    simp

/-! ## Characters of several bytes -/

theorem encodeChar_one {first : UInt8} (ascii : first.toNat < 0x80) :
    encodeChar (Char.ofNat first.toNat) = [first] := by
  have code : (Char.ofNat first.toNat).toNat = first.toNat :=
    toNat_ofNat_of_valid (.inl (by omega))
  rw [encodeChar_of_ascii (by omega), code, UInt8.ofNat_toNat]

theorem encodeChar_two {first second : UInt8}
    (lower : 0xC2 ≤ first.toNat) (upper : first.toNat ≤ 0xDF)
    (follows : isContinuation second = true) :
    encodeChar (Char.ofNat (first.toNat % 32 * 64 + second.toNat % 64)) =
      [first, second] := by
  rw [isContinuation_iff] at follows
  generalize shown : first.toNat % 32 * 64 + second.toNat % 64 = number
  have code : (Char.ofNat number).toNat = number :=
    toNat_ofNat_of_valid (.inl (by omega))
  have lead : 0xC0 + number / 64 = first.toNat := by omega
  have trail : 0x80 + number % 64 = second.toNat := by omega
  simp only [encodeChar, code]
  rw [if_neg (by omega), if_pos (by omega), lead, trail, UInt8.ofNat_toNat,
    UInt8.ofNat_toNat]

theorem encodeChar_three {first second third : UInt8}
    (lower : 0xE0 ≤ first.toNat) (upper : first.toNat ≤ 0xEF)
    (follows : followsThree first second = true)
    (last : isContinuation third = true) :
    encodeChar
        (Char.ofNat
          (first.toNat % 16 * 4096 + second.toNat % 64 * 64 + third.toNat % 64)) =
      [first, second, third] := by
  obtain ⟨next, noOverlong, noSurrogate⟩ := followsThree_iff.mp follows
  rw [isContinuation_iff] at next last
  generalize shown :
    first.toNat % 16 * 4096 + second.toNat % 64 * 64 + third.toNat % 64 = number
  have valid : number < 0xD800 ∨ 0xDFFF < number ∧ number < 0x110000 := by omega
  have code : (Char.ofNat number).toNat = number :=
    toNat_ofNat_of_valid valid
  have lead : 0xE0 + number / 4096 = first.toNat := by omega
  have middle : 0x80 + number / 64 % 64 = second.toNat := by omega
  have trail : 0x80 + number % 64 = third.toNat := by omega
  simp only [encodeChar, code]
  rw [if_neg (by omega), if_neg (by omega), if_pos (by omega), lead, middle, trail,
    UInt8.ofNat_toNat, UInt8.ofNat_toNat, UInt8.ofNat_toNat]

theorem encodeChar_four {first second third fourth : UInt8}
    (lower : 0xF0 ≤ first.toNat) (upper : first.toNat ≤ 0xF4)
    (follows : followsFour first second = true)
    (next : isContinuation third = true) (last : isContinuation fourth = true) :
    encodeChar
        (Char.ofNat
          (first.toNat % 8 * 262144 + second.toNat % 64 * 4096
            + third.toNat % 64 * 64 + fourth.toNat % 64)) =
      [first, second, third, fourth] := by
  obtain ⟨behind, noOverlong, inRange⟩ := followsFour_iff.mp follows
  rw [isContinuation_iff] at behind next last
  generalize shown :
    first.toNat % 8 * 262144 + second.toNat % 64 * 4096 + third.toNat % 64 * 64
      + fourth.toNat % 64 = number
  have valid : number < 0xD800 ∨ 0xDFFF < number ∧ number < 0x110000 := by omega
  have code : (Char.ofNat number).toNat = number :=
    toNat_ofNat_of_valid valid
  have lead : 0xF0 + number / 262144 = first.toNat := by omega
  have second_eq : 0x80 + number / 4096 % 64 = second.toNat := by omega
  have third_eq : 0x80 + number / 64 % 64 = third.toNat := by omega
  have trail : 0x80 + number % 64 = fourth.toNat := by omega
  simp only [encodeChar, code]
  rw [if_neg (by omega), if_neg (by omega), if_neg (by omega), lead, second_eq,
    third_eq, trail, UInt8.ofNat_toNat, UInt8.ofNat_toNat, UInt8.ofNat_toNat,
    UInt8.ofNat_toNat]

/-! ## What is in front -/

/-- What is read in front of bytes, a character or a bad stretch, and what is behind
it. -/
inductive Front : List UInt8 → Option Char × List UInt8 → Prop
  | character (c : Char) (rest : List UInt8) : Front (encodeChar c ++ rest) (some c, rest)
  | stretch {bad rest : List UInt8} (bounded : BadStretch bad rest) :
      Front (bad ++ rest) (none, rest)

theorem front_of_encodeChar {c : Char} {bytes : List UInt8}
    (written : encodeChar c = bytes) (rest : List UInt8) :
    Front (bytes ++ rest) (some c, rest) :=
  written ▸ .character c rest

/-- A stretch is bad if the scanner refuses it before whatever begins as the rest
does. -/
theorem badStretch_of_refused {first : UInt8} {tail rest : List UInt8}
    (begins : tail = [] ∨ Begins (first :: tail))
    (refused : ∀ others : List UInt8,
      (∀ next ∈ others.head?, next ∈ rest.head?) →
        (step first (tail ++ others)).1 = none) :
    BadStretch (first :: tail) rest where
  nonempty := List.cons_ne_nil _ _
  noCharacter := by
    rintro c ⟨others, whole⟩
    obtain ⟨lead, trail, written, read⟩ := step_encodeChar c others
    rw [written, List.cons_append, List.cons_append, List.cons.injEq] at whole
    obtain ⟨rfl, behind⟩ := whole
    have stopped := refused rest fun _ member => member
    rw [← behind, read] at stopped
    cases stopped
  begins := by
    refine begins.imp ?_ id
    rintro rfl
    rfl
  maximal := by
    rintro next head ⟨c, others, whole⟩
    -- Nothing behind `next` matters: the scanner would read the character to its end.
    obtain ⟨lead, trail, written, read⟩ := step_encodeChar c []
    rw [written, List.cons_append, List.cons_append, List.append_assoc,
      List.singleton_append, List.cons.injEq] at whole
    obtain ⟨rfl, behind⟩ := whole
    have stopped := refused (next :: others) (by simpa using head)
    rw [behind, ← List.append_nil trail, read] at stopped
    cases stopped

/-- No byte that is ahead can follow. -/
def StopsAt (follows : UInt8 → Bool) (rest : List UInt8) : Prop :=
  ∀ next ∈ rest.head?, ¬ follows next = true

theorem StopsAt.of_head {follows : UInt8 → Bool} {rest others : List UInt8}
    (stops : StopsAt follows rest) (same : ∀ next ∈ others.head?, next ∈ rest.head?) :
    StopsAt follows others :=
  fun next member => stops next (same next member)

theorem StopsAt.withNext_eq {follows : UInt8 → Bool} {rest : List UInt8}
    (stops : StopsAt follows rest)
    (read : UInt8 → List UInt8 → Option Char × List UInt8) :
    withNext follows rest read = (none, rest) := by
  cases rest with
  | nil => rfl
  | cons next others => exact if_neg (stops next rfl)

theorem stopsAt_or_exists_cons (follows : UInt8 → Bool) (rest : List UInt8) :
    StopsAt follows rest ∨
      ∃ next others, rest = next :: others ∧ follows next = true := by
  cases rest with
  | nil => exact .inl fun _ member => by cases member
  | cons next others =>
      by_cases fits : follows next = true
      · exact .inr ⟨next, others, rfl, fits⟩
      · refine .inl fun other member => ?_
        obtain rfl := Option.some.inj member
        exact fits

section

variable {first : UInt8} {rest : List UInt8}

/-- A byte that begins no character stands alone. -/
theorem step_noLead
    (noLead : ¬ first.toNat < 0x80 ∧
      ¬ (0xC2 ≤ first.toNat ∧ first.toNat ≤ 0xDF) ∧
      ¬ (0xE0 ≤ first.toNat ∧ first.toNat ≤ 0xEF) ∧
      ¬ (0xF0 ≤ first.toNat ∧ first.toNat ≤ 0xF4)) (rest : List UInt8) :
    step first rest = (none, rest) := by
  obtain ⟨one, two, three, four⟩ := noLead
  have notOne : ¬ first < 0x80 := by simpa [UInt8.lt_iff_toNat_lt] using one
  have notTwo : ¬ (0xC2 ≤ first && first ≤ 0xDF) = true := by
    simpa [UInt8.le_iff_toNat_le] using two
  have notThree : ¬ (0xE0 ≤ first && first ≤ 0xEF) = true := by
    simpa [UInt8.le_iff_toNat_le] using three
  have notFour : ¬ (0xF0 ≤ first && first ≤ 0xF4) = true := by
    simpa [UInt8.le_iff_toNat_le] using four
  unfold step
  rw [if_neg notOne, if_neg notTwo, if_neg notThree, if_neg notFour]

/-- Where the scanner refuses a stretch because of what is next, the stretch is bad. -/
theorem front_of_stopsAt {tail : List UInt8} {follows : UInt8 → Bool}
    (begins : tail = [] ∨ Begins (first :: tail))
    (refused : ∀ others, StopsAt follows others →
      step first (tail ++ others) = (none, others))
    (stops : StopsAt follows rest) :
    Front (first :: (tail ++ rest)) (step first (tail ++ rest)) := by
  rw [refused rest stops, ← List.cons_append]
  refine .stretch (badStretch_of_refused begins fun others same => ?_)
  rw [refused others (stops.of_head same)]

theorem front_two (lower : 0xC2 ≤ first.toNat) (upper : first.toNat ≤ 0xDF)
    (rest : List UInt8) : Front (first :: rest) (step first rest) := by
  rcases stopsAt_or_exists_cons isContinuation rest with
    stops | ⟨second, others, rfl, follows⟩
  · refine front_of_stopsAt (.inl rfl) (fun others stops => ?_) stops
    rw [List.nil_append, step_leadTwo lower upper, stops.withNext_eq]
  · rw [step_two lower upper follows]
    exact front_of_encodeChar (encodeChar_two lower upper follows) others

theorem front_three (lower : 0xE0 ≤ first.toNat) (upper : first.toNat ≤ 0xEF)
    (rest : List UInt8) : Front (first :: rest) (step first rest) := by
  rcases stopsAt_or_exists_cons (followsThree first) rest with
    stops | ⟨second, rest₂, rfl, follows⟩
  · refine front_of_stopsAt (.inl rfl) (fun others stops => ?_) stops
    rw [List.nil_append, step_leadThree lower upper, stops.withNext_eq]
  rcases stopsAt_or_exists_cons isContinuation rest₂ with
    stops | ⟨third, rest₃, rfl, last⟩
  · -- Some third byte would have made it a character.
    have continues : isContinuation 0x80 = true := by decide
    have whole := encodeChar_three lower upper follows continues
    have begins : [second] = [] ∨ Begins [first, second] :=
      .inr ⟨_, [0x80], whole.symm⟩
    refine front_of_stopsAt begins (fun others stops => ?_) stops
    rw [List.singleton_append, step_leadThree lower upper, withNext_cons follows,
      stops.withNext_eq]
  · rw [step_three lower upper follows last]
    exact front_of_encodeChar (encodeChar_three lower upper follows last) rest₃

theorem front_four (lower : 0xF0 ≤ first.toNat) (upper : first.toNat ≤ 0xF4)
    (rest : List UInt8) : Front (first :: rest) (step first rest) := by
  have continues : isContinuation 0x80 = true := by decide
  rcases stopsAt_or_exists_cons (followsFour first) rest with
    stops | ⟨second, rest₂, rfl, follows⟩
  · refine front_of_stopsAt (.inl rfl) (fun others stops => ?_) stops
    rw [List.nil_append, step_leadFour lower upper, stops.withNext_eq]
  rcases stopsAt_or_exists_cons isContinuation rest₂ with
    stops | ⟨third, rest₃, rfl, next⟩
  · have whole := encodeChar_four lower upper follows continues continues
    have begins : [second] = [] ∨ Begins [first, second] :=
      .inr ⟨_, [0x80, 0x80], whole.symm⟩
    refine front_of_stopsAt begins (fun others stops => ?_) stops
    rw [List.singleton_append, step_leadFour lower upper, withNext_cons follows,
      stops.withNext_eq]
  rcases stopsAt_or_exists_cons isContinuation rest₃ with
    stops | ⟨fourth, rest₄, rfl, last⟩
  · have whole := encodeChar_four lower upper follows next continues
    have begins : [second, third] = [] ∨ Begins [first, second, third] :=
      .inr ⟨_, [0x80], whole.symm⟩
    refine front_of_stopsAt begins (fun others stops => ?_) stops
    rw [List.cons_append, List.singleton_append, step_leadFour lower upper,
      withNext_cons follows, withNext_cons next, stops.withNext_eq]
  · rw [step_four lower upper follows next last]
    exact front_of_encodeChar (encodeChar_four lower upper follows next last) rest₄

/-- The scanner reads what is in front. -/
theorem front_step (first : UInt8) (rest : List UInt8) :
    Front (first :: rest) (step first rest) := by
  by_cases one : first.toNat < 0x80
  · rw [step_one one]
    exact front_of_encodeChar (encodeChar_one one) rest
  by_cases two : 0xC2 ≤ first.toNat ∧ first.toNat ≤ 0xDF
  · exact front_two two.1 two.2 rest
  by_cases three : 0xE0 ≤ first.toNat ∧ first.toNat ≤ 0xEF
  · exact front_three three.1 three.2 rest
  by_cases four : 0xF0 ≤ first.toNat ∧ first.toNat ≤ 0xF4
  · exact front_four four.1 four.2 rest
  have alone (others : List UInt8) : step first others = (none, others) :=
    step_noLead ⟨one, two, three, four⟩ others
  have bounded : BadStretch [first] rest :=
    badStretch_of_refused (.inl rfl) fun others _ => by
      rw [List.nil_append, alone]
  rw [alone, ← List.singleton_append]
  exact .stretch bounded

/-- Nothing else is in front than what the scanner reads. -/
theorem Front.step_eq {front : Option Char × List UInt8}
    (inFront : Front (first :: rest) front) : step first rest = front := by
  generalize whole : first :: rest = bytes at inFront
  cases inFront with
  | character c behind =>
      obtain ⟨lead, trail, written, read⟩ := step_encodeChar c behind
      rw [written, List.cons_append, List.cons.injEq] at whole
      obtain ⟨rfl, rfl⟩ := whole
      exact read
  | @stretch bad behind bounded =>
      have own := front_step first rest
      generalize step first rest = found at own ⊢
      rw [whole] at own
      generalize same : bad ++ behind = bytes at own
      cases own with
      | character c others => exact absurd ⟨others, same.symm⟩ (bounded.noCharacter c)
      | stretch alsoBounded =>
          obtain ⟨_, rfl⟩ := bounded.unique alsoBounded same
          rfl

theorem Front.ne_nil {bytes : List UInt8} {front : Option Char × List UInt8}
    (inFront : Front bytes front) : bytes ≠ [] := by
  cases inFront with
  | character c rest =>
      obtain ⟨lead, trail, written, _⟩ := step_encodeChar c rest
      simp [written]
  | stretch bounded => simp [bounded.nonempty]

end

/-! ## Repair -/

theorem Front.decodeLossy_eq {bytes rest : List UInt8} {read : Option Char}
    (inFront : Front bytes (read, rest)) :
    decodeLossy bytes = read.getD replacement :: decodeLossy rest := by
  obtain ⟨first, tail, rfl⟩ := List.exists_cons_of_ne_nil inFront.ne_nil
  rw [decodeLossy, inFront.step_eq]

theorem repairs_decodeLossy (bytes : List UInt8) : Repairs bytes (decodeLossy bytes) := by
  induction bytes using decodeLossy.induct with
  | case1 =>
      rw [decodeLossy]
      exact .nil
  | case2 first rest inductionHypothesis =>
      have inFront := front_step first rest
      rw [decodeLossy]
      generalize step first rest = front at inFront inductionHypothesis ⊢
      generalize first :: rest = bytes at inFront ⊢
      cases inFront with
      | character c rest => exact .character c inductionHypothesis
      | stretch bounded => exact .stretch bounded inductionHypothesis

theorem Repairs.decodeLossy_eq {bytes : List UInt8} {text : List Char}
    (repairs : Repairs bytes text) : decodeLossy bytes = text := by
  induction repairs with
  | nil => rw [decodeLossy]
  | character c _ inductionHypothesis =>
      rw [(Front.character c _).decodeLossy_eq, inductionHypothesis]
      rfl
  | stretch bounded _ inductionHypothesis =>
      rw [(Front.stretch bounded).decodeLossy_eq, inductionHypothesis]
      rfl

/-- Repair gives the one text in which every character that is there is read and
every bad stretch is one replacement character. -/
theorem decodeLossy_eq_iff {bytes : List UInt8} {text : List Char} :
    decodeLossy bytes = text ↔ Repairs bytes text := by
  constructor
  · rintro rfl
    exact repairs_decodeLossy bytes
  · exact Repairs.decodeLossy_eq

example :
    decodeLossy [0x61, 0xE2, 0x82, 0x62, 0xED, 0xA0] =
      ['a', replacement, 'b', replacement, replacement] := by
  cbv

end MethodCodec.Utf8
