import Mathlib
import MethodCodec.Json.Value
import MethodCodec.Proofs.JsonNumber
import MethodCodec.Proofs.Lists

/-!
# Trees of JSON texts

What the builder of trees makes of a text of the grammar, inside any containers
that are open and before any text that ends it.
-/

namespace MethodCodec.Json

namespace Value

open Grammar Token

/-- Goes on from where building a tree has got to. -/
def resume (progress : Progress) (tokens : List Token) : Value × List Token :=
  match progress with
  | .pending expectation frames => build expectation frames tokens
  | .finished value => (value, tokens)
  | .failed value => (value, [])

theorem build_cons
    (expectation : Expectation) (frames : List Frame) (token : Token)
    (tokens : List Token) :
    build expectation frames (token :: tokens) =
      resume (advance expectation frames token) tokens := by
  rw [build]
  cases advance expectation frames token <;> rfl

/-- A text from which a value is built, as an item at the start of an array as
anywhere else. -/
structure Builds (text : List Char) (value : Value) : Prop where
  anywhere : ∀ frames rest, Ends rest →
    build .value frames (scan (text ++ rest)) =
      resume (complete value frames) (scan rest)
  first : ∀ frames rest, Ends rest →
    build .firstItem frames (scan (text ++ rest)) =
      build .value (.array [] :: frames) (scan (text ++ rest))

/-! ## Values of one token -/

theorem builds_of_token
    {text : List Char} {token : Token} {value : Value}
    (scanned : ∀ rest, Ends rest → scan (text ++ rest) = token :: scan rest)
    (begun : ∀ frames, beginValue frames token = complete value frames)
    (opens : ∀ frames, advance .firstItem frames token =
      beginValue (.array [] :: frames) token) :
    Builds text value := by
  constructor
  · intro frames rest ends
    rw [scanned rest ends, build_cons, advance, begun]
  · intro frames rest ends
    rw [scanned rest ends, build_cons, build_cons, opens]
    rfl

theorem builds_null : Builds nullText .null :=
  builds_of_token (fun rest _ => scan_null rest) (fun _ => rfl) fun _ => rfl

theorem builds_flag (value : Bool) : Builds (flagText value) (.bool value) :=
  builds_of_token (fun rest _ => scan_flag value rest) (fun _ => rfl) fun _ => rfl

theorem builds_string {value : String} {text : List Char}
    (written : StringText value text) : Builds text (.text (some value)) :=
  builds_of_token (fun rest _ => scan_string written rest) (fun _ => rfl)
    fun _ => rfl

theorem builds_natural {value : Nat} (small : value ≤ Numeral.greatestWord)
    {text : List Char} (written : NaturalText value text) :
    Builds text (.number (some (.natural value))) :=
  builds_of_token (fun _ ends => scan_natural small written ends) (fun _ => rfl)
    fun _ => rfl

/-! ## White space -/

theorem Builds.padded
    {inner text rest : List Char} {value : Value} (builds : Builds inner value)
    (padded : Padded inner text) (ends : Ends rest) (frames : List Frame) :
    build .value frames (scan (text ++ rest)) =
      resume (complete value frames) (scan rest) := by
  obtain ⟨before, after, leading, trailing, rfl⟩ := padded
  rw [List.append_assoc, List.append_assoc, scan_blank leading,
    builds.anywhere frames _ (ends.blank trailing), scan_blank trailing]

theorem Builds.padded_first
    {inner text rest : List Char} {value : Value} (builds : Builds inner value)
    (padded : Padded inner text) (ends : Ends rest) (frames : List Frame) :
    build .firstItem frames (scan (text ++ rest)) =
      build .value (.array [] :: frames) (scan (text ++ rest)) := by
  obtain ⟨before, after, leading, trailing, rfl⟩ := padded
  rw [List.append_assoc, List.append_assoc, scan_blank leading,
    builds.first frames _ (ends.blank trailing)]

/-! ## Arrays -/

@[simp]
theorem scan_comma (rest : List Char) :
    scan (',' :: rest) = .comma :: scan rest :=
  scan_cons (by decide) rest

@[simp]
theorem scan_closeBracket (rest : List Char) :
    scan (']' :: rest) = .closeBracket :: scan rest :=
  scan_cons (by decide) rest

@[simp]
theorem scan_openBracket (rest : List Char) :
    scan ('[' :: rest) = .openBracket :: scan rest :=
  scan_cons (by decide) rest

theorem build_items
    {items : List (List Char)} {text : List Char} (separated : Separated items text)
    {values : List Value} (builds : List.Forall₂ Builds items values)
    (done : List Value) (frames : List Frame) (rest : List Char) :
    build .value (.array done :: frames) (scan (text ++ ']' :: rest)) =
      resume (complete (.array (done.reverse ++ values) none) frames)
        (scan rest) := by
  induction separated generalizing values done with
  | single padded =>
      obtain _ | ⟨here, others⟩ := builds
      cases others
      rw [here.padded padded (.of_mark (by simp) rest), scan_closeBracket,
        complete, resume, build_cons, advance, Frame.put, separate,
        List.reverse_cons]
  | cons padded others inductionHypothesis =>
      obtain _ | ⟨here, others⟩ := builds
      rw [List.append_assoc, List.cons_append,
        here.padded padded (.of_mark (by simp) _), scan_comma, complete, resume,
        build_cons, advance, Frame.put, separate, resume,
        inductionHypothesis others, List.reverse_cons, List.append_assoc,
        List.singleton_append]

theorem build_first_item
    {items : List (List Char)} {text : List Char} (separated : Separated items text)
    {values : List Value} (builds : List.Forall₂ Builds items values)
    (frames : List Frame) (rest : List Char) :
    build .firstItem frames (scan (text ++ ']' :: rest)) =
      build .value (.array [] :: frames) (scan (text ++ ']' :: rest)) := by
  cases separated with
  | single padded =>
      obtain _ | ⟨here, _⟩ := builds
      exact here.padded_first padded (.of_mark (by simp) rest) frames
  | cons padded others =>
      obtain _ | ⟨here, _⟩ := builds
      rw [List.append_assoc, List.cons_append]
      exact here.padded_first padded (.of_mark (by simp) _) frames

theorem builds_of_opening
    {c : Char} {text : List Char} {token : Token} {value : Value}
    (scanned : ∀ rest, scan (c :: rest) = token :: scan rest)
    (opens : ∀ frames, advance .firstItem frames token =
      beginValue (.array [] :: frames) token)
    (inside : ∀ frames rest,
      resume (beginValue frames token) (scan (text ++ rest)) =
        resume (complete value frames) (scan rest)) :
    Builds (c :: text) value := by
  constructor
  · intro frames rest _
    rw [List.cons_append, scanned, build_cons, advance, inside]
  · intro frames rest _
    rw [List.cons_append, scanned, build_cons, build_cons, opens]
    rfl

theorem builds_array
    {items : List (List Char)} {text : List Char} (written : ArrayText items text)
    {values : List Value} (builds : List.Forall₂ Builds items values) :
    Builds text (.array values none) := by
  cases written with
  | empty blank =>
      cases builds
      rw [List.cons_append]
      refine builds_of_opening scan_openBracket (fun _ => rfl) fun frames rest => ?_
      rw [List.append_assoc, scan_blank blank, List.singleton_append,
        scan_closeBracket, beginValue, resume, build_cons, advance]
  | filled separated =>
      rw [List.cons_append]
      refine builds_of_opening scan_openBracket (fun _ => rfl) fun frames rest => ?_
      rw [List.append_assoc, List.singleton_append, beginValue, resume,
        build_first_item separated builds, build_items separated builds]
      rfl

/-! ## Objects -/

@[simp]
theorem scan_colon (rest : List Char) :
    scan (':' :: rest) = .colon :: scan rest :=
  scan_cons (by decide) rest

@[simp]
theorem scan_openBrace (rest : List Char) :
    scan ('\x7b' :: rest) = .openBrace :: scan rest :=
  scan_cons (by decide) rest

@[simp]
theorem scan_closeBrace (rest : List Char) :
    scan ('\x7d' :: rest) = .closeBrace :: scan rest :=
  scan_cons (by decide) rest

/-- The texts of a key and a value with what is made of them. -/
structure BuildsMember
    (member : List Char × List Char) (built : Option String × Value) : Prop where
  key : ∀ rest, scan (member.1 ++ rest) = .text built.1 :: scan rest
  value : Builds member.2 built.2

theorem exists_scan_member
    {member : List Char × List Char} {built : Option String × Value}
    (builds : BuildsMember member built) {piece text : List Char}
    (written : MemberText member piece) (padded : Padded piece text)
    (rest : List Char) :
    ∃ key tokens, scan (text ++ rest) = .text key :: tokens := by
  obtain ⟨before, after, leading, _, rfl⟩ := padded
  obtain ⟨behindKey, beforeValue, _, _, rfl⟩ := written
  simp only [List.append_assoc]
  rw [scan_blank leading, builds.key]
  exact ⟨_, _, rfl⟩

theorem build_member
    {member : List Char × List Char} {built : Option String × Value}
    (builds : BuildsMember member built) {piece text rest : List Char}
    (written : MemberText member piece) (padded : Padded piece text)
    (ends : Ends rest) (done : List (Option String × Value))
    (frames : List Frame) :
    build (.key done) frames (scan (text ++ rest)) =
      build .separator (.object (built :: done) none :: frames) (scan rest) := by
  obtain ⟨before, after, leading, trailing, rfl⟩ := padded
  obtain ⟨behindKey, beforeValue, first, second, rfl⟩ := written
  simp only [List.append_assoc, List.cons_append]
  rw [scan_blank leading, builds.key, scan_blank first, scan_colon,
    scan_blank second, build_cons, advance, beginMember, resume, build_cons,
    advance, resume, builds.value.anywhere _ _ (ends.blank trailing),
    scan_blank trailing]
  rfl

theorem build_members
    {pieces : List (List Char)} {text : List Char}
    (separated : Separated pieces text)
    {members : List (List Char × List Char)}
    (written : List.Forall₂ MemberText members pieces)
    {built : List (Option String × Value)}
    (builds : List.Forall₂ BuildsMember members built)
    (done : List (Option String × Value)) (frames : List Frame)
    (rest : List Char) :
    build (.key done) frames (scan (text ++ '\x7d' :: rest)) =
      resume (complete (.object (done.reverse ++ built) none) frames)
        (scan rest) := by
  induction separated generalizing members built done with
  | single padded =>
      obtain _ | ⟨memberText, others⟩ := written
      cases others
      obtain _ | ⟨here, others⟩ := builds
      cases others
      rw [build_member here memberText padded (.of_mark (by simp) rest),
        scan_closeBrace, build_cons, advance, separate, List.reverse_cons]
  | cons padded others inductionHypothesis =>
      obtain _ | ⟨memberText, written⟩ := written
      obtain _ | ⟨here, others⟩ := builds
      rw [List.append_assoc, List.cons_append,
        build_member here memberText padded (.of_mark (by simp) _), scan_comma,
        build_cons, advance, separate, resume,
        inductionHypothesis written others, List.reverse_cons,
        List.append_assoc, List.singleton_append]

/-- The first key of an object is taken up as all others. -/
theorem build_firstKey
    {pieces : List (List Char)} {text : List Char}
    (separated : Separated pieces text)
    {members : List (List Char × List Char)}
    (written : List.Forall₂ MemberText members pieces)
    {built : List (Option String × Value)}
    (builds : List.Forall₂ BuildsMember members built)
    (frames : List Frame) (rest : List Char) :
    build .firstKey frames (scan (text ++ rest)) =
      build (.key []) frames (scan (text ++ rest)) := by
  obtain ⟨key, tokens, scanned⟩ :
      ∃ key tokens, scan (text ++ rest) = .text key :: tokens := by
    cases separated with
    | single padded =>
        obtain _ | ⟨memberText, _⟩ := written
        obtain _ | ⟨here, _⟩ := builds
        exact exists_scan_member here memberText padded rest
    | cons padded others =>
        obtain _ | ⟨memberText, _⟩ := written
        obtain _ | ⟨here, _⟩ := builds
        rw [List.append_assoc]
        exact exists_scan_member here memberText padded _
  rw [scanned, build_cons, build_cons]
  rfl

theorem builds_object
    {members : List (List Char × List Char)} {text : List Char}
    (written : ObjectText members text)
    {built : List (Option String × Value)}
    (builds : List.Forall₂ BuildsMember members built) :
    Builds text (.object built none) := by
  obtain ⟨pieces, memberTexts, enclosed⟩ := written
  cases enclosed with
  | empty blank =>
      cases memberTexts
      cases builds
      rw [List.cons_append]
      refine builds_of_opening scan_openBrace (fun _ => rfl) fun frames rest => ?_
      rw [List.append_assoc, scan_blank blank, List.singleton_append,
        scan_closeBrace, beginValue, resume, build_cons, advance]
  | filled separated =>
      rw [List.cons_append]
      refine builds_of_opening scan_openBrace (fun _ => rfl) fun frames rest => ?_
      rw [List.append_assoc, List.singleton_append, beginValue, resume,
        build_firstKey separated memberTexts builds,
        build_members separated memberTexts builds]
      rfl

/-! ## Any value -/

/-- A value of the grammar has a tree without a gap, so it can be skipped. -/
theorem exists_builds {text : List Char} (written : AnyValue text) :
    ∃ value, Builds text value ∧ value.skipLapse? = none := by
  induction written with
  | null => exact ⟨_, builds_null, rfl⟩
  | flag value => exact ⟨_, builds_flag value, rfl⟩
  | number number =>
      obtain ⟨value, scanned⟩ := exists_scan_anyNumber number
      exact ⟨.number value,
        builds_of_token scanned (fun _ => rfl) fun _ => rfl, rfl⟩
  | string string =>
      obtain ⟨value, scanned⟩ := exists_scan_anyString string
      exact ⟨.text value,
        builds_of_token (fun rest _ => scanned rest) (fun _ => rfl) fun _ => rfl,
        rfl⟩
  | array _ written inductionHypothesis =>
      obtain ⟨values, builds⟩ := exists_forall₂ inductionHypothesis
      exact ⟨_, builds_array written (builds.imp fun _ _ builds => builds.1), rfl⟩
  | object keys _ written inductionHypothesis =>
      obtain ⟨built, builds⟩ :=
        exists_forall₂ (R := BuildsMember) fun member isMember => by
          obtain ⟨key, scanned⟩ := exists_scan_anyString (keys member isMember)
          obtain ⟨value, builds, _⟩ := inductionHypothesis member isMember
          exact ⟨(key, value), scanned, builds⟩
      exact ⟨_, builds_object written builds, rfl⟩

end Value

/-- The tree of a whole text. -/
theorem Document.ofText_padded
    {inner text : List Char} {value : Value} (builds : Value.Builds inner value)
    (padded : Grammar.Padded inner text) :
    Document.ofText text = ⟨value, false⟩ := by
  have ends : Token.Ends [] := fun _ first => by cases first
  have built := builds.padded padded ends []
  rw [List.append_nil] at built
  rw [Document.ofText, built]
  rfl

end MethodCodec.Json
