import Mathlib

/-!
# Lists

Lists whose items have keys, lists related item by item, and lists that are
gone through up to the first fault, be it that of an item alone or of an item
behind others.
-/

namespace MethodCodec

/-! ## Keys met in turn -/

section Fresh

variable {α : Type} {seen keys : List α} {key : α}

/-- Keys that repeat neither each other nor one of those seen before. -/
def Fresh (seen keys : List α) : Prop :=
  keys.Nodup ∧ ∀ key ∈ keys, key ∉ seen

@[simp]
theorem fresh_nil (seen : List α) : Fresh seen [] :=
  ⟨List.nodup_nil, fun _ member => absurd member List.not_mem_nil⟩

theorem fresh_cons_iff :
    Fresh seen (key :: keys) ↔ key ∉ seen ∧ Fresh (key :: seen) keys := by
  constructor
  · rintro ⟨nodup, unseen⟩
    obtain ⟨apart, nodup⟩ := List.nodup_cons.mp nodup
    refine ⟨unseen key List.mem_cons_self, nodup, fun other member => ?_⟩
    rw [List.mem_cons, not_or]
    exact ⟨fun same => apart (same ▸ member),
      unseen other (List.mem_cons_of_mem key member)⟩
  · rintro ⟨headUnseen, nodup, unseen⟩
    refine ⟨List.nodup_cons.mpr ⟨fun member => ?_, nodup⟩,
      fun other member => ?_⟩
    · exact unseen key member List.mem_cons_self
    · rcases List.mem_cons.mp member with rfl | member
      · exact headUnseen
      · exact fun earlier =>
          unseen other member (List.mem_cons_of_mem key earlier)

@[simp]
theorem fresh_nil_iff : Fresh [] keys ↔ keys.Nodup := by
  simp [Fresh]

end Fresh

/-! ## Lists with keys -/

section Keys

variable {α κ : Type} [BEq κ] [LawfulBEq κ] {items : List α}

/-- Where keys are distinct, an item is found by its key. -/
theorem find?_key_eq_some_iff
    {key : α → κ} (nodup : (items.map key).Nodup) {value : κ} {item : α} :
    items.find? (fun other => key other == value) = some item ↔
      item ∈ items ∧ key item = value := by
  constructor
  · intro found
    have matching := List.find?_some found
    exact ⟨List.mem_of_find?_eq_some found, by simpa using matching⟩
  · rintro ⟨member, rfl⟩
    cases found : items.find? (fun other => key other == key item) with
    | none =>
        have missed := List.find?_eq_none.mp found item member
        simp at missed
    | some other =>
        have same : key other = key item := by
          simpa using List.find?_some found
        have memberOther := List.mem_of_find?_eq_some found
        rw [List.inj_on_of_nodup_map nodup memberOther member same]

end Keys

theorem lookup_of_mem
    {κ β : Type} [BEq κ] [LawfulBEq κ] {entries : List (κ × β)}
    (nodup : (entries.map Prod.fst).Nodup) {key : κ} {value : β}
    (member : (key, value) ∈ entries) :
    entries.lookup key = some value := by
  induction entries with
  | nil => cases member
  | cons entry entries inductionHypothesis =>
      obtain ⟨apart, nodup⟩ := List.nodup_cons.mp nodup
      rcases List.mem_cons.mp member with rfl | member
      · rw [List.lookup_cons_self]
      · have different : (key == entry.1) = false := by
          rw [beq_eq_false_iff_ne]
          rintro rfl
          exact apart (List.mem_map.mpr ⟨_, member, rfl⟩)
        rw [List.lookup_cons, different]
        exact inductionHypothesis nodup member

theorem lookup_eq_some_iff_mem
    {κ β : Type} [BEq κ] [LawfulBEq κ] {entries : List (κ × β)}
    (nodup : (entries.map Prod.fst).Nodup) {key : κ} {value : β} :
    entries.lookup key = some value ↔ (key, value) ∈ entries := by
  refine ⟨fun found => ?_, lookup_of_mem nodup⟩
  obtain ⟨before, after, rfl, _⟩ := List.lookup_eq_some_iff.mp found
  exact List.mem_append_right before List.mem_cons_self

/-! ## Lists related item by item -/

section Related

variable {α β κ : Type} {items : List α}

theorem exists_left_of_forall₂
    {R : α → β → Prop} {others : List β}
    (paired : List.Forall₂ R items others) {other : β}
    (member : other ∈ others) :
    ∃ item ∈ items, R item other := by
  induction paired with
  | nil => cases member
  | cons related _ inductionHypothesis =>
      rcases List.mem_cons.mp member with rfl | member
      · exact ⟨_, List.mem_cons_self, related⟩
      · obtain ⟨item, itemMember, itemRelated⟩ := inductionHypothesis member
        exact ⟨item, List.mem_cons_of_mem _ itemMember, itemRelated⟩

theorem forall_iff_of_forall₂
    {R : α → β → Prop} {P : α → Prop} {Q : β → Prop} {others : List β}
    (paired : List.Forall₂ R items others)
    (same : ∀ item other, R item other → (P item ↔ Q other)) :
    (∀ item ∈ items, P item) ↔ ∀ other ∈ others, Q other := by
  induction paired with
  | nil => simp
  | cons related _ inductionHypothesis =>
      rw [List.forall_mem_cons, List.forall_mem_cons, same _ _ related,
        inductionHypothesis]

theorem forall_left_of_forall₂
    {R : α → β → Prop} {P : α → Prop} {others : List β}
    (paired : List.Forall₂ R items others)
    (holds : ∀ item other, R item other → P item) :
    ∀ item ∈ items, P item :=
  (forall_iff_of_forall₂ paired fun item other related =>
    iff_true_intro (holds item other related)).mpr fun _ _ => trivial

theorem exists_forall₂
    {R : α → β → Prop} (each : ∀ item ∈ items, ∃ other, R item other) :
    ∃ others, List.Forall₂ R items others := by
  induction items with
  | nil => exact ⟨[], .nil⟩
  | cons item items inductionHypothesis =>
      obtain ⟨⟨other, here⟩, each⟩ := List.forall_mem_cons.mp each
      obtain ⟨others, paired⟩ := inductionHypothesis each
      exact ⟨other :: others, .cons here paired⟩

theorem map_eq_map_of_forall₂
    {R : α → β → Prop} {others : List β}
    (paired : List.Forall₂ R items others)
    {left : α → κ} {right : β → κ}
    (same : ∀ item other, R item other → right other = left item) :
    others.map right = items.map left := by
  induction paired with
  | nil => rfl
  | cons related _ inductionHypothesis =>
      rw [List.map_cons, List.map_cons, same _ _ related, inductionHypothesis]

end Related

/-! ## Lists gone through up to the first fault -/

section Traversal

variable {ε α β : Type} {f : α → Except ε β} {items : List α}

/-- An item behind good ones only. -/
def Preceded (good : α → Prop) (items : List α) (item : α) : Prop :=
  ∃ before after,
    items = before ++ item :: after ∧ ∀ earlier ∈ before, good earlier

theorem Preceded.imp
    {good better : α → Prop} {item : α}
    (implies : ∀ other ∈ items, good other → better other)
    (first : Preceded good items item) :
    Preceded better items item := by
  obtain ⟨before, after, rfl, earlier⟩ := first
  exact ⟨before, after, rfl, fun other member =>
    implies other (List.mem_append_left _ member) (earlier other member)⟩

theorem Preceded.mem
    {good : α → Prop} {item : α} (first : Preceded good items item) :
    item ∈ items := by
  obtain ⟨before, after, rfl, _⟩ := first
  exact List.mem_append_right before List.mem_cons_self

/-- Unless all items are good, there is a first that is not. -/
theorem exists_preceded
    {good : α → Prop} (bad : ¬ ∀ item ∈ items, good item) :
    ∃ item, Preceded good items item ∧ ¬ good item := by
  induction items with
  | nil =>
      simp at bad
  | cons item items inductionHypothesis =>
      by_cases goodHead : good item
      · have badTail : ¬ ∀ other ∈ items, good other := by
          intro goodTail
          exact bad (List.forall_mem_cons.mpr ⟨goodHead, goodTail⟩)
        obtain ⟨other, ⟨before, after, rfl, earlier⟩, badOther⟩ :=
          inductionHypothesis badTail
        exact ⟨other, ⟨item :: before, after, rfl,
          List.forall_mem_cons.mpr ⟨goodHead, earlier⟩⟩, badOther⟩
      · exact ⟨item, ⟨[], items, rfl, by simp⟩, goodHead⟩

theorem map_eq_ok_iff
    {outcome : Except ε α} {change : α → β} {value : β} :
    outcome.map change = .ok value ↔
      ∃ inner, outcome = .ok inner ∧ change inner = value := by
  cases outcome <;> simp [Except.map]

theorem mapM_cons_of_ok
    {item : α} {value : β} (head : f item = .ok value) :
    (item :: items).mapM f = (items.mapM f).map (value :: ·) := by
  rw [List.mapM_cons, head]
  cases items.mapM f <;> rfl

theorem mapM_eq_ok_iff {values : List β} :
    items.mapM f = .ok values ↔
      List.Forall₂ (fun item value => f item = .ok value) items values := by
  induction items generalizing values with
  | nil =>
      cases values <;> simp [pure, Except.pure]
  | cons item items inductionHypothesis =>
      cases head : f item with
      | error fault =>
          rw [List.mapM_cons, head, List.forall₂_cons_left_iff]
          simp [head, bind, Except.bind]
      | ok value =>
          rw [mapM_cons_of_ok head, List.forall₂_cons_left_iff]
          cases tail : items.mapM f with
          | error fault =>
              simp [Except.map, ← inductionHypothesis, tail]
          | ok others =>
              simp [Except.map, ← inductionHypothesis, tail, head, eq_comm]

theorem mapM_eq_error_of_preceded
    {item : α} {fault : ε}
    (first : Preceded (fun item => ∃ value, f item = .ok value) items item)
    (refused : f item = .error fault) :
    items.mapM f = .error fault := by
  obtain ⟨before, after, rfl, earlier⟩ := first
  induction before with
  | nil =>
      rw [List.nil_append, List.mapM_cons, refused]
      rfl
  | cons head before inductionHypothesis =>
      obtain ⟨⟨value, passed⟩, earlier⟩ := List.forall_mem_cons.mp earlier
      rw [List.cons_append, mapM_cons_of_ok passed,
        inductionHypothesis earlier]
      rfl

theorem exists_mapM_eq_ok
    (passed : ∀ item ∈ items, ∃ value, f item = .ok value) :
    ∃ values, items.mapM f = .ok values := by
  induction items with
  | nil =>
      exact ⟨[], rfl⟩
  | cons item items inductionHypothesis =>
      obtain ⟨⟨value, head⟩, tail⟩ := List.forall_mem_cons.mp passed
      obtain ⟨values, others⟩ := inductionHypothesis tail
      exact ⟨value :: values, by rw [mapM_cons_of_ok head, others]; rfl⟩

end Traversal

/-! ## The first item that meets another -/

section FirstAt

variable {α ε σ : Type} {item : α} {items : List α} {fault : ε}

/-- The fault of the first item that has one, where the fault of an item depends
on the items before it. -/
def FirstAt (meets : List α → α → ε → Prop) (items : List α) (fault : ε) : Prop :=
  ∃ before item after,
    items = before ++ item :: after ∧
      (∀ front earlier back, before = front ++ earlier :: back →
        ∀ other, ¬ meets front earlier other) ∧
      meets before item fault

@[simp]
theorem not_firstAt_nil (meets : List α → α → ε → Prop) :
    ¬ FirstAt meets [] fault := by
  rintro ⟨before, item, after, split, _⟩
  simp at split

theorem firstAt_cons_iff {meets : List α → α → ε → Prop} :
    FirstAt meets (item :: items) fault ↔
      meets [] item fault ∨
        (∀ other, ¬ meets [] item other) ∧
          FirstAt (fun before => meets (item :: before)) items fault := by
  constructor
  · rintro ⟨before, found, after, split, earlier, met⟩
    cases before with
    | nil =>
        obtain ⟨rfl, rfl⟩ := List.cons.inj split
        exact .inl met
    | cons first before =>
        obtain ⟨rfl, rfl⟩ := List.cons.inj split
        refine .inr ⟨earlier [] item before rfl, before, found, after, rfl, ?_, met⟩
        rintro front other back rfl
        exact earlier (item :: front) other back rfl
  · rintro (met | ⟨here, before, found, after, rfl, earlier, met⟩)
    · exact ⟨[], item, items, rfl, by simp, met⟩
    · refine ⟨item :: before, found, after, rfl, ?_, met⟩
      intro front other back split
      cases front with
      | nil =>
          obtain ⟨rfl, rfl⟩ := List.cons.inj split
          exact here
      | cons first front =>
          obtain ⟨rfl, rfl⟩ := List.cons.inj split
          exact earlier front other back rfl

/-- A scan that keeps a record of the items passed reports the first fault if
each of its steps either stops at the only fault of its item or finds none and
goes on with a record of the item too. -/
theorem scan_eq_some_iff
    (scan : σ → List α → Option ε) (records : σ → List α → Prop)
    {meets : List α → α → ε → Prop}
    (done : ∀ state, scan state [] = none)
    (step : ∀ state before item, records state before →
      (∃ fault, (∀ other, meets before item other ↔ other = fault) ∧
        ∀ items, scan state (item :: items) = some fault) ∨
      (∀ other, ¬ meets before item other) ∧
        ∃ next, records next (before ++ [item]) ∧
          ∀ items, scan state (item :: items) = scan next items)
    (state : σ) (started : records state []) :
    scan state items = some fault ↔ FirstAt meets items fault := by
  -- Behind the first items the record is that of the items passed.
  suffices behind :
      ∀ items state before, records state before →
        (scan state items = some fault ↔
          FirstAt (fun front => meets (before ++ front)) items fault) from
    behind items state [] started
  intro items
  induction items with
  | nil =>
      intro state before _
      rw [done]
      simp [not_firstAt_nil]
  | cons item items inductionHypothesis =>
      intro state before recorded
      rw [firstAt_cons_iff, List.append_nil]
      rcases step state before item recorded with
        ⟨found, only, stops⟩ | ⟨free, next, recordedNext, goesOn⟩
      · have met : ∃ other, meets before item other := ⟨found, (only found).mpr rfl⟩
        rw [stops, only, Option.some.injEq, eq_comm,
          or_iff_left fun later => met.elim later.1]
      · rw [goesOn, inductionHypothesis next _ recordedNext, or_iff_right (free fault),
          and_iff_right free]
        simp only [List.append_assoc, List.singleton_append]

/-- A scan without a record. -/
theorem scan_eq_some_iff_of_alone
    (scan : List α → Option ε) {meets : α → ε → Prop}
    (done : scan [] = none)
    (step : ∀ item,
      (∃ fault, (∀ other, meets item other ↔ other = fault) ∧
        ∀ items, scan (item :: items) = some fault) ∨
      (∀ other, ¬ meets item other) ∧
        ∀ items, scan (item :: items) = scan items) :
    scan items = some fault ↔ FirstAt (fun _ => meets) items fault := by
  refine scan_eq_some_iff (fun _ : Unit => scan) (fun _ _ => True)
    (fun _ => done) (fun _ _ item _ => ?_) () trivial
  exact (step item).imp_right fun ⟨free, goesOn⟩ => ⟨free, (), trivial, goesOn⟩

end FirstAt

end MethodCodec
