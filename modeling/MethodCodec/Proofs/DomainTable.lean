import Mathlib
import MethodCodec.Proofs.Collision
import MethodCodec.Proofs.Resolution

/-!
# The table of domains

Aliases may be declared more than once.  The table lists each alias where it was
declared first, with the type that was declared for it last, and there is a
table exactly if every word that is declared stands for a type.
-/

namespace MethodCodec

open WireType

/-! ## The last word for an alias -/

/-- The word that is declared for an alias, and not declared anew. -/
def LastDeclared (declarations : List (String × String)) (domain word : String) :
    Prop :=
  ∃ before after,
    declarations = before ++ (domain, word) :: after ∧
      domain ∉ after.map Prod.fst

section LastDeclared

variable {declarations : List (String × String)} {domain word : String}

@[simp]
theorem not_lastDeclared_nil : ¬ LastDeclared [] domain word := by
  rintro ⟨before, after, split, _⟩
  simp at split

theorem lastDeclared_concat_iff {entry : String × String} :
    LastDeclared (declarations ++ [entry]) domain word ↔
      if domain = entry.1 then word = entry.2
      else LastDeclared declarations domain word := by
  constructor
  · rintro ⟨before, after, split, later⟩
    rcases List.eq_nil_or_concat' after with rfl | ⟨front, last, rfl⟩
    · obtain ⟨_, rfl⟩ := List.append_singleton_inj.mp split
      rw [if_pos rfl]
    · rw [← List.cons_append, ← List.append_assoc] at split
      obtain ⟨rfl, rfl⟩ := List.append_singleton_inj.mp split
      rw [List.map_append, List.mem_append, not_or] at later
      rw [if_neg (by simpa using later.2)]
      exact ⟨before, front, rfl, later.1⟩
  · intro declared
    split_ifs at declared with same
    · exact ⟨declarations, [], by rw [same, declared], by simp⟩
    · obtain ⟨before, after, rfl, later⟩ := declared
      exact ⟨before, after ++ [entry], by simp, by simp [later, same]⟩

/-- The last declaration is the first from behind. -/
theorem lastDeclared_iff_lookup :
    LastDeclared declarations domain word ↔
      declarations.reverse.lookup domain = some word := by
  induction declarations using List.reverseRecOn with
  | nil => simp [not_lastDeclared_nil]
  | append_singleton declarations entry inductionHypothesis =>
      rw [lastDeclared_concat_iff, inductionHypothesis, List.reverse_concat,
        List.lookup_cons]
      by_cases same : domain = entry.1
      · simp [same, eq_comm]
      · have different : (domain == entry.1) = false := by simpa using same
        simp [same, different]

theorem LastDeclared.unique
    {other : String} (last : LastDeclared declarations domain word)
    (otherLast : LastDeclared declarations domain other) : other = word := by
  rw [lastDeclared_iff_lookup] at last otherLast
  exact Option.some.inj (otherLast.symm.trans last)

theorem LastDeclared.mem
    (last : LastDeclared declarations domain word) :
    (domain, word) ∈ declarations := by
  obtain ⟨before, after, rfl, _⟩ := last
  exact List.mem_append_right before List.mem_cons_self

end LastDeclared

/-! ## The order of declaration -/

/-- An alias is declared before another is declared first. -/
def DeclaredBefore (declarations : List (String × String)) (first second : String) :
    Prop :=
  (declarations.map Prod.fst).idxOf first < (declarations.map Prod.fst).idxOf second

section DeclaredBefore

variable {declarations : List (String × String)} {first second : String}

/-- Declarations behind it do not move the first place of an alias. -/
theorem DeclaredBefore.concat
    (earlier : DeclaredBefore declarations first second)
    (member : first ∈ declarations.map Prod.fst)
    (other : second ∈ declarations.map Prod.fst) (entry : String × String) :
    DeclaredBefore (declarations ++ [entry]) first second := by
  rwa [DeclaredBefore, List.map_append, List.idxOf_append_of_mem member,
    List.idxOf_append_of_mem other]

theorem declaredBefore_new
    (member : first ∈ declarations.map Prod.fst)
    (new : second ∉ declarations.map Prod.fst) (word : String) :
    DeclaredBefore (declarations ++ [(second, word)]) first second := by
  rw [DeclaredBefore, List.map_append, List.idxOf_append_of_mem member,
    List.idxOf_append_of_notMem new]
  exact Nat.lt_add_right _ (List.idxOf_lt_length_of_mem member)

end DeclaredBefore

namespace Domains

variable {declarations : List (String × String)} {domains : Domains}

/-! ## Insertion -/

section Insert

variable {entries : List (String × WireType)} {domain : String} {kind : WireType}

theorem keys_insertInto_of_mem (known : domain ∈ entries.map Prod.fst) :
    (insertInto domain kind entries).map Prod.fst = entries.map Prod.fst := by
  induction entries with
  | nil => cases known
  | cons entry entries inductionHypothesis =>
      rw [insertInto]
      split_ifs with same
      · rfl
      · rw [List.map_cons, List.mem_cons, or_iff_right (Ne.symm same)] at known
        rw [List.map_cons, List.map_cons, inductionHypothesis known]

/-- In a table without repeated aliases insertion leaves no old type behind. -/
theorem of_mem_insertInto
    (nodup : (entries.map Prod.fst).Nodup) {entry : String × WireType}
    (member : entry ∈ insertInto domain kind entries) :
    entry = (domain, kind) ∨ entry ∈ entries ∧ entry.1 ≠ domain := by
  induction entries with
  | nil => exact .inl (List.mem_singleton.mp member)
  | cons head entries inductionHypothesis =>
      obtain ⟨apart, nodup⟩ := List.nodup_cons.mp nodup
      rw [insertInto] at member
      split_ifs at member with same
      · rcases List.mem_cons.mp member with rfl | member
        · exact .inl (congrArg (Prod.mk · kind) same)
        · refine .inr ⟨List.mem_cons_of_mem _ member, fun met => apart ?_⟩
          exact List.mem_map.mpr ⟨entry, member, met.trans same.symm⟩
      · rcases List.mem_cons.mp member with rfl | member
        · exact .inr ⟨List.mem_cons_self, same⟩
        · exact (inductionHypothesis nodup member).imp_right fun old =>
            ⟨List.mem_cons_of_mem _ old.1, old.2⟩

end Insert

/-! ## The table of a list of declarations -/

/-- A table has every alias once, in the order in which each was declared first,
with the type that was declared for it last. -/
structure LastWins (declarations : List (String × String)) (domains : Domains) :
    Prop where
  spelled : ∀ entry ∈ declarations, Spelled entry.2
  aliases :
    ∀ domain,
      domain ∈ domains.entries.map Prod.fst ↔ domain ∈ declarations.map Prod.fst
  order : (domains.entries.map Prod.fst).Pairwise (DeclaredBefore declarations)
  types :
    ∀ entry ∈ domains.entries,
      LastDeclared declarations entry.1 entry.2.spelling

theorem LastWins.nodup (table : LastWins declarations domains) :
    (domains.entries.map Prod.fst).Nodup :=
  table.order.imp fun earlier same => absurd (same ▸ earlier) (lt_irrefl _)

@[simp]
theorem lastWins_nil : LastWins [] Domains.empty where
  spelled := by simp
  aliases := by simp [Domains.empty]
  order := List.Pairwise.nil
  types := by simp [Domains.empty]

/-- One more declaration is one insertion. -/
theorem LastWins.insert
    (table : LastWins declarations domains) (domain : String) (kind : WireType) :
    LastWins (declarations ++ [(domain, kind.spelling)])
      (domains.insert domain kind) where
  spelled := by
    intro entry member
    rcases List.mem_append.mp member with member | last
    · exact table.spelled entry member
    · obtain rfl := List.mem_singleton.mp last
      exact ⟨kind, rfl⟩
  aliases := by
    intro other
    rw [List.map_append, List.mem_append, ← table.aliases, Domains.insert]
    by_cases known : domain ∈ domains.entries.map Prod.fst
    · rw [keys_insertInto_of_mem known, iff_self_or]
      intro last
      obtain rfl := List.mem_singleton.mp last
      exact known
    · rw [insertInto_of_not_mem known, List.map_append, List.mem_append]
      rfl
  order := by
    have kept :
        (domains.entries.map Prod.fst).Pairwise
          (DeclaredBefore (declarations ++ [(domain, kind.spelling)])) :=
      table.order.imp_of_mem fun member other earlier =>
        earlier.concat ((table.aliases _).mp member) ((table.aliases _).mp other) _
    rw [Domains.insert]
    by_cases known : domain ∈ domains.entries.map Prod.fst
    · rwa [keys_insertInto_of_mem known]
    · rw [insertInto_of_not_mem known]
      dsimp only
      rw [List.map_append]
      refine List.pairwise_append.mpr ⟨kept, List.pairwise_singleton _ _, ?_⟩
      intro first member second last
      obtain rfl := List.mem_singleton.mp last
      exact declaredBefore_new ((table.aliases first).mp member)
        (mt (table.aliases second).mpr known) _
  types := by
    intro entry member
    rw [lastDeclared_concat_iff]
    rcases of_mem_insertInto table.nodup member with rfl | ⟨old, other⟩
    · rw [if_pos rfl]
    · rw [if_neg other]
      exact table.types entry old

/-- Words that all stand for types are declared one by one. -/
theorem LastWins.declare
    (table : LastWins declarations domains) {more : List (String × String)}
    (spelled : ∀ entry ∈ more, Spelled entry.2) :
    ∃ result,
      (domains.declare more).outcome = .ok result ∧
        LastWins (declarations ++ more) result := by
  induction more generalizing declarations domains with
  | nil =>
      exact ⟨domains, rfl, by rwa [List.append_nil]⟩
  | cons entry more inductionHypothesis =>
      obtain ⟨domain, word⟩ := entry
      obtain ⟨⟨kind, rfl⟩, later⟩ := List.forall_mem_cons.mp spelled
      obtain ⟨result, declared, grown⟩ :=
        inductionHypothesis (table.insert domain kind) later
      refine ⟨result, ?_, by rwa [← List.append_cons] at grown⟩
      rw [outcome_declare_cons, ofWord_spelling]
      exact declared

theorem LastWins.exists_mem
    (table : LastWins declarations domains) {domain word : String}
    (last : LastDeclared declarations domain word) :
    ∃ kind, kind.spelling = word ∧ (domain, kind) ∈ domains.entries := by
  have declared : domain ∈ declarations.map Prod.fst :=
    List.mem_map.mpr ⟨_, last.mem, rfl⟩
  obtain ⟨⟨_, kind⟩, member, rfl⟩ :=
    List.mem_map.mp ((table.aliases domain).mpr declared)
  exact ⟨kind, last.unique (table.types _ member), member⟩

theorem LastWins.mem_iff
    (table : LastWins declarations domains) {domain : String} {kind : WireType} :
    (domain, kind) ∈ domains.entries ↔
      LastDeclared declarations domain kind.spelling := by
  refine ⟨table.types _, fun last => ?_⟩
  obtain ⟨other, same, member⟩ := table.exists_mem last
  rwa [← spelling_injective same]

/-- There is one such table only. -/
theorem LastWins.unique
    (table : LastWins declarations domains) {other : Domains}
    (otherTable : LastWins declarations other) : other = domains := by
  have members (entry : String × WireType) :
      entry ∈ other.entries ↔ entry ∈ domains.entries :=
    otherTable.mem_iff.trans table.mem_iff.symm
  have permuted : other.entries.Perm domains.entries :=
    (List.perm_ext_iff_of_nodup otherTable.nodup.of_map table.nodup.of_map).mpr
      members
  have entries : other.entries = domains.entries := by
    refine permuted.eq_of_pairwise ?_ (List.pairwise_map.mp otherTable.order)
      (List.pairwise_map.mp table.order)
    intro _ _ _ _ earlier later
    exact absurd earlier (lt_asymm later)
  cases other
  cases domains
  cases entries
  rfl

/-! ## Look-up -/

theorem LastWins.lookup_eq_some_iff
    (table : LastWins declarations domains) {domain : String} {kind : WireType} :
    domains.entries.lookup domain = some kind ↔
      LastDeclared declarations domain kind.spelling := by
  rw [← table.mem_iff, lookup_eq_some_iff_mem table.nodup]

theorem LastWins.lookup_eq_none_iff
    (table : LastWins declarations domains) {domain : String} :
    domains.entries.lookup domain = none ↔
      domain ∉ declarations.map Prod.fst := by
  rw [← table.aliases, List.lookup_eq_none_iff, List.mem_map]
  constructor
  · rintro apart ⟨entry, member, rfl⟩
    simpa using apart entry member
  · intro absent entry member
    exact bne_iff_ne.mpr fun same => absent ⟨entry, member, same.symm⟩

theorem LastWins.typeOf_eq_ok_iff
    (table : LastWins declarations domains) {domain : String} {kind : WireType} :
    domains.typeOf domain = .ok kind ↔
      LastDeclared declarations domain kind.spelling := by
  rw [← table.lookup_eq_some_iff, typeOf]
  cases domains.entries.lookup domain <;> simp

theorem LastWins.typeOf_eq_error_iff
    (table : LastWins declarations domains) {domain : String} {fault : TypeFault} :
    domains.typeOf domain = .error fault ↔
      domain ∉ declarations.map Prod.fst ∧ fault = .unknownDomain domain none := by
  rw [← table.lookup_eq_none_iff, typeOf]
  cases domains.entries.lookup domain <;> simp [eq_comm]

/-! ## Tables and faults -/

/-- The first word that stands for no type, in the order of declaration. -/
def FirstUnknown (declarations : List (String × String)) (fault : TypeFault) : Prop :=
  ∃ domain word,
    Preceded (fun entry => Spelled entry.2) declarations (domain, word) ∧
      ¬ Spelled word ∧ fault = .unknownType word

theorem ofDeclarations_of_firstUnknown
    {fault : TypeFault} (first : FirstUnknown declarations fault) :
    (ofDeclarations declarations).outcome = .error fault := by
  obtain ⟨domain, word, preceded, unknown, rfl⟩ := first
  exact outcome_declare_of_preceded preceded unknown empty

theorem exists_ofDeclarations
    (spelled : ∀ entry ∈ declarations, Spelled entry.2) :
    ∃ domains,
      (ofDeclarations declarations).outcome = .ok domains ∧
        LastWins declarations domains :=
  lastWins_nil.declare spelled

theorem exists_firstUnknown
    (unknown : ¬ ∀ entry ∈ declarations, Spelled entry.2) :
    ∃ fault, FirstUnknown declarations fault := by
  obtain ⟨⟨domain, word⟩, preceded, unspelled⟩ := exists_preceded unknown
  exact ⟨_, domain, word, preceded, unspelled, rfl⟩

theorem FirstUnknown.not_spelled
    {fault : TypeFault} (first : FirstUnknown declarations fault) :
    ¬ ∀ entry ∈ declarations, Spelled entry.2 := by
  obtain ⟨domain, word, preceded, unknown, rfl⟩ := first
  exact fun spelled => unknown (spelled _ preceded.mem)

theorem ofDeclarations_eq_ok_iff :
    (ofDeclarations declarations).outcome = .ok domains ↔
      LastWins declarations domains := by
  constructor
  · intro declared
    by_cases spelled : ∀ entry ∈ declarations, Spelled entry.2
    · obtain ⟨result, found, table⟩ := exists_ofDeclarations spelled
      rw [found, Except.ok.injEq] at declared
      exact declared ▸ table
    · obtain ⟨fault, first⟩ := exists_firstUnknown spelled
      rw [ofDeclarations_of_firstUnknown first] at declared
      cases declared
  · intro table
    obtain ⟨result, declared, other⟩ := exists_ofDeclarations table.spelled
    rw [declared, table.unique other]

theorem ofDeclarations_eq_error_iff {fault : TypeFault} :
    (ofDeclarations declarations).outcome = .error fault ↔
      FirstUnknown declarations fault := by
  refine ⟨fun failed => ?_, ofDeclarations_of_firstUnknown⟩
  by_cases spelled : ∀ entry ∈ declarations, Spelled entry.2
  · obtain ⟨result, declared, _⟩ := exists_ofDeclarations spelled
    rw [failed] at declared
    cases declared
  · obtain ⟨other, first⟩ := exists_firstUnknown spelled
    rw [ofDeclarations_of_firstUnknown first, Except.error.injEq] at failed
    exact failed ▸ first

/-- A type given directly is the one that its word stands for, whatever table
there is. -/
theorem typeOfReference_direct
    (domains : Domains) (word : String) (answer : Except TypeFault WireType) :
    domains.typeOfReference (.direct word) = answer ↔
      (∃ kind, answer = .ok kind ∧ kind.spelling = word) ∨
        ¬ Spelled word ∧ answer = .error (.unknownType word) := by
  rw [typeOfReference]
  by_cases spelled : Spelled word
  · obtain ⟨kind, rfl⟩ := spelled
    have known : Spelled kind.spelling := ⟨kind, rfl⟩
    rw [ofWord_spelling]
    constructor
    · rintro rfl
      exact .inl ⟨kind, rfl, rfl⟩
    · rintro (⟨other, rfl, same⟩ | ⟨unknown, _⟩)
      · rw [spelling_injective same]
      · exact absurd known unknown
  · rw [ofWord_of_not_spelled spelled]
    constructor
    · rintro rfl
      exact .inr ⟨spelled, rfl⟩
    · rintro (⟨kind, _, rfl⟩ | ⟨_, rfl⟩)
      · exact absurd ⟨kind, rfl⟩ spelled
      · rfl

/-- A list of declarations gives a table exactly if all its words stand for
types, and fails with the first that does not.  The table lists the aliases in
the order in which each was declared first, and the last declaration of an alias
is the one that counts.  A type given directly is not looked up. -/
theorem ofDeclarations_decides (declarations : List (String × String)) :
    ((∃ fault, (ofDeclarations declarations).outcome = .error fault) ↔
        ∃ entry ∈ declarations, ¬ Spelled entry.2) ∧
      (∀ fault,
        (ofDeclarations declarations).outcome = .error fault ↔
          FirstUnknown declarations fault) ∧
      (∀ domains,
        (ofDeclarations declarations).outcome = .ok domains ↔
          LastWins declarations domains) ∧
      (∀ domains,
        (ofDeclarations declarations).outcome = .ok domains →
          ∀ domain,
            (∀ kind,
              domains.typeOfReference (.domain domain) = .ok kind ↔
                LastDeclared declarations domain kind.spelling) ∧
              ∀ fault,
                domains.typeOfReference (.domain domain) = .error fault ↔
                  domain ∉ declarations.map Prod.fst ∧
                    fault = .unknownDomain domain none) ∧
      ∀ (domains : Domains) (word : String) (answer : Except TypeFault WireType),
        domains.typeOfReference (.direct word) = answer ↔
          (∃ kind, answer = .ok kind ∧ kind.spelling = word) ∨
            ¬ Spelled word ∧ answer = .error (.unknownType word) := by
  refine ⟨?_, fun _ => ofDeclarations_eq_error_iff, fun _ => ofDeclarations_eq_ok_iff,
    fun domains declared domain => ?_, typeOfReference_direct⟩
  · simp only [ofDeclarations_eq_error_iff]
    constructor
    · rintro ⟨fault, first⟩
      simpa using first.not_spelled
    · intro unknown
      exact exists_firstUnknown (by simpa using unknown)
  · have table := ofDeclarations_eq_ok_iff.mp declared
    exact ⟨fun _ => table.typeOf_eq_ok_iff, fun _ => table.typeOf_eq_error_iff⟩

/-- Declarations in which two aliases are declared anew, one of them by the name
of a type. -/
def redeclared : List (String × String) :=
  [("octet", "bit"), ("ticket", "long"), ("octet", "longstr"), ("path", "table"),
    ("ticket", "short")]

theorem ofDeclarations_decides_redeclared :
    ∃ domains : Domains,
      (ofDeclarations redeclared).outcome = .ok domains ∧
        domains.entries =
          [("octet", .longString), ("ticket", .short), ("path", .table)] ∧
        domains.typeOfReference (.domain "ticket") = .ok .short ∧
        domains.typeOfReference (.domain "tickets") =
          .error (.unknownDomain "tickets" none) ∧
        domains.typeOfReference (.domain "octet") = .ok .longString ∧
        domains.typeOfReference (.direct "octet") = .ok .octet := by
  have declared :
      (ofDeclarations redeclared).outcome =
        .ok ⟨[("octet", .longString), ("ticket", .short), ("path", .table)]⟩ := by
    decide +kernel
  obtain ⟨_, _, _, found, direct⟩ := ofDeclarations_decides redeclared
  have lookup := found _ declared
  refine ⟨_, declared, rfl, ((lookup "ticket").1 .short).mpr ?_,
    ((lookup "tickets").2 _).mpr ⟨by decide, rfl⟩,
    ((lookup "octet").1 .longString).mpr ?_,
    (direct _ "octet" _).mpr (.inl ⟨.octet, rfl, rfl⟩)⟩
  · exact ⟨redeclared.take 4, [], rfl, by decide⟩
  · exact ⟨redeclared.take 2, redeclared.drop 3, rfl, by decide⟩

end Domains

end MethodCodec
