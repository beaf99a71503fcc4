import Mathlib
import MethodCodec.Proofs.Structure
import MethodCodec.Protocol.Resolve

/-!
# From a document to a protocol

Which documents give a protocol, which protocol they give, and by which fault
the others are refused.  The stages are tried in turn: the structural rules,
the domains, the arguments, the identifiers.
-/

namespace MethodCodec

/-! ## Outcomes of computations with events -/

namespace Traced

variable {ε α β : Type}

theorem outcome_andThen (run : Traced ε α) (next : α → Traced ε β) :
    (run.andThen next).outcome =
      run.outcome.bind fun value => (next value).outcome := by
  rw [andThen]
  cases run.outcome <;> rfl

end Traced

/-! ## Words for types -/

namespace WireType

/-- A word that stands for a type. -/
def Spelled (word : String) : Prop :=
  ∃ kind : WireType, kind.spelling = word

@[simp]
theorem ofWord_spelling (kind : WireType) :
    ofWord kind.spelling = .ok kind := by
  rw [ofWord, ofSpelling?_spelling]

theorem ofWord_eq_ok_iff {word : String} {kind : WireType} :
    ofWord word = .ok kind ↔ kind.spelling = word := by
  constructor
  · intro found
    rw [ofWord] at found
    cases search : ofSpelling? word with
    | none =>
        rw [search] at found
        cases found
    | some other =>
        rw [search] at found
        cases found
        simpa using List.find?_some search
  · rintro rfl
    exact ofWord_spelling kind

theorem ofWord_of_not_spelled {word : String} (unknown : ¬ Spelled word) :
    ofWord word = .error (.unknownType word) := by
  cases found : ofWord word with
  | ok kind =>
      exact absurd ⟨kind, ofWord_eq_ok_iff.mp found⟩ unknown
  | error fault =>
      rw [ofWord] at found
      cases search : ofSpelling? word with
      | none =>
          rw [search] at found
          exact found.symm
      | some kind =>
          rw [search] at found
          cases found

end WireType

open WireType

/-! ## The table of domains -/

/-- A declared domain with its type in place of the word for it. -/
def Declared (entry : String × String) (resolved : String × WireType) : Prop :=
  resolved.1 = entry.1 ∧ resolved.2.spelling = entry.2

theorem declared_rightUnique : Relator.RightUnique Declared := by
  rintro _ ⟨_, left⟩ ⟨_, right⟩ ⟨rfl, word⟩ ⟨rfl, otherWord⟩
  exact congrArg (Prod.mk _) (spelling_injective (word.trans otherWord.symm))

namespace Domains

variable {declarations : List (String × String)} {domain : String}

theorem insertInto_of_not_mem
    {entries : List (String × WireType)}
    (new : domain ∉ entries.map Prod.fst) (kind : WireType) :
    insertInto domain kind entries = entries ++ [(domain, kind)] := by
  induction entries with
  | nil =>
      rfl
  | cons entry entries inductionHypothesis =>
      rw [List.map_cons, List.mem_cons, not_or] at new
      obtain ⟨apart, later⟩ := new
      rw [insertInto, if_neg (Ne.symm apart), inductionHypothesis later]
      rfl

theorem outcome_declare_cons (domains : Domains) (entry : String × String) :
    (domains.declare (entry :: declarations)).outcome =
      (ofWord entry.2).bind fun kind =>
        ((domains.insert entry.1 kind).declare declarations).outcome := by
  rw [declare, Traced.outcome_andThen, Traced.ofExcept]
  cases ofWord entry.2 with
  | error fault =>
      rfl
  | ok kind =>
      exact Traced.outcome_andThen _ _

/-- Distinct aliases whose words all stand for types are listed behind those
that are there. -/
theorem outcome_declare_of_spelled
    (spelled : ∀ entry ∈ declarations, Spelled entry.2) :
    ∀ domains : Domains,
      (domains.entries.map Prod.fst ++ declarations.map Prod.fst).Nodup →
      ∃ entries,
        (domains.declare declarations).outcome =
            .ok ⟨domains.entries ++ entries⟩ ∧
          List.Forall₂ Declared declarations entries := by
  induction declarations with
  | nil =>
      intro domains _
      exact ⟨[], by rw [List.append_nil]; rfl, .nil⟩
  | cons entry declarations inductionHypothesis =>
      intro domains nodup
      obtain ⟨⟨kind, word⟩, later⟩ := List.forall_mem_cons.mp spelled
      have new : entry.1 ∉ domains.entries.map Prod.fst := by
        intro member
        exact List.disjoint_of_nodup_append nodup member (by simp)
      have inserted :
          domains.insert entry.1 kind =
            ⟨domains.entries ++ [(entry.1, kind)]⟩ := by
        rw [insert, insertInto_of_not_mem new]
      obtain ⟨entries, declared, paired⟩ :=
        inductionHypothesis later ⟨domains.entries ++ [(entry.1, kind)]⟩
          (by simpa using nodup)
      refine ⟨(entry.1, kind) :: entries, ?_, .cons ⟨rfl, word⟩ paired⟩
      rw [outcome_declare_cons, ← word, ofWord_spelling]
      refine (congrArg
        (fun domains : Domains => (domains.declare declarations).outcome)
        inserted).trans (declared.trans ?_)
      rw [List.append_assoc]
      rfl

/-- The first word that stands for no type ends the table. -/
theorem outcome_declare_of_preceded
    {word : String}
    (first :
      Preceded (fun entry => Spelled entry.2) declarations (domain, word))
    (unknown : ¬ Spelled word) (domains : Domains) :
    (domains.declare declarations).outcome = .error (.unknownType word) := by
  obtain ⟨before, after, rfl, earlier⟩ := first
  induction before generalizing domains with
  | nil =>
      rw [List.nil_append, outcome_declare_cons, ofWord_of_not_spelled unknown]
      rfl
  | cons entry before inductionHypothesis =>
      obtain ⟨⟨kind, spelled⟩, earlier⟩ := List.forall_mem_cons.mp earlier
      rw [List.cons_append, outcome_declare_cons, ← spelled, ofWord_spelling]
      exact inductionHypothesis _ earlier

/-- In the table of distinct aliases a type is found exactly where the word
for it is declared. -/
theorem lookup_eq_some_iff
    {entries : List (String × WireType)}
    (paired : List.Forall₂ Declared declarations entries)
    (aliases : (declarations.map Prod.fst).Nodup) {kind : WireType} :
    entries.lookup domain = some kind ↔
      (domain, kind.spelling) ∈ declarations := by
  induction paired with
  | nil =>
      simp
  | @cons entry resolved declarations entries declared _ inductionHypothesis =>
      obtain ⟨name, word⟩ := entry
      obtain ⟨resolvedName, resolvedKind⟩ := resolved
      obtain ⟨rfl, rfl⟩ := declared
      obtain ⟨apart, aliases⟩ := List.nodup_cons.mp aliases
      rw [List.lookup_cons, List.mem_cons, Prod.mk.injEq]
      by_cases same : domain = resolvedName
      · -- The alias is not declared again, so no later word can be meant.
        subst same
        have only : (domain, kind.spelling) ∉ declarations := fun member =>
          apart (List.mem_map.mpr ⟨_, member, rfl⟩)
        simp only [BEq.rfl, Option.some.injEq, true_and, only, or_false]
        exact ⟨fun equality => by rw [equality],
          fun equality => (spelling_injective equality).symm⟩
      · have apart : (domain == resolvedName) = false := by simpa using same
        simp only [apart, same, false_and, false_or]
        exact inductionHypothesis aliases

end Domains

/-- The table that a document with distinct aliases declares. -/
structure Spec.Tabulates (spec : Spec) (domains : Domains) : Prop where
  aliases : (spec.domains.map Prod.fst).Nodup
  paired : List.Forall₂ Declared spec.domains domains.entries

namespace Spec

variable {spec : Spec} {domains : Domains} {cls : ClassSpec}
  {method : MethodSpec} {argument : ArgumentSpec}

theorem Tabulates.typeOf_eq_ok_iff
    (table : spec.Tabulates domains) {domain : String} {kind : WireType} :
    domains.typeOf domain = .ok kind ↔
      (domain, kind.spelling) ∈ spec.domains := by
  rw [← Domains.lookup_eq_some_iff table.paired table.aliases,
    Domains.typeOf]
  cases domains.entries.lookup domain <;> simp

theorem Tabulates.typeOf_of_not_mem
    (table : spec.Tabulates domains) {domain : String}
    (undeclared : domain ∉ spec.domains.map Prod.fst) :
    domains.typeOf domain = .error (.unknownDomain domain none) := by
  cases found : domains.entries.lookup domain with
  | none =>
      rw [Domains.typeOf, found]
  | some kind =>
      have declared :=
        (Domains.lookup_eq_some_iff table.paired table.aliases).mp found
      exact absurd (List.mem_map.mpr ⟨_, declared, rfl⟩) undeclared

/-! ## Arguments -/

/-- The type that an argument says, by a word of its own or through a
domain. -/
inductive HasType (spec : Spec) (argument : ArgumentSpec)
    (kind : WireType) : Prop
  | direct (type : argument.type = some kind.spelling)
      (noDomain : argument.domain = none)
  | named (noType : argument.type = none) {domain : String}
      (name : argument.domain = some domain)
      (declared : (domain, kind.spelling) ∈ spec.domains)

/-- An argument whose word stands for a type, or whose domain is declared. -/
def Known (spec : Spec) (argument : ArgumentSpec) : Prop :=
  (∀ word, argument.type = some word → Spelled word) ∧
    ∀ domain, argument.domain = some domain →
      domain ∈ spec.domains.map Prod.fst

/-- Why an argument has no type: its word stands for none, or its domain is
not declared. -/
inductive Lacks (spec : Spec) (cls : ClassSpec) (method : MethodSpec)
    (argument : ArgumentSpec) : TypeFault → Prop
  | word {word : String} (type : argument.type = some word)
      (noDomain : argument.domain = none) (unknown : ¬ Spelled word) :
      Lacks spec cls method argument (.unknownType word)
  | domain {domain : String} (noType : argument.type = none)
      (name : argument.domain = some domain)
      (undeclared : domain ∉ spec.domains.map Prod.fst) :
      Lacks spec cls method argument
        (.unknownDomain domain
          (some
            { argument := argument.name
              className := cls.name
              methodName := method.name }))

/-- A field with the name and the type of an argument. -/
structure ResolvesArgument (spec : Spec) (argument : ArgumentSpec)
    (field : Field) : Prop where
  name : field.name = Name.ofText argument.name
  type : spec.HasType argument field.type
  domain : field.domain = argument.domain

/-- A clear argument says its type in one of two ways. -/
theorem clear_cases (clear : argument.Clear) :
    (∃ word, argument.type = some word ∧ argument.domain = none) ∨
      ∃ domain, argument.type = none ∧ argument.domain = some domain := by
  rw [ArgumentSpec.Clear] at clear
  cases type : argument.type with
  | none =>
      cases domain : argument.domain with
      | none =>
          rw [type, domain] at clear
          exact absurd rfl clear
      | some name =>
          exact .inr ⟨name, rfl, rfl⟩
  | some word =>
      cases domain : argument.domain with
      | none =>
          exact .inl ⟨word, rfl, rfl⟩
      | some domain =>
          rw [type, domain] at clear
          exact absurd rfl clear

theorem exists_hasType
    (typed : ∀ entry ∈ spec.domains, Spelled entry.2)
    (clear : argument.Clear) (known : spec.Known argument) :
    ∃ kind, spec.HasType argument kind := by
  obtain ⟨word, type, noDomain⟩ | ⟨domain, noType, name⟩ :=
    clear_cases clear
  · obtain ⟨kind, rfl⟩ := known.1 word type
    exact ⟨kind, .direct type noDomain⟩
  · obtain ⟨⟨_, word⟩, declared, rfl⟩ :=
      List.mem_map.mp (known.2 domain name)
    obtain ⟨kind, rfl⟩ := typed _ declared
    exact ⟨kind, .named noType name declared⟩

theorem exists_lacks
    (clear : argument.Clear) (unknown : ¬ spec.Known argument)
    (cls : ClassSpec) (method : MethodSpec) :
    ∃ fault, spec.Lacks cls method argument fault := by
  obtain ⟨word, type, noDomain⟩ | ⟨domain, noType, name⟩ :=
    clear_cases clear
  · refine ⟨_, .word type noDomain fun spelled => unknown ⟨?_, ?_⟩⟩
    · intro other said
      rw [type, Option.some.injEq] at said
      exact said ▸ spelled
    · intro other said
      rw [noDomain] at said
      cases said
  · refine ⟨_, .domain noType name fun declared => unknown ⟨?_, ?_⟩⟩
    · intro other said
      rw [noType] at said
      cases said
    · intro other said
      rw [name, Option.some.injEq] at said
      exact said ▸ declared

theorem reference_typed_iff
    (table : spec.Tabulates domains) {kind : WireType} :
    (∃ reference, argument.reference? = some reference ∧
        domains.typeOfReference reference = .ok kind) ↔
      spec.HasType argument kind := by
  constructor
  · rintro ⟨reference, said, typed⟩
    rw [ArgumentSpec.reference?] at said
    split at said
    next word type noDomain =>
      cases said
      exact .direct (ofWord_eq_ok_iff.mp typed ▸ type) noDomain
    next domain noType name =>
      cases said
      exact .named noType name (table.typeOf_eq_ok_iff.mp typed)
    next =>
      cases said
  · intro typed
    cases typed with
    | direct type noDomain =>
        exact ⟨.direct kind.spelling,
          by rw [ArgumentSpec.reference?, type, noDomain],
          ofWord_spelling kind⟩
    | @named noType domain name declared =>
        exact ⟨.domain domain,
          by rw [ArgumentSpec.reference?, noType, name],
          table.typeOf_eq_ok_iff.mpr declared⟩

theorem resolveArgument_eq_ok_iff
    (table : spec.Tabulates domains) {className methodName : String}
    {field : Field} :
    resolveArgument domains className methodName argument = .ok field ↔
      spec.ResolvesArgument argument field := by
  constructor
  · intro resolved
    rw [resolveArgument] at resolved
    cases said : argument.reference? with
    | none =>
        rw [said] at resolved
        cases resolved
    | some reference =>
        rw [said] at resolved
        cases typed : domains.typeOfReference reference with
        | error fault =>
            simp only [typed] at resolved
            cases resolved
        | ok kind =>
            simp only [typed] at resolved
            cases resolved
            exact ⟨rfl, (reference_typed_iff table).mp
              ⟨reference, said, typed⟩, rfl⟩
  · rintro ⟨name, type, domain⟩
    obtain ⟨reference, said, typed⟩ := (reference_typed_iff table).mpr type
    cases field
    subst name domain
    rw [resolveArgument, said]
    simp only [typed]

theorem resolveArgument_of_lacks
    (table : spec.Tabulates domains) {fault : TypeFault}
    (lacks : spec.Lacks cls method argument fault) :
    resolveArgument domains cls.name method.name argument =
      .error (.unresolved fault) := by
  cases lacks with
  | @word word type noDomain unknown =>
      have said : argument.reference? = some (.direct word) := by
        rw [ArgumentSpec.reference?, type, noDomain]
      have missing := ofWord_of_not_spelled unknown
      simp only [resolveArgument, said, Domains.typeOfReference, missing,
        TypeFault.locate]
  | @domain domain noType name undeclared =>
      have said : argument.reference? = some (.domain domain) := by
        rw [ArgumentSpec.reference?, noType, name]
      have missing := table.typeOf_of_not_mem undeclared
      simp only [resolveArgument, said, Domains.typeOfReference, missing,
        TypeFault.locate]

/-! ## Methods and classes -/

/-- A method with the ids, the names and the arguments of its declaration, the
arguments in order and laid out by their types.  A layout is not stored in a method
but made from its fields wherever it is asked for, so the last part holds of every
method. -/
structure ResolvesMethod (spec : Spec) (cls : ClassSpec) (method : MethodSpec)
    (resolved : Method) : Prop where
  id : resolved.id = method.id
  classId : resolved.classId = cls.id
  name : resolved.name = Name.ofText method.name
  qualifiedName : resolved.qualifiedName = cls.name ++ "." ++ method.name
  synchronous : resolved.synchronous = method.synchronous.getD false
  fields : List.Forall₂ spec.ResolvesArgument method.arguments resolved.fields
  layout : resolved.layout = Layout.segments (resolved.fields.map Field.type)

/-- A class with the id, the name and the methods of its declaration, the
methods in order. -/
structure ResolvesClass (spec : Spec) (cls : ClassSpec)
    (resolved : ProtocolClass) : Prop where
  id : resolved.id = cls.id
  name : resolved.name = Name.ofText cls.name
  methods : List.Forall₂ (spec.ResolvesMethod cls) cls.methods resolved.methods

theorem outcome_resolveMethod (domains : Domains) (cls : ClassSpec)
    (method : MethodSpec) :
    (resolveMethod domains cls method).outcome =
      (method.arguments.mapM
          (resolveArgument domains cls.name method.name)).map fun fields =>
        { id := method.id
          classId := cls.id
          name := Name.ofText method.name
          qualifiedName := cls.name ++ "." ++ method.name
          synchronous := method.synchronous.getD false
          fields } := by
  rw [resolveMethod, Traced.outcome_andThen, Traced.ofExcept]
  cases method.arguments.mapM
    (resolveArgument domains cls.name method.name) <;> rfl

theorem outcome_resolveMethods (domains : Domains) (cls : ClassSpec)
    (methods : List MethodSpec) :
    (resolveMethods domains cls methods).outcome =
      methods.mapM fun method => (resolveMethod domains cls method).outcome := by
  induction methods with
  | nil =>
      rfl
  | cons method methods inductionHypothesis =>
      rw [resolveMethods, Traced.outcome_andThen, List.mapM_cons]
      cases (resolveMethod domains cls method).outcome with
      | error fault =>
          rfl
      | ok first =>
          simp only [Except.bind, Traced.outcome_andThen, inductionHypothesis]
          rfl

@[simp]
theorem outcome_noteEmpty (cls : ClassSpec) :
    (noteEmpty cls).outcome = .ok () := by
  rw [noteEmpty]
  split_ifs <;> rfl

theorem outcome_resolveClass (domains : Domains) (cls : ClassSpec) :
    (resolveClass domains cls).outcome =
      (cls.methods.mapM fun method =>
          (resolveMethod domains cls method).outcome).map fun methods =>
        { id := cls.id, name := Name.ofText cls.name, methods } := by
  rw [← outcome_resolveMethods, resolveClass, Traced.outcome_andThen]
  refine (Traced.outcome_andThen _ _).trans ?_
  rw [outcome_noteEmpty]
  refine (Traced.outcome_andThen _ _).trans ?_
  cases (resolveMethods domains cls cls.methods).outcome <;> rfl

theorem outcome_resolveClasses (domains : Domains)
    (classes : List ClassSpec) :
    (resolveClasses domains classes).outcome =
      classes.mapM fun cls => (resolveClass domains cls).outcome := by
  induction classes with
  | nil =>
      rfl
  | cons cls classes inductionHypothesis =>
      rw [resolveClasses, Traced.outcome_andThen, List.mapM_cons]
      cases (resolveClass domains cls).outcome with
      | error fault =>
          rfl
      | ok first =>
          simp only [Except.bind, Traced.outcome_andThen, inductionHypothesis]
          rfl

theorem resolveMethod_eq_ok_iff
    (table : spec.Tabulates domains) {resolved : Method} :
    (resolveMethod domains cls method).outcome = .ok resolved ↔
      spec.ResolvesMethod cls method resolved := by
  have fields_iff (fields : List Field) :
      method.arguments.mapM (resolveArgument domains cls.name method.name) =
          .ok fields ↔
        List.Forall₂ spec.ResolvesArgument method.arguments fields := by
    simp only [mapM_eq_ok_iff, resolveArgument_eq_ok_iff table]
  rw [outcome_resolveMethod]
  constructor
  · intro passed
    obtain ⟨fields, arguments, rfl⟩ := map_eq_ok_iff.mp passed
    exact ⟨rfl, rfl, rfl, rfl, rfl, (fields_iff fields).mp arguments, rfl⟩
  · rintro ⟨id, classId, name, qualifiedName, synchronous, fields, _⟩
    rw [(fields_iff _).mpr fields]
    cases resolved
    subst id classId name qualifiedName synchronous
    rfl

theorem resolveClass_eq_ok_iff
    (table : spec.Tabulates domains) {resolved : ProtocolClass} :
    (resolveClass domains cls).outcome = .ok resolved ↔
      spec.ResolvesClass cls resolved := by
  have methods_iff (methods : List Method) :
      (cls.methods.mapM fun method =>
          (resolveMethod domains cls method).outcome) = .ok methods ↔
        List.Forall₂ (spec.ResolvesMethod cls) cls.methods methods := by
    simp only [mapM_eq_ok_iff, resolveMethod_eq_ok_iff table]
  rw [outcome_resolveClass]
  constructor
  · intro passed
    obtain ⟨methods, resolved, rfl⟩ := map_eq_ok_iff.mp passed
    exact ⟨rfl, rfl, (methods_iff methods).mp resolved⟩
  · rintro ⟨id, name, methods⟩
    rw [(methods_iff _).mpr methods]
    cases resolved
    subst id name
    rfl

theorem resolveClasses_eq_ok_iff
    (table : spec.Tabulates domains) {classes : List ClassSpec}
    {resolved : List ProtocolClass} :
    (resolveClasses domains classes).outcome = .ok resolved ↔
      List.Forall₂ spec.ResolvesClass classes resolved := by
  simp only [outcome_resolveClasses, mapM_eq_ok_iff,
    resolveClass_eq_ok_iff table]

/-! ## Arguments without a type -/

/-- A method all of whose arguments have a type that can be found. -/
def KnownMethod (spec : Spec) (method : MethodSpec) : Prop :=
  ∀ argument ∈ method.arguments, spec.Known argument

/-- A class all of whose methods are such. -/
def KnownClass (spec : Spec) (cls : ClassSpec) : Prop :=
  ∀ method ∈ cls.methods, spec.KnownMethod method

/-- The fault of the first argument without a type, class by class, method by
method, argument by argument. -/
def FirstLacks (spec : Spec) (fault : TypeFault) : Prop :=
  ∃ cls method argument,
    Preceded spec.KnownClass spec.classes cls ∧
      Preceded spec.KnownMethod cls.methods method ∧
      Preceded spec.Known method.arguments argument ∧
      spec.Lacks cls method argument fault

section

variable (table : spec.Tabulates domains) (wellFormed : spec.WellFormed)
  (typed : ∀ entry ∈ spec.domains, Spelled entry.2)

include table typed in
theorem exists_resolveArgument
    (clear : argument.Clear) (known : spec.Known argument)
    (className methodName : String) :
    ∃ field,
      resolveArgument domains className methodName argument = .ok field := by
  obtain ⟨kind, type⟩ := exists_hasType typed clear known
  exact ⟨⟨Name.ofText argument.name, kind, argument.domain⟩,
    (resolveArgument_eq_ok_iff table).mpr ⟨rfl, type, rfl⟩⟩

include table typed in
theorem exists_resolveMethod
    (cls : ClassSpec) (clear : ∀ argument ∈ method.arguments, argument.Clear)
    (known : spec.KnownMethod method) :
    ∃ resolved, (resolveMethod domains cls method).outcome = .ok resolved := by
  obtain ⟨fields, passed⟩ :=
    exists_mapM_eq_ok fun argument member =>
      exists_resolveArgument table typed (clear argument member)
        (known argument member) cls.name method.name
  exact ⟨_, by rw [outcome_resolveMethod, passed]; rfl⟩

include table typed in
theorem exists_resolveClass
    (clear : ∀ method ∈ cls.methods, ∀ argument ∈ method.arguments,
      argument.Clear)
    (known : spec.KnownClass cls) :
    ∃ resolved, (resolveClass domains cls).outcome = .ok resolved := by
  obtain ⟨methods, passed⟩ :=
    exists_mapM_eq_ok fun method member =>
      exists_resolveMethod table typed cls (clear method member)
        (known method member)
  exact ⟨_, by rw [outcome_resolveClass, passed]; rfl⟩

include table wellFormed typed in
theorem exists_resolveClasses
    (known : ∀ cls ∈ spec.classes, spec.KnownClass cls) :
    ∃ resolved,
      (resolveClasses domains spec.classes).outcome = .ok resolved := by
  rw [outcome_resolveClasses]
  exact exists_mapM_eq_ok fun cls member =>
    exists_resolveClass table typed (wellFormed.clear cls member)
      (known cls member)

include table wellFormed typed in
/-- The first argument without a type ends the run. -/
theorem resolveClasses_of_firstLacks
    {fault : TypeFault} (lacks : spec.FirstLacks fault) :
    (resolveClasses domains spec.classes).outcome =
      .error (.unresolved fault) := by
  obtain ⟨cls, method, argument, firstClass, firstMethod, firstArgument,
    lacks⟩ := lacks
  have clear := wellFormed.clear cls firstClass.mem
  have clearHere := clear method firstMethod.mem
  -- The fault goes from the argument to its method, and from there to its class.
  have refusedMethod :
      (resolveMethod domains cls method).outcome =
        .error (.unresolved fault) := by
    rw [outcome_resolveMethod,
      mapM_eq_error_of_preceded (firstArgument.imp fun other member known =>
          exists_resolveArgument table typed (clearHere other member) known
            cls.name method.name)
        (resolveArgument_of_lacks table lacks)]
    rfl
  have refusedClass :
      (resolveClass domains cls).outcome = .error (.unresolved fault) := by
    rw [outcome_resolveClass,
      mapM_eq_error_of_preceded (firstMethod.imp fun other member known =>
          exists_resolveMethod table typed cls (clear other member) known)
        refusedMethod]
    rfl
  rw [outcome_resolveClasses]
  exact mapM_eq_error_of_preceded
    (firstClass.imp fun other member known =>
      exists_resolveClass table typed (wellFormed.clear other member) known)
    refusedClass

include wellFormed in
/-- Unless all arguments have a type, there is a first without one. -/
theorem exists_firstLacks
    (unknown : ¬ ∀ cls ∈ spec.classes, spec.KnownClass cls) :
    ∃ fault, spec.FirstLacks fault := by
  obtain ⟨cls, firstClass, unknownClass⟩ := exists_preceded unknown
  obtain ⟨method, firstMethod, unknownMethod⟩ := exists_preceded unknownClass
  obtain ⟨argument, firstArgument, unknownArgument⟩ :=
    exists_preceded unknownMethod
  have clear := wellFormed.clear cls firstClass.mem method firstMethod.mem
    argument firstArgument.mem
  obtain ⟨fault, lacks⟩ := exists_lacks clear unknownArgument cls method
  exact ⟨fault, cls, method, argument, firstClass, firstMethod,
    firstArgument, lacks⟩

end

/-! ## Protocols -/

/-- The protocol of a document, up to the check of its identifiers: its domains
with their types, and its classes, in the order of declaration. -/
structure Resolves (spec : Spec) (protocol : Protocol) : Prop where
  info : protocol.info = ⟨spec.name, spec.version?, spec.tcpPort⟩
  domains : List.Forall₂ Declared spec.domains protocol.domains
  classes : List.Forall₂ spec.ResolvesClass spec.classes protocol.classes

theorem Resolves.moduleNames
    {protocol : Protocol} (resolves : spec.Resolves protocol) :
    (protocol.classes.map fun cls => cls.name.snake) =
      spec.classes.map fun cls => Name.snakeCase cls.name := by
  apply map_eq_map_of_forall₂ resolves.classes
  intro cls resolved resolvesClass
  rw [resolvesClass.name]
  rfl

theorem ResolvesClass.structNames
    {resolved : ProtocolClass} (resolvesClass : spec.ResolvesClass cls resolved) :
    (resolved.methods.map fun method => method.name.pascal) =
      cls.methods.map fun method => Name.pascalCase method.name := by
  apply map_eq_map_of_forall₂ resolvesClass.methods
  intro method resolved resolvesMethod
  rw [resolvesMethod.name]
  rfl

/-- How the resolution of a document ends. -/
inductive Verdict (spec : Spec) : Except ResolutionFault Protocol → Prop
  /-- A structural rule is broken. -/
  | violates {violation : Violation} (illFormed : ¬ spec.WellFormed)
      (found : spec.violation? = some violation) :
      Verdict spec (.error (.violates violation))
  /-- The first word of a domain that stands for no type, whether or not an
  argument uses the domain. -/
  | badDomain {domain word : String} (wellFormed : spec.WellFormed)
      (first :
        Preceded (fun entry => Spelled entry.2) spec.domains (domain, word))
      (unknown : ¬ Spelled word) :
      Verdict spec (.error (.unresolved (.unknownType word)))
  /-- The first argument without a type. -/
  | badArgument {fault : TypeFault} (wellFormed : spec.WellFormed)
      (typed : ∀ entry ∈ spec.domains, Spelled entry.2)
      (lacks : spec.FirstLacks fault) :
      Verdict spec (.error (.unresolved fault))
  /-- Two identifiers meet. -/
  | collides {protocol : Protocol} {collision : Collision}
      (wellFormed : spec.WellFormed)
      (typed : ∀ entry ∈ spec.domains, Spelled entry.2)
      (known : ∀ cls ∈ spec.classes, spec.KnownClass cls)
      (resolves : spec.Resolves protocol)
      (found : protocol.collision? = some collision) :
      Verdict spec (.error (.collides collision))
  | accepted {protocol : Protocol} (wellFormed : spec.WellFormed)
      (typed : ∀ entry ∈ spec.domains, Spelled entry.2)
      (known : ∀ cls ∈ spec.classes, spec.KnownClass cls)
      (resolves : spec.Resolves protocol)
      (apart : protocol.collision? = none) :
      Verdict spec (.ok protocol)

/-- The protocol made of resolved parts. -/
def assemble (spec : Spec) (domains : Domains)
    (classes : List ProtocolClass) : Protocol where
  info := ⟨spec.name, spec.version?, spec.tcpPort⟩
  domains := domains.entries
  classes := classes

theorem outcome_resolve_of_violation
    {violation : Violation} (found : spec.violation? = some violation) :
    spec.resolve.outcome = .error (.violates violation) := by
  rw [resolve, found]
  rfl

theorem outcome_resolve (wellFormed : spec.WellFormed) :
    spec.resolve.outcome =
      ((Domains.ofDeclarations spec.domains).outcome.mapError
          ResolutionFault.unresolved).bind fun domains =>
        (resolveClasses domains spec.classes).outcome.bind fun classes =>
          match (spec.assemble domains classes).collision? with
          | some collision => .error (.collides collision)
          | none => .ok (spec.assemble domains classes) := by
  rw [resolve, violation?_eq_none_iff.mpr wellFormed]
  refine (Traced.outcome_andThen _ _).trans ?_
  refine (Traced.outcome_andThen _ _).trans ?_
  refine congrArg (Except.bind _) (funext fun domains => ?_)
  refine (Traced.outcome_andThen _ _).trans ?_
  refine congrArg (Except.bind _) (funext fun classes => ?_)
  refine (Traced.outcome_andThen _ _).trans ?_
  change (refuse ((spec.assemble domains classes).collision?.map _)).outcome.bind
    _ = _
  cases (spec.assemble domains classes).collision? <;> rfl

theorem exists_tabulates
    (wellFormed : spec.WellFormed)
    (typed : ∀ entry ∈ spec.domains, Spelled entry.2) :
    ∃ domains,
      (Domains.ofDeclarations spec.domains).outcome = .ok domains ∧
        spec.Tabulates domains := by
  have aliases := wellFormed.aliases
  obtain ⟨entries, declared, paired⟩ :=
    Domains.outcome_declare_of_spelled typed Domains.empty
      (by simpa [Domains.empty] using aliases)
  exact ⟨⟨entries⟩, declared, aliases, paired⟩

/-- A table of domains and classes resolved by it make a protocol of the
document. -/
theorem Tabulates.resolves_assemble
    (table : spec.Tabulates domains) {classes : List ProtocolClass}
    (resolved : (resolveClasses domains spec.classes).outcome = .ok classes) :
    spec.Resolves (spec.assemble domains classes) :=
  ⟨rfl, table.paired, (resolveClasses_eq_ok_iff table).mp resolved⟩

/-- A document resolves to one protocol only. -/
theorem Tabulates.eq_assemble
    (table : spec.Tabulates domains) {classes : List ProtocolClass}
    (resolved : (resolveClasses domains spec.classes).outcome = .ok classes)
    {protocol : Protocol} (resolves : spec.Resolves protocol) :
    protocol = spec.assemble domains classes := by
  have entries : protocol.domains = domains.entries :=
    List.right_unique_forall₂' declared_rightUnique resolves.domains
      table.paired
  have same := (resolveClasses_eq_ok_iff table).mpr resolves.classes
  rw [resolved, Except.ok.injEq] at same
  cases protocol
  cases resolves.info
  cases entries
  cases same
  rfl

/-- With all types known, only the check of the identifiers is left. -/
theorem outcome_resolve_of_known
    (wellFormed : spec.WellFormed)
    (typed : ∀ entry ∈ spec.domains, Spelled entry.2)
    (known : ∀ cls ∈ spec.classes, spec.KnownClass cls)
    {protocol : Protocol} (resolves : spec.Resolves protocol) :
    spec.resolve.outcome =
      match protocol.collision? with
      | some collision => .error (.collides collision)
      | none => .ok protocol := by
  obtain ⟨domains, declared, table⟩ := exists_tabulates wellFormed typed
  obtain ⟨classes, resolved⟩ :=
    exists_resolveClasses table wellFormed typed known
  rw [outcome_resolve wellFormed, declared,
    table.eq_assemble resolved resolves]
  change (resolveClasses domains spec.classes).outcome.bind _ = _
  rw [resolved]
  rfl

/-- The resolution of a document ends as its verdict says. -/
theorem outcome_of_verdict
    {outcome : Except ResolutionFault Protocol}
    (verdict : spec.Verdict outcome) :
    spec.resolve.outcome = outcome := by
  cases verdict with
  | violates _ found =>
      exact outcome_resolve_of_violation found
  | badDomain wellFormed first unknown =>
      rw [outcome_resolve wellFormed, Domains.ofDeclarations,
        Domains.outcome_declare_of_preceded first unknown]
      rfl
  | badArgument wellFormed typed lacks =>
      obtain ⟨domains, declared, table⟩ := exists_tabulates wellFormed typed
      rw [outcome_resolve wellFormed, declared]
      change (resolveClasses domains spec.classes).outcome.bind _ = _
      rw [resolveClasses_of_firstLacks table wellFormed typed lacks]
      rfl
  | collides wellFormed typed known resolves found =>
      rw [outcome_resolve_of_known wellFormed typed known resolves, found]
  | accepted wellFormed typed known resolves apart =>
      rw [outcome_resolve_of_known wellFormed typed known resolves, apart]

theorem exists_verdict (spec : Spec) :
    ∃ outcome, spec.Verdict outcome := by
  -- Each stage is looked at where all stages before it are right.
  by_cases wellFormed : spec.WellFormed
  case neg =>
    have found := mt violation?_eq_none_iff.mp wellFormed
    obtain ⟨violation, found⟩ := Option.ne_none_iff_exists'.mp found
    exact ⟨_, .violates wellFormed found⟩
  by_cases typed : ∀ entry ∈ spec.domains, Spelled entry.2
  case neg =>
    obtain ⟨⟨domain, word⟩, first, unknown⟩ := exists_preceded typed
    exact ⟨_, .badDomain wellFormed first unknown⟩
  by_cases known : ∀ cls ∈ spec.classes, spec.KnownClass cls
  case neg =>
    obtain ⟨fault, lacks⟩ := exists_firstLacks wellFormed known
    exact ⟨_, .badArgument wellFormed typed lacks⟩
  obtain ⟨domains, _, table⟩ := exists_tabulates wellFormed typed
  obtain ⟨classes, resolved⟩ :=
    exists_resolveClasses table wellFormed typed known
  have resolves := table.resolves_assemble resolved
  cases found : (spec.assemble domains classes).collision? with
  | some collision =>
      exact ⟨_, .collides wellFormed typed known resolves found⟩
  | none =>
      exact ⟨_, .accepted wellFormed typed known resolves found⟩

/-- The protocol that an accepted document gives. -/
theorem resolves_of_resolve
    {protocol : Protocol} (accepted : spec.resolve.outcome = .ok protocol) :
    spec.WellFormed ∧ spec.Resolves protocol ∧ protocol.collision? = none := by
  obtain ⟨outcome, verdict⟩ := exists_verdict spec
  rw [outcome_of_verdict verdict] at accepted
  subst accepted
  cases verdict with
  | accepted wellFormed _ _ resolves apart =>
      exact ⟨wellFormed, resolves, apart⟩

/-- Resolution ends by the verdict on the document, and in a protocol exactly
when the structure, the domains, the arguments and the identifiers are all
right. -/
theorem outcome_resolve_eq_iff (spec : Spec) :
    (∀ outcome, spec.resolve.outcome = outcome ↔ spec.Verdict outcome) ∧
      ((∃ protocol, spec.resolve.outcome = .ok protocol) ↔
        spec.WellFormed ∧
          (∀ entry ∈ spec.domains, Spelled entry.2) ∧
          (∀ cls ∈ spec.classes, spec.KnownClass cls) ∧
          ∃ protocol,
            spec.Resolves protocol ∧ protocol.collision? = none) := by
  have verdicts (outcome : Except ResolutionFault Protocol) :
      spec.resolve.outcome = outcome ↔ spec.Verdict outcome := by
    refine ⟨?_, outcome_of_verdict⟩
    rintro rfl
    obtain ⟨outcome, verdict⟩ := exists_verdict spec
    rwa [outcome_of_verdict verdict]
  refine ⟨verdicts, ?_⟩
  constructor
  · rintro ⟨protocol, accepted⟩
    cases (verdicts _).mp accepted with
    | accepted wellFormed typed known resolves apart =>
        exact ⟨wellFormed, typed, known, protocol, resolves, apart⟩
  · rintro ⟨wellFormed, typed, known, protocol, resolves, apart⟩
    exact ⟨protocol, outcome_of_verdict
      (.accepted wellFormed typed known resolves apart)⟩

end Spec

end MethodCodec
