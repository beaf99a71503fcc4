import Mathlib
import MethodCodec.Proofs.Resolution
import MethodCodec.Proofs.Unaliased

/-!
# Domains as abbreviations

Every reference to a domain may be replaced by the word that the table has for
it, and the table then by any other.  The document still gives the same
protocol, up to the note of the domain at each field, and with it the same codec
and the same source.
-/

namespace MethodCodec

open WireType

/-! ## Documents with their domains expanded -/

/-- An argument with the word that a table has for its domain, if it names
one. -/
def ArgumentSpec.expand (table : List (String × String))
    (argument : ArgumentSpec) : ArgumentSpec :=
  match argument.domain with
  | some domain => { argument with type := table.lookup domain, domain := none }
  | none => argument

def MethodSpec.expand (table : List (String × String)) (method : MethodSpec) :
    MethodSpec :=
  { method with arguments := method.arguments.map (ArgumentSpec.expand table) }

def ClassSpec.expand (table : List (String × String)) (cls : ClassSpec) :
    ClassSpec :=
  { cls with methods := cls.methods.map (MethodSpec.expand table) }

namespace Spec

/-- A document with all domains expanded by its own table, and another table in
place of that. -/
def expand (spec : Spec) (table : List (String × String)) : Spec :=
  { spec with
    domains := table
    classes := spec.classes.map (ClassSpec.expand spec.domains) }

/-! ## Resolved arguments -/

section Resolved

variable {spec : Spec} {argument : ArgumentSpec} {field : Field}

theorem ResolvesArgument.clear
    (resolves : spec.ResolvesArgument argument field) : argument.Clear := by
  rw [ArgumentSpec.Clear]
  cases resolves.type with
  | direct type noDomain =>
      simp [type, noDomain]
  | named noType name _ =>
      simp [noType, name]

theorem ResolvesArgument.known
    (resolves : spec.ResolvesArgument argument field) : spec.Known argument := by
  cases resolves.type with
  | direct type noDomain =>
      constructor
      · intro word said
        rw [type, Option.some.injEq] at said
        exact ⟨_, said⟩
      · intro domain said
        rw [noDomain] at said
        cases said
  | named noType name declared =>
      constructor
      · intro word said
        rw [noType] at said
        cases said
      · intro domain said
        rw [name, Option.some.injEq] at said
        exact said ▸ List.mem_map.mpr ⟨_, declared, rfl⟩

theorem ResolvesArgument.expand
    (aliases : (spec.domains.map Prod.fst).Nodup)
    (resolves : spec.ResolvesArgument argument field)
    (table : List (String × String)) :
    (spec.expand table).ResolvesArgument (argument.expand spec.domains)
      field.unaliased := by
  obtain ⟨name, type, domain⟩ := resolves
  cases type with
  | direct type noDomain =>
      rw [ArgumentSpec.expand, noDomain]
      exact ⟨name, .direct type noDomain, noDomain.symm⟩
  | @named noType domainName said declared =>
      have found : spec.domains.lookup domainName = some field.type.spelling :=
        lookup_of_mem aliases declared
      rw [ArgumentSpec.expand, said]
      exact ⟨name, .direct found rfl, rfl⟩

theorem ResolvesMethod.expand
    {cls : ClassSpec} {method : MethodSpec} {resolved : Method}
    (aliases : (spec.domains.map Prod.fst).Nodup)
    (resolves : spec.ResolvesMethod cls method resolved)
    (table : List (String × String)) :
    (spec.expand table).ResolvesMethod (cls.expand spec.domains)
      (method.expand spec.domains) resolved.unaliased := by
  refine ⟨resolves.id, resolves.classId, resolves.name, resolves.qualifiedName,
    resolves.synchronous, ?_, rfl⟩
  refine List.forall₂_map_left_iff.mpr (List.forall₂_map_right_iff.mpr ?_)
  exact resolves.fields.imp fun _ _ resolves => resolves.expand aliases table

theorem ResolvesClass.expand
    {cls : ClassSpec} {resolved : ProtocolClass}
    (aliases : (spec.domains.map Prod.fst).Nodup)
    (resolves : spec.ResolvesClass cls resolved)
    (table : List (String × String)) :
    (spec.expand table).ResolvesClass (cls.expand spec.domains)
      resolved.unaliased := by
  refine ⟨resolves.id, resolves.name, ?_⟩
  refine List.forall₂_map_left_iff.mpr (List.forall₂_map_right_iff.mpr ?_)
  exact resolves.methods.imp fun _ _ resolves => resolves.expand aliases table

theorem Resolves.known
    {protocol : Protocol} (resolves : spec.Resolves protocol) :
    ∀ cls ∈ spec.classes, spec.KnownClass cls :=
  forall_left_of_forall₂ resolves.classes fun _ _ resolves =>
    forall_left_of_forall₂ resolves.methods fun _ _ resolves =>
      forall_left_of_forall₂ resolves.fields fun _ _ resolves =>
        resolves.known

theorem Resolves.clear
    {protocol : Protocol} (resolves : spec.Resolves protocol) :
    ∀ cls ∈ spec.classes, ∀ method ∈ cls.methods,
      ∀ argument ∈ method.arguments, argument.Clear :=
  forall_left_of_forall₂ resolves.classes fun _ _ resolves =>
    forall_left_of_forall₂ resolves.methods fun _ _ resolves =>
      forall_left_of_forall₂ resolves.fields fun _ _ resolves =>
        resolves.clear

end Resolved

theorem WellFormed.expand
    {spec : Spec} (wellFormed : spec.WellFormed)
    {table : List (String × String)} (aliases : (table.map Prod.fst).Nodup)
    {protocol : Protocol} (resolves : (spec.expand table).Resolves protocol) :
    (spec.expand table).WellFormed := by
  refine ⟨aliases, ?_, ?_, resolves.clear⟩
  · have classIds :
        (spec.expand table).classes.map ClassSpec.id =
          spec.classes.map ClassSpec.id := by
      rw [Spec.expand, List.map_map]
      rfl
    rw [classIds]
    exact wellFormed.classIds
  · refine List.forall_mem_map.mpr fun cls member => ?_
    have methodIds :
        (cls.expand spec.domains).methods.map MethodSpec.id =
          cls.methods.map MethodSpec.id := by
      rw [ClassSpec.expand, List.map_map]
      rfl
    rw [methodIds]
    exact wellFormed.methodIds cls member

end Spec

/-- With its domains expanded and any other table, an accepted document gives a
protocol with the same classes up to the notes of domains, the same source by
any settings, and the same codec for each method. -/
theorem resolve_expand
    {spec : Spec} {protocol : Protocol}
    (accepted : spec.resolve.outcome = .ok protocol)
    {table : List (String × String)}
    (aliases : (table.map Prod.fst).Nodup)
    (typed : ∀ entry ∈ table, Spelled entry.2) :
    ∃ expanded : Protocol,
      (spec.expand table).resolve.outcome = .ok expanded ∧
        expanded.info = protocol.info ∧
        expanded.classes = protocol.classes.map ProtocolClass.unaliased ∧
        (∀ settings,
          (expanded.generate settings).mapError GenerationFault.message =
            (protocol.generate settings).mapError GenerationFault.message) ∧
        List.Forall₂
          (fun method expanded : Method =>
            (∀ payload, expanded.decode payload = method.decode payload) ∧
              ∀ values, expanded.encode values = method.encode values)
          protocol.methods expanded.methods := by
  obtain ⟨wellFormed, resolves, noCollision⟩ := Spec.resolves_of_resolve accepted
  obtain ⟨domains, _, declared⟩ :=
    Domains.outcome_declare_of_spelled typed Domains.empty
      (by simpa [Domains.empty] using aliases)
  let expanded : Protocol :=
    ⟨protocol.info, domains, protocol.classes.map ProtocolClass.unaliased⟩
  have resolvesExpanded : (spec.expand table).Resolves expanded := by
    refine ⟨resolves.info, declared, ?_⟩
    refine List.forall₂_map_left_iff.mpr (List.forall₂_map_right_iff.mpr ?_)
    exact resolves.classes.imp fun _ _ resolves =>
      resolves.expand wellFormed.aliases table
  have apart : expanded.collision? = none := by
    have apart := Protocol.collision?_eq_none_iff.mp noCollision
    exact Protocol.collision?_eq_none_iff.mpr (apart.unaliased rfl)
  have outcome : (spec.expand table).resolve.outcome = .ok expanded :=
    Spec.outcome_of_verdict
      (.accepted (wellFormed.expand aliases resolvesExpanded) typed
        resolvesExpanded.known resolvesExpanded apart)
  refine ⟨expanded, outcome, rfl, rfl,
    Protocol.generate_unaliased rfl rfl, ?_⟩
  have methods : expanded.methods = protocol.methods.map Method.unaliased :=
    Protocol.methods_unaliased rfl
  rw [methods, List.forall₂_map_right_iff, List.forall₂_same]
  exact fun method _ => ⟨method.decode_unaliased, method.encode_unaliased⟩

/-- A document with one domain for a flag, used twice, and one that no argument
uses. -/
def flagDomain : Spec where
  name := none
  majorVersion := none
  minorVersion := none
  revision := none
  tcpPort := none
  domains := [("no-wait", "bit"), ("class-id", "short")]
  classes :=
    [⟨50, "queue",
      [⟨20, "bind", none,
        [⟨"queue", some "shortstr", none⟩, ⟨"no-wait", none, some "no-wait"⟩,
          ⟨"passive", none, some "no-wait"⟩]⟩]⟩]

def flagDomainProtocol : Protocol where
  info := ⟨none, none, none⟩
  domains := [("no-wait", .bit), ("class-id", .short)]
  classes :=
    [⟨50, Name.ofText "queue",
      [⟨20, 50, Name.ofText "bind", "queue.bind", false,
        [⟨Name.ofText "queue", .shortString, none⟩,
          ⟨Name.ofText "no-wait", .bit, some "no-wait"⟩,
          ⟨Name.ofText "passive", .bit, some "no-wait"⟩]⟩]⟩]

theorem resolve_expand_flagDomain :
    flagDomain.resolve.outcome = .ok flagDomainProtocol ∧
      ∃ expanded : Protocol,
        (flagDomain.expand [("no-wait", "table"), ("bit", "octet")]).resolve.outcome =
            .ok expanded ∧
          expanded.classes =
            [⟨50, Name.ofText "queue",
              [⟨20, 50, Name.ofText "bind", "queue.bind", false,
                [⟨Name.ofText "queue", .shortString, none⟩,
                  ⟨Name.ofText "no-wait", .bit, none⟩,
                  ⟨Name.ofText "passive", .bit, none⟩]⟩]⟩] ∧
          ∀ settings,
            (expanded.generate settings).mapError GenerationFault.message =
              (flagDomainProtocol.generate settings).mapError
                GenerationFault.message := by
  have accepted : flagDomain.resolve.outcome = .ok flagDomainProtocol := by
    decide
  have aliases : ([("no-wait", "table"), ("bit", "octet")].map Prod.fst).Nodup := by
    decide
  have typed :
      ∀ entry ∈ [("no-wait", "table"), ("bit", "octet")], Spelled entry.2 := by
    rw [List.forall_mem_cons, List.forall_mem_singleton]
    exact ⟨⟨.table, rfl⟩, ⟨.octet, rfl⟩⟩
  obtain ⟨expanded, resolved, _, classes, generated, _⟩ :=
    resolve_expand accepted aliases typed
  exact ⟨accepted, expanded, resolved, classes, generated⟩

end MethodCodec
