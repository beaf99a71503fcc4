import Mathlib
import MethodCodec.Proofs.Abbreviation
import MethodCodec.Proofs.SourceFile

/-!
# What a run tells

A run over a document tells of its domains, classes and methods in turn and
stops before the first of them that does not resolve.  What comes behind them
says how the run ended: one that is told of as a result resolved, and two mean
that the file was generated.
-/

namespace MethodCodec

/-! ## Runs one behind another -/

namespace Traced

variable {ε α β γ : Type} {run : Traced ε α}

theorem andThen_of_ok {value : α} (ended : run.outcome = .ok value)
    (next : α → Traced ε β) :
    run.andThen next =
      ⟨run.events ++ (next value).events, (next value).outcome⟩ := by
  rw [andThen, ended]

theorem andThen_of_error {error : ε} (ended : run.outcome = .error error)
    (next : α → Traced ε β) :
    run.andThen next = ⟨run.events, .error error⟩ := by
  rw [andThen, ended]

@[simp]
theorem ofExcept_ok_andThen (value : α) (next : α → Traced ε β) :
    (ofExcept (.ok value)).andThen next = next value := by
  rw [andThen_of_ok rfl]
  rfl

@[simp]
theorem done_andThen (value : α) (next : α → Traced ε β) :
    (done value).andThen next = next value :=
  ofExcept_ok_andThen value next

@[simp]
theorem andThen_assoc (run : Traced ε α) (next : α → Traced ε β)
    (last : β → Traced ε γ) :
    (run.andThen next).andThen last =
      run.andThen fun value => (next value).andThen last := by
  cases ended : run.outcome with
  | error error =>
      rw [andThen_of_error ended, andThen_of_error ended, andThen_of_error rfl]
  | ok value =>
      rw [andThen_of_ok ended, andThen_of_ok ended]
      cases endedNext : (next value).outcome with
      | error error =>
          rw [andThen_of_error rfl, andThen_of_error endedNext]
      | ok middle =>
          rw [andThen_of_ok rfl, andThen_of_ok endedNext, List.append_assoc]

theorem outcome_andThen_eq_ok_iff {next : α → Traced ε β} {value : β} :
    (run.andThen next).outcome = .ok value ↔
      ∃ middle, run.outcome = .ok middle ∧ (next middle).outcome = .ok value := by
  rw [outcome_andThen]
  cases run.outcome <;> simp [Except.bind]

theorem outcome_mapError_eq_ok_iff {δ : Type} {change : ε → δ} {value : α} :
    (run.mapError change).outcome = .ok value ↔ run.outcome = .ok value := by
  rw [mapError]
  cases run.outcome <;> simp [Except.mapError]

end Traced

/-! ## What there is to tell of a document -/

/-- Something in a document that a run tells of. -/
inductive Occasion
  | domain (name word : String)
  | classOpened (cls : ClassSpec)
  | classEmpty (cls : ClassSpec)
  | method (cls : ClassSpec) (method : MethodSpec)

/-- Only a class without methods is a warning. -/
def Occasion.level : Occasion → Level
  | classEmpty _ => .warn
  | domain .. | classOpened _ | method .. => .debug

/-- A class, a warning if it is empty, and its methods. -/
def ClassSpec.occasions (cls : ClassSpec) : List Occasion :=
  .classOpened cls ::
    ((if cls.methods = [] then [.classEmpty cls] else []) ++
      cls.methods.map (.method cls))

namespace Spec

/-- The domains, then class by class. -/
def occasions (spec : Spec) : List Occasion :=
  (spec.domains.map fun entry => .domain entry.1 entry.2) ++
    spec.classes.flatMap ClassSpec.occasions

/-- A domain resolves if its word stands for a type, and a method if all its
arguments have one. -/
def Settles (spec : Spec) : Occasion → Prop
  | .domain _ word => WireType.Spelled word
  | .classOpened _ | .classEmpty _ => True
  | .method _ method => spec.KnownMethod method

/-- The event for an occasion. -/
inductive Tells (spec : Spec) : Occasion → Event → Prop
  | domain (name : String) (kind : WireType) :
      Tells spec (.domain name kind.spelling) (.domainResolved name kind)
  | classOpened (cls : ClassSpec) :
      Tells spec (.classOpened cls) (.classOpened cls.name cls.id)
  | classEmpty (cls : ClassSpec) :
      Tells spec (.classEmpty cls) (.classEmpty cls.name)
  | method {cls : ClassSpec} {method : MethodSpec} {resolved : Method}
      (resolves : spec.ResolvesMethod cls method resolved) :
      Tells spec (.method cls method)
        (.methodResolved cls.name method.name method.id
          resolved.fields.length resolved.layout.length)

theorem Tells.level_eq {spec : Spec} {occasion : Occasion} {event : Event}
    (tells : spec.Tells occasion event) : event.level = occasion.level := by
  cases tells <;> rfl

/-- A run over occasions either tells of all, or it stops before the first that
does not resolve. -/
inductive Tracks (spec : Spec) {ε α : Type} (occasions : List Occasion)
    (run : Traced ε α) : Prop
  | ended {value : α} (outcome : run.outcome = .ok value)
      (settled : ∀ occasion ∈ occasions, spec.Settles occasion)
      (told : List.Forall₂ spec.Tells occasions run.events)
  | stopped {error : ε} (outcome : run.outcome = .error error)
      {before : List Occasion} {occasion : Occasion} {after : List Occasion}
      (split : occasions = before ++ occasion :: after)
      (settled : ∀ earlier ∈ before, spec.Settles earlier)
      (unsettled : ¬ spec.Settles occasion)
      (told : List.Forall₂ spec.Tells before run.events)

section Tracks

variable {spec : Spec} {ε δ α β : Type}

theorem tracks_done (value : α) :
    spec.Tracks [] (Traced.done value : Traced ε α) :=
  .ended rfl (by simp) .nil

/-- A run that tells of one occasion. -/
theorem tracks_of_settled {run : Traced ε α} {occasion : Occasion} {event : Event}
    {value : α} (outcome : run.outcome = .ok value) (events : run.events = [event])
    (settled : spec.Settles occasion) (tells : spec.Tells occasion event) :
    spec.Tracks [occasion] run :=
  .ended outcome (by simpa) (events ▸ .cons tells .nil)

/-- A run that fails before it has told of anything. -/
theorem tracks_of_unsettled {run : Traced ε α} {occasion : Occasion} {error : ε}
    (outcome : run.outcome = .error error) (events : run.events = [])
    (unsettled : ¬ spec.Settles occasion) (after : List Occasion) :
    spec.Tracks (occasion :: after) run :=
  .stopped outcome (List.nil_append _).symm (by simp) unsettled (events ▸ .nil)

theorem Tracks.mapError {occasions : List Occasion} {run : Traced ε α}
    (tracks : spec.Tracks occasions run) (change : ε → δ) :
    spec.Tracks occasions (run.mapError change) := by
  cases tracks with
  | ended outcome settled told =>
      exact .ended (by rw [Traced.mapError, outcome]; rfl) settled told
  | stopped outcome split settled unsettled told =>
      exact .stopped (by rw [Traced.mapError, outcome]; rfl) split settled
        unsettled told

theorem Tracks.andThen {before after : List Occasion} {run : Traced ε α}
    {next : α → Traced ε β} (first : spec.Tracks before run)
    (second : ∀ value, run.outcome = .ok value →
      spec.Tracks after (next value)) :
    spec.Tracks (before ++ after) (run.andThen next) := by
  cases first with
  | stopped outcome split settled unsettled told =>
      rw [Traced.andThen_of_error outcome]
      exact .stopped rfl
        (by rw [split, List.append_assoc, List.cons_append]) settled unsettled told
  | ended outcome settled told =>
      rw [Traced.andThen_of_ok outcome]
      cases second _ outcome with
      | ended outcomeNext settledNext toldNext =>
          exact .ended outcomeNext
            (List.forall_mem_append.mpr ⟨settled, settledNext⟩)
            (List.rel_append told toldNext)
      | stopped outcomeNext split settledNext unsettled toldNext =>
          exact .stopped outcomeNext (by rw [split, List.append_assoc])
            (List.forall_mem_append.mpr ⟨settled, settledNext⟩) unsettled
            (List.rel_append told toldNext)

end Tracks

/-! ## From the domains to the classes -/

variable {spec : Spec} {domains : Domains}

theorem tracks_declare (declarations : List (String × String))
    (domains : Domains) :
    spec.Tracks (declarations.map fun entry => .domain entry.1 entry.2)
      (domains.declare declarations) := by
  induction declarations generalizing domains with
  | nil => exact tracks_done domains
  | cons entry declarations inductionHypothesis =>
      obtain ⟨name, word⟩ := entry
      rw [Domains.declare]
      by_cases settled : spec.Settles (.domain name word)
      · have spelled : WireType.Spelled word := settled
        obtain ⟨kind, rfl⟩ := spelled
        rw [WireType.ofWord_spelling, Traced.ofExcept_ok_andThen]
        exact (tracks_of_settled rfl rfl settled (.domain name kind)).andThen
          fun _ _ => inductionHypothesis _
      · rw [WireType.ofWord_of_not_spelled settled]
        exact tracks_of_unsettled rfl rfl settled _

theorem events_resolveMethod (domains : Domains) (cls : ClassSpec)
    (method : MethodSpec) :
    (resolveMethod domains cls method).events =
      match (resolveMethod domains cls method).outcome with
      | .ok resolved =>
          [.methodResolved cls.name method.name method.id
            resolved.fields.length resolved.layout.length]
      | .error _ => [] := by
  rw [resolveMethod]
  cases method.arguments.mapM (resolveArgument domains cls.name method.name) <;>
    rfl

section Classes

variable (table : spec.Tabulates domains)
  (typed : ∀ entry ∈ spec.domains, WireType.Spelled entry.2)

include table typed in
theorem tracks_resolveMethod {method : MethodSpec} (cls : ClassSpec)
    (clear : ∀ argument ∈ method.arguments, argument.Clear) :
    spec.Tracks [.method cls method] (resolveMethod domains cls method) := by
  have events := events_resolveMethod domains cls method
  cases outcome : (resolveMethod domains cls method).outcome with
  | ok resolved =>
      rw [outcome] at events
      have resolves := (resolveMethod_eq_ok_iff table).mp outcome
      have settled : spec.Settles (.method cls method) :=
        forall_left_of_forall₂ resolves.fields fun _ _ resolves => resolves.known
      exact tracks_of_settled outcome events settled (.method resolves)
  | error fault =>
      rw [outcome] at events
      have unsettled : ¬ spec.Settles (.method cls method) := by
        intro known
        obtain ⟨resolved, passed⟩ :=
          exists_resolveMethod table typed cls clear known
        rw [passed] at outcome
        cases outcome
      exact tracks_of_unsettled outcome events unsettled []

include table typed in
theorem tracks_resolveMethods (cls : ClassSpec) {methods : List MethodSpec}
    (clear : ∀ method ∈ methods, ∀ argument ∈ method.arguments,
      argument.Clear) :
    spec.Tracks (methods.map (.method cls))
      (resolveMethods domains cls methods) := by
  induction methods with
  | nil => exact tracks_done []
  | cons method methods inductionHypothesis =>
      obtain ⟨here, later⟩ := List.forall_mem_cons.mp clear
      rw [resolveMethods, List.map_cons, ← List.singleton_append]
      refine (tracks_resolveMethod table typed cls here).andThen fun first _ => ?_
      rw [← List.append_nil (methods.map _)]
      exact (inductionHypothesis later).andThen fun _ _ => tracks_done _

theorem tracks_noteEmpty (cls : ClassSpec) :
    spec.Tracks (if cls.methods = [] then [.classEmpty cls] else [])
      (noteEmpty cls) := by
  rw [noteEmpty]
  by_cases empty : cls.methods = []
  · rw [if_pos empty, if_pos (List.isEmpty_iff.mpr empty)]
    have settled : spec.Settles (.classEmpty cls) := trivial
    exact tracks_of_settled rfl rfl settled (.classEmpty cls)
  · rw [if_neg empty, if_neg (mt List.isEmpty_iff.mp empty)]
    exact tracks_done ()

include table typed in
theorem tracks_resolveClass {cls : ClassSpec}
    (clear : ∀ method ∈ cls.methods, ∀ argument ∈ method.arguments,
      argument.Clear) :
    spec.Tracks cls.occasions (resolveClass domains cls) := by
  rw [resolveClass, ClassSpec.occasions, ← List.singleton_append]
  have settled : spec.Settles (.classOpened cls) := trivial
  refine (tracks_of_settled rfl rfl settled (.classOpened cls)).andThen fun _ _ => ?_
  refine (tracks_noteEmpty cls).andThen fun _ _ => ?_
  rw [← List.append_nil (cls.methods.map _)]
  exact (tracks_resolveMethods table typed cls clear).andThen fun _ _ =>
    tracks_done _

include table typed in
theorem tracks_resolveClasses {classes : List ClassSpec}
    (clear : ∀ cls ∈ classes, ∀ method ∈ cls.methods,
      ∀ argument ∈ method.arguments, argument.Clear) :
    spec.Tracks (classes.flatMap ClassSpec.occasions)
      (resolveClasses domains classes) := by
  induction classes with
  | nil => exact tracks_done []
  | cons cls classes inductionHypothesis =>
      obtain ⟨here, later⟩ := List.forall_mem_cons.mp clear
      rw [resolveClasses, List.flatMap_cons]
      refine (tracks_resolveClass table typed here).andThen fun first _ => ?_
      rw [← List.append_nil (classes.flatMap _)]
      exact (inductionHypothesis later).andThen fun _ _ => tracks_done _

end Classes

/-- The types of the domains and the classes of a document. -/
def gather (spec : Spec) :
    Traced ResolutionFault (Domains × List ProtocolClass) :=
  ((Domains.ofDeclarations spec.domains).mapError .unresolved).andThen
    fun domains =>
      (resolveClasses domains spec.classes).andThen fun classes =>
        .done (domains, classes)

theorem tabulates_of_ofDeclarations (wellFormed : spec.WellFormed)
    (declared : (Domains.ofDeclarations spec.domains).outcome = .ok domains) :
    spec.Tabulates domains ∧
      ∀ entry ∈ spec.domains, WireType.Spelled entry.2 := by
  have typed : ∀ entry ∈ spec.domains, WireType.Spelled entry.2 := by
    have tracks : spec.Tracks _ (Domains.empty.declare spec.domains) :=
      tracks_declare _ _
    cases tracks with
    | ended _ settled _ =>
        exact fun entry member => settled _ (List.mem_map_of_mem member)
    | stopped outcome =>
        rw [Domains.ofDeclarations, outcome] at declared
        cases declared
  obtain ⟨found, outcome, table⟩ := exists_tabulates wellFormed typed
  rw [declared, Except.ok.injEq] at outcome
  exact ⟨outcome ▸ table, typed⟩

theorem tracks_gather (wellFormed : spec.WellFormed) :
    spec.Tracks spec.occasions spec.gather := by
  rw [gather, occasions]
  refine ((tracks_declare _ _).mapError _).andThen fun domains outcome => ?_
  have declared := Traced.outcome_mapError_eq_ok_iff.mp outcome
  obtain ⟨table, typed⟩ := tabulates_of_ofDeclarations wellFormed declared
  rw [← List.append_nil (spec.classes.flatMap _)]
  exact (tracks_resolveClasses table typed wellFormed.clear).andThen
    fun _ _ => tracks_done _

theorem resolves_of_gather (wellFormed : spec.WellFormed)
    {parts : Domains × List ProtocolClass}
    (gathered : spec.gather.outcome = .ok parts) :
    spec.Resolves (spec.assemble parts.1 parts.2) := by
  rw [gather, Traced.outcome_andThen_eq_ok_iff] at gathered
  obtain ⟨domains, outcome, gathered⟩ := gathered
  rw [Traced.outcome_andThen_eq_ok_iff] at gathered
  obtain ⟨classes, resolved, same⟩ := gathered
  cases same
  have declared := Traced.outcome_mapError_eq_ok_iff.mp outcome
  exact (tabulates_of_ofDeclarations wellFormed declared).1.resolves_assemble resolved

/-- The check of the identifiers, and what is told of a protocol that passes. -/
def conclude (protocol : Protocol) : Traced ResolutionFault Protocol :=
  (refuse (protocol.collision?.map .collides)).andThen fun _ =>
    (Traced.note
      (.protocolResolved protocol.domains.length protocol.classes.length
        protocol.methods.length)).andThen
      fun _ => .done protocol

theorem conclude_of_collision {protocol : Protocol} {collision : Collision}
    (met : protocol.collision? = some collision) :
    conclude protocol = ⟨[], .error (.collides collision)⟩ := by
  rw [conclude, met]
  rfl

theorem conclude_of_apart {protocol : Protocol}
    (apart : protocol.collision? = none) :
    conclude protocol =
      ⟨[.protocolResolved protocol.domains.length protocol.classes.length
        protocol.methods.length], .ok protocol⟩ := by
  rw [conclude, apart]
  rfl

theorem resolve_eq_of_sound (sound : spec.violation? = none) :
    spec.resolve =
      spec.gather.andThen fun parts =>
        conclude (spec.assemble parts.1 parts.2) := by
  simp only [resolve, sound, gather, Option.map_none, refuse,
    Traced.andThen_assoc, Traced.done_andThen]
  rfl

/-- A document taken all the way to its file. -/
def run (spec : Spec) (settings : SourceSettings) :
    Traced GenerationFault String :=
  (spec.resolve.mapError .unresolved).andThen fun protocol =>
    protocol.generate settings

theorem run_of_resolve {events : List Event} {protocol : Protocol}
    (resolved : spec.resolve = ⟨events, .ok protocol⟩) (settings : SourceSettings) :
    spec.run settings =
      ⟨events ++ (protocol.generate settings).events,
        (protocol.generate settings).outcome⟩ := by
  rw [run, resolved, Traced.mapError, Traced.andThen_of_ok rfl]

/-- How a run ends, and all that it tells on the way there. -/
inductive Journaled (spec : Spec) (settings : SourceSettings) :
    Traced GenerationFault String → Prop
  /-- The structure of the document is wrong. -/
  | violates {violation : Violation} {fault : GenerationFault}
      (found : spec.violation? = some violation) :
      Journaled spec settings ⟨[], .error fault⟩
  /-- A domain or a method does not resolve: all is told that comes before. -/
  | unresolved {before : List Occasion} {occasion : Occasion}
      {after : List Occasion} {events : List Event} {fault : GenerationFault}
      (sound : spec.violation? = none)
      (split : spec.occasions = before ++ occasion :: after)
      (settled : ∀ earlier ∈ before, spec.Settles earlier)
      (unsettled : ¬ spec.Settles occasion)
      (told : List.Forall₂ spec.Tells before events) :
      Journaled spec settings ⟨events, .error fault⟩
  /-- Two identifiers meet. -/
  | collides {protocol : Protocol} {collision : Collision}
      {events : List Event} {fault : GenerationFault}
      (sound : spec.violation? = none)
      (settled : ∀ occasion ∈ spec.occasions, spec.Settles occasion)
      (resolves : spec.Resolves protocol)
      (found : protocol.collision? = some collision)
      (told : List.Forall₂ spec.Tells spec.occasions events) :
      Journaled spec settings ⟨events, .error fault⟩
  /-- A structure goes by the name of the table type. -/
  | imported {protocol : Protocol} {collision : Collision}
      {events : List Event} {fault : GenerationFault}
      (sound : spec.violation? = none)
      (settled : ∀ occasion ∈ spec.occasions, spec.Settles occasion)
      (resolves : spec.Resolves protocol)
      (apart : protocol.collision? = none)
      (found : protocol.importCollision? settings.tableType = some collision)
      (told : List.Forall₂ spec.Tells spec.occasions events) :
      Journaled spec settings
        ⟨events ++
          [.protocolResolved protocol.domains.length protocol.classes.length
            protocol.methods.length],
          .error fault⟩
  | generated {protocol : Protocol} {events : List Event} {text : String}
      (sound : spec.violation? = none)
      (settled : ∀ occasion ∈ spec.occasions, spec.Settles occasion)
      (resolves : spec.Resolves protocol)
      (apart : protocol.collision? = none)
      (free : protocol.importCollision? settings.tableType = none)
      (told : List.Forall₂ spec.Tells spec.occasions events) :
      Journaled spec settings
        ⟨events ++
          [.protocolResolved protocol.domains.length protocol.classes.length
            protocol.methods.length] ++
          ((protocol.classes.map fun cls =>
            .classEmitted cls.name.written cls.methods.length) ++
            [.sourceGenerated protocol.classes.length protocol.methods.length
              text.utf8ByteSize]),
          .ok text⟩

theorem journaled_run (spec : Spec) (settings : SourceSettings) :
    spec.Journaled settings (spec.run settings) := by
  cases found : spec.violation? with
  | some violation =>
      have refused : spec.resolve = .fail (.violates violation) := by
        rw [resolve, found]
        rfl
      rw [run, refused]
      exact .violates found
  | none =>
      have wellFormed := violation?_eq_none_iff.mp found
      have resolution := resolve_eq_of_sound found
      cases tracks_gather wellFormed with
      | stopped outcome split settled unsettled told =>
          rw [Traced.andThen_of_error outcome] at resolution
          rw [run, resolution]
          exact .unresolved found split settled unsettled told
      | @ended parts outcome settled told =>
          have resolves := resolves_of_gather wellFormed outcome
          rw [Traced.andThen_of_ok outcome] at resolution
          generalize spec.assemble parts.1 parts.2 = protocol at resolves resolution
          cases met : protocol.collision? with
          | some collision =>
              rw [conclude_of_collision met, List.append_nil] at resolution
              rw [run, resolution]
              exact .collides found settled resolves met told
          | none =>
              rw [conclude_of_apart met] at resolution
              rw [run_of_resolve resolution, Protocol.generate_eq]
              cases imports : protocol.importCollision? settings.tableType with
              | some collision =>
                  dsimp only [Traced.fail]
                  rw [List.append_nil]
                  exact .imported found settled resolves met imports told
              | none =>
                  exact .generated found settled resolves met imports told

/-! ## Results -/

/-- How many events are information on a result. -/
def results (events : List Event) : Nat :=
  events.countP fun event => event.level = .info

theorem results_of_told {occasions : List Occasion} {events : List Event}
    (told : List.Forall₂ spec.Tells occasions events) : results events = 0 := by
  refine List.countP_eq_zero.mpr fun event member => ?_
  obtain ⟨occasion, _, tells⟩ := exists_left_of_forall₂ told member
  have level : occasion.level ≠ .info := by
    cases occasion <;> simp [Occasion.level]
  simpa [tells.level_eq] using level

theorem results_map_classEmitted (classes : List ProtocolClass) :
    results (classes.map fun cls =>
      .classEmitted cls.name.written cls.methods.length) = 0 := by
  refine List.countP_eq_zero.mpr (List.forall_mem_map.mpr fun cls _ => ?_)
  simp [Event.level]

@[simp]
theorem results_append (events others : List Event) :
    results (events ++ others) = results events + results others :=
  List.countP_append

/-- The events of a run are those of its occasions, up to the first domain or
method that does not resolve; behind them, if all do and no identifiers meet,
the result, and behind it, if none meets the table type, an event for each class
and the last result.  So two results are told of exactly by the runs that end in
a file. -/
theorem run_leaves_journal (spec : Spec) (settings : SourceSettings) :
    spec.Journaled settings (spec.run settings) ∧
      (∀ occasion event, spec.Tells occasion event →
        event.level = occasion.level) ∧
      ((∃ text, (spec.run settings).outcome = .ok text) ↔
        results (spec.run settings).events = 2) := by
  have journaled := journaled_run spec settings
  refine ⟨journaled, fun _ _ tells => tells.level_eq, ?_⟩
  generalize spec.run settings = run at journaled
  cases journaled with
  | violates _ => simp [results]
  | unresolved _ _ _ _ told => simp [results_of_told told]
  | collides _ _ _ _ told => simp [results_of_told told]
  | imported _ _ _ _ _ told =>
      rw [results_append, results_of_told told]
      simp [results, Event.level]
  | generated _ _ _ _ _ told =>
      rw [results_append, results_append, results_append, results_of_told told,
        results_map_classEmitted]
      simp [results, Event.level]

end Spec

end MethodCodec
