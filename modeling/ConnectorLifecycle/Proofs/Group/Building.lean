import Mathlib.Data.List.Forall2
import ConnectorLifecycle.Proofs.Group.History
import ConnectorLifecycle.Proofs.Lookup
import ConnectorLifecycle.Proofs.Provision

/-!
# Building groups

A group is built of all definitions or not at all: `Fault` says what keeps one definition from being
built, and the first fault in the order of the definitions is what the building ends with. Each
service of a group that was built has the kind and the settings of the definition at its place, the
factory registered last for the kind, and the manager added last under the name of the container.
`Annals` tell a history of a group with the place of the service that made each entry, so what holds
of one service holds of everything that happens at its place: a connector started there gets the
manager of the definition's own container.
-/

namespace ConnectorLifecycle

variable {F : Type}

section Definitions

variable (registrations : List (String × F)) (edits : List Containers.Edit)

/-- The container that a definition is to serve: its own, or the default one. -/
def Definition.container? (d : Definition) : Option String :=
  d.settings.cacheContainer.or (Containers.ofEdits edits).default?

/-- A container of the name was added. -/
def Containers.Knows (name : String) : Prop :=
  ∃ manager, Containers.Edit.add manager ∈ edits ∧ manager.container = name

/-- What keeps a definition from being built; an unknown container comes before an unknown kind. -/
inductive Definition.Fault (d : Definition) : Failure → Prop
  /-- It names no container and there is no default. -/
  | noContainer (unnamed : d.container? edits = none) : Fault d (.unknownContainer "<default>")
  /-- No container has the name. -/
  | container {name : String} (named : d.container? edits = some name)
      (unknown : ¬ Containers.Knows edits name) : Fault d (.unknownContainer name)
  /-- The container is known, and no factory is registered for the kind. -/
  | kind {name : String} (named : d.container? edits = some name)
      (known : Containers.Knows edits name) (unknown : d.kind ∉ registrations.map Prod.fst) :
      Fault d (.unknownKind d.kind)

/-- The container of a definition is known and its kind is registered. -/
def Definition.Buildable (d : Definition) : Prop :=
  (∃ name, d.container? edits = some name ∧ Containers.Knows edits name) ∧
    d.kind ∈ registrations.map Prod.fst

/-- A service has all that its definition says. -/
structure Service.Fits (d : Definition) (s : Service F) : Prop where
  /-- It has the kind of the definition. -/
  kind : s.kind = d.kind
  /-- It has the settings of the definition. -/
  settings : s.settings = d.settings
  /-- It is named by both. -/
  name : s.name = serviceName d.kind d.settings.name
  /-- Its log names it. -/
  logger : s.logger = Logger.ofService s.name
  /-- It has the factory that was registered last for the kind. -/
  factory : LastUnder d.kind s.factory registrations
  /-- It has the manager that was added last under the name of the container. -/
  manager : ∃ name, d.container? edits = some name ∧
    LastUnder name s.manager (Containers.added edits)
  /-- The manager is one of that container. -/
  own : d.container? edits = some s.manager.container

end Definitions

variable {registrations : List (String × F)} {edits : List Containers.Edit} {d : Definition}

/-- A container is known if a manager is filed under its name. -/
theorem Containers.knows_iff {name : String} :
    Containers.Knows edits name ↔ ∃ manager, LastUnder name manager (Containers.added edits) := by
  rw [exists_lastUnder, List.mem_map]
  constructor
  · rintro ⟨manager, hmem, rfl⟩
    exact ⟨(manager.container, manager), List.mem_filterMap.mpr ⟨_, hmem, rfl⟩, rfl⟩
  · rintro ⟨⟨key, manager⟩, hmem, rfl⟩
    obtain ⟨e, he, hentry⟩ := List.mem_filterMap.mp hmem
    cases e with
    | add other =>
      cases hentry
      exact ⟨_, he, rfl⟩
    | choose other => cases hentry

/-- A definition can be built exactly if nothing keeps it from being built. -/
theorem Definition.buildable_iff :
    d.Buildable registrations edits ↔ ∀ f, ¬ d.Fault registrations edits f := by
  constructor
  · rintro ⟨⟨name, named, known⟩, registered⟩ f fault
    cases fault with
    | noContainer unnamed => simp [named] at unnamed
    | container named' unknown =>
      rw [named] at named'
      cases named'
      exact unknown known
    | kind _ _ unknown => exact unknown registered
  · intro faultless
    cases named : d.container? edits with
    | none => exact absurd (.noContainer named) (faultless _)
    | some name =>
      have known : Containers.Knows edits name := by
        refine Classical.byContradiction fun unknown => ?_
        exact faultless _ (.container named unknown)
      refine ⟨⟨name, named, known⟩, ?_⟩
      refine Classical.byContradiction fun unknown => ?_
      exact faultless _ (.kind named known unknown)

/-- A definition that has a service can be built. -/
theorem Service.Fits.buildable {s : Service F} (h : s.Fits registrations edits d) :
    d.Buildable registrations edits := by
  obtain ⟨name, named, last⟩ := h.manager
  refine ⟨⟨name, named, Containers.knows_iff.mpr ⟨_, last⟩⟩, ?_⟩
  exact exists_lastUnder.mp ⟨_, h.factory⟩

/-- The look-up of a definition's container finds its manager, or fails for that reason. -/
theorem Definition.find_container (edits : List Containers.Edit) (d : Definition) :
    (∃ name manager, d.container? edits = some name ∧
        LastUnder name manager (Containers.added edits) ∧
        (Containers.ofEdits edits).find d.settings.cacheContainer = .ok manager) ∨
      (d.container? edits = none ∧
        (Containers.ofEdits edits).find d.settings.cacheContainer =
          .error (.unknownContainer "<default>")) ∨
      ∃ name, d.container? edits = some name ∧ ¬ Containers.Knows edits name ∧
        (Containers.ofEdits edits).find d.settings.cacheContainer =
          .error (.unknownContainer name) := by
  cases named : d.container? edits with
  | none =>
    refine .inr (.inl ⟨rfl, ?_⟩)
    rw [Definition.container?] at named
    rw [Containers.find, named]
  | some name =>
    by_cases known : Containers.Knows edits name
    · obtain ⟨manager, last⟩ := Containers.knows_iff.mp known
      exact .inl ⟨name, manager, rfl, last, Containers.find_eq_ok_iff.mpr ⟨name, named, last⟩⟩
    · refine .inr (.inr ⟨name, rfl, known, ?_⟩)
      have absent : name ∉ (Containers.added edits).map Prod.fst := by
        rw [← exists_lastUnder, ← Containers.knows_iff]
        exact known
      rw [Definition.container?] at named
      rw [Containers.find, named, Containers.managers_ofEdits]
      simp only [Table.get?_ofList_eq_none_iff.mpr absent]

/-- The service of a definition with a factory and a manager. -/
def Definition.service (d : Definition) (factory : F) (manager : CacheManager) : Service F where
  name := serviceName d.kind d.settings.name
  kind := d.kind
  settings := d.settings
  factory
  manager
  logger := Logger.ofService (serviceName d.kind d.settings.name)

/-- The service of one definition, or what keeps it from being built. -/
def Group.service (registry : Registry F) (containers : Containers) (d : Definition) :
    Except Failure (Service F) := do
  let manager ← containers.find d.settings.cacheContainer
  Service.build d registry manager

/-- A definition gives a service that fits it, or ends with its fault. -/
theorem Group.service_cases (registrations : List (String × F)) (edits : List Containers.Edit)
    (d : Definition) :
    (∃ s, Group.service (Registry.ofRegistrations registrations) (Containers.ofEdits edits) d =
        .ok s ∧ s.Fits registrations edits d) ∨
      ∃ f, Group.service (Registry.ofRegistrations registrations) (Containers.ofEdits edits) d =
        .error f ∧ d.Fault registrations edits f := by
  unfold Group.service
  rcases d.find_container edits with ⟨name, manager, named, last, found⟩ | ⟨unnamed, missing⟩ |
    ⟨name, named, unknown, missing⟩
  · rw [found]
    by_cases registered : d.kind ∈ registrations.map Prod.fst
    · obtain ⟨f, lastFactory⟩ := exists_lastUnder.mpr registered
      have hcontainer : manager.container = name := by
        obtain ⟨before, after, split, _⟩ := last
        exact Containers.container_of_mem_added (split ▸ List.mem_append_cons_self)
      refine .inl ⟨d.service f manager, ?_, ?_⟩
      · change Service.build d _ manager = _
        rw [Service.build, Registry.factory_eq_ok_iff.mpr lastFactory]
        rfl
      · exact
          { kind := rfl
            settings := rfl
            name := rfl
            logger := rfl
            factory := lastFactory
            manager := ⟨name, named, last⟩
            own := by rw [named, ← hcontainer]; rfl }
    · refine .inr ⟨.unknownKind d.kind, ?_,
        .kind named (Containers.knows_iff.mpr ⟨manager, last⟩) registered⟩
      change Service.build d _ manager = _
      rw [Service.build, Registry.factory_of_not_mem registered]
  · rw [missing]
    exact .inr ⟨_, rfl, .noContainer unnamed⟩
  · rw [missing]
    exact .inr ⟨_, rfl, .container named unknown⟩

/-- What keeps a definition from being built is determined by it. -/
theorem Definition.Fault.unique {f f' : Failure} (h : d.Fault registrations edits f)
    (h' : d.Fault registrations edits f') : f = f' := by
  cases h with
  | noContainer unnamed =>
    cases h' with
    | noContainer => rfl
    | container named' | kind named' =>
      rw [unnamed] at named'
      cases named'
  | container named unknown =>
    cases h' with
    | noContainer unnamed' =>
      rw [named] at unnamed'
      cases unnamed'
    | container named' =>
      rw [named] at named'
      cases named'
      rfl
    | kind named' known' =>
      rw [named] at named'
      cases named'
      exact absurd known' unknown
  | kind named known unknown =>
    cases h' with
    | noContainer unnamed' =>
      rw [named] at unnamed'
      cases unnamed'
    | container named' unknown' =>
      rw [named] at named'
      cases named'
      exact absurd known unknown'
    | kind => rfl

/-- A group is built of the first definition's service and those of the others, in this order. -/
theorem Group.services_cons (registry : Registry F) (containers : Containers) (d : Definition)
    (rest : List Definition) :
    Group.services registry containers (d :: rest) =
      (Group.service registry containers d).bind fun s =>
        (Group.services registry containers rest).map (s :: ·) := by
  rw [Group.services, Group.service]
  cases containers.find d.settings.cacheContainer with
  | error f => rfl
  | ok manager =>
    change (Service.build d registry manager).bind _ = (Service.build d registry manager).bind _
    cases Service.build d registry manager with
    | error f => rfl
    | ok s =>
      change (Group.services registry containers rest).bind _ = _
      cases Group.services registry containers rest <;> rfl

/-- In two lists that match item by item, an item of the first one matches one of the second. -/
theorem exists_match_of_mem {α β : Type} {R : α → β → Prop} {xs : List α} {ys : List β}
    (h : List.Forall₂ R xs ys) {x : α} (hmem : x ∈ xs) : ∃ y, R x y := by
  induction h with
  | nil => cases hmem
  | cons first _ ih =>
    rcases List.mem_cons.mp hmem with rfl | hmem
    · exact ⟨_, first⟩
    · exact ih hmem

/-- In two lists that match item by item, what stands at a place of the second one matches what
stands there in the first. -/
theorem exists_match_of_place {α β : Type} {R : α → β → Prop} {xs : List α} {ys : List β}
    (h : List.Forall₂ R xs ys) {place : Nat} {y : β} (hy : ys[place]? = some y) :
    ∃ x, xs[place]? = some x ∧ R x y := by
  induction h generalizing place with
  | nil => simp at hy
  | cons first _ ih =>
    cases place with
    | zero =>
      cases hy
      exact ⟨_, rfl, first⟩
    | succ place => exact ih hy

/-- Either every definition has its service, in order, or the first fault is what there is. -/
theorem Group.services_cases (registrations : List (String × F)) (edits : List Containers.Edit)
    (definitions : List Definition) :
    (∃ services, Group.services (Registry.ofRegistrations registrations)
        (Containers.ofEdits edits) definitions = .ok services ∧
        List.Forall₂ (fun d s => Service.Fits registrations edits d s) definitions services) ∨
      ∃ before d after f, definitions = before ++ d :: after ∧
        (∀ e ∈ before, e.Buildable registrations edits) ∧ d.Fault registrations edits f ∧
        Group.services (Registry.ofRegistrations registrations) (Containers.ofEdits edits)
          definitions = .error f := by
  induction definitions with
  | nil => exact .inl ⟨[], rfl, .nil⟩
  | cons d rest ih =>
    rw [Group.services_cons]
    rcases Group.service_cases registrations edits d with ⟨s, built, fits⟩ | ⟨f, refused, fault⟩
    · rw [built]
      rcases ih with ⟨services, others, all⟩ | ⟨before, d', after, f, split, fine, fault, refused⟩
      · rw [others]
        exact .inl ⟨s :: services, rfl, .cons fits all⟩
      · rw [refused]
        refine .inr ⟨d :: before, d', after, f, by rw [split]; rfl, ?_, fault, rfl⟩
        intro e hmem
        rcases List.mem_cons.mp hmem with rfl | hmem
        · exact fits.buildable
        · exact fine e hmem
    · rw [refused]
      exact .inr ⟨[], d, rest, f, rfl, fun _ hmem => absurd hmem List.not_mem_nil, fault, rfl⟩

/-- The fault of the first definition that has one is what the building ends with. -/
theorem Group.services_of_fault {before after : List Definition} {f : Failure}
    (fine : ∀ e ∈ before, e.Buildable registrations edits)
    (fault : d.Fault registrations edits f) :
    Group.services (Registry.ofRegistrations registrations) (Containers.ofEdits edits)
      (before ++ d :: after) = .error f := by
  induction before with
  | nil =>
    rw [List.nil_append, Group.services_cons]
    rcases Group.service_cases registrations edits d with ⟨s, _, fits⟩ | ⟨f', refused, fault'⟩
    · exact absurd fault (Definition.buildable_iff.mp fits.buildable f)
    · rw [refused, fault.unique fault']
      rfl
  | cons e rest ih =>
    rw [List.cons_append, Group.services_cons]
    rcases Group.service_cases registrations edits e with ⟨s, built, _⟩ | ⟨f', _, fault'⟩
    · rw [built, ih fun e' hmem => fine e' (List.mem_cons_of_mem _ hmem)]
      rfl
    · exact absurd fault' (Definition.buildable_iff.mp (fine e List.mem_cons_self) f')

/-- Services that are built fit the definitions at their places. -/
theorem Group.fits_of_services {definitions : List Definition} {services : List (Service F)}
    (h : Group.services (Registry.ofRegistrations registrations) (Containers.ofEdits edits)
      definitions = .ok services) :
    List.Forall₂ (fun d s => Service.Fits registrations edits d s) definitions services := by
  rcases Group.services_cases registrations edits definitions with
    ⟨services', built, fits⟩ | ⟨before, d, after, f, _, _, _, refused⟩
  · rw [h] at built
    cases built
    exact fits
  · rw [h] at refused
    cases refused

/-- Services are built exactly if every definition can be. -/
theorem Group.services_isOk_iff {definitions : List Definition} :
    (∃ services, Group.services (Registry.ofRegistrations registrations)
        (Containers.ofEdits edits) definitions = .ok services) ↔
      ∀ d ∈ definitions, d.Buildable registrations edits := by
  constructor
  · rintro ⟨services, h⟩ d hmem
    obtain ⟨s, fits⟩ := exists_match_of_mem (Group.fits_of_services h) hmem
    exact fits.buildable
  · intro fine
    rcases Group.services_cases registrations edits definitions with
      ⟨services, built, _⟩ | ⟨before, d, after, f, rfl, _, fault, _⟩
    · exact ⟨services, built⟩
    · have buildable := fine d List.mem_append_cons_self
      exact absurd fault (Definition.buildable_iff.mp buildable f)

/-- Building services ends with a failure exactly if it is the fault of the first definition that
has one. -/
theorem Group.services_eq_error_iff {definitions : List Definition} {f : Failure} :
    Group.services (Registry.ofRegistrations registrations) (Containers.ofEdits edits)
        definitions = .error f ↔
      ∃ before d after, definitions = before ++ d :: after ∧
        (∀ e ∈ before, e.Buildable registrations edits) ∧ d.Fault registrations edits f := by
  constructor
  · intro h
    rcases Group.services_cases registrations edits definitions with
      ⟨services, built, _⟩ | ⟨before, d, after, f', split, fine, fault, refused⟩
    · rw [built] at h
      cases h
    · rw [refused] at h
      cases h
      exact ⟨before, d, after, split, fine, fault⟩
  · rintro ⟨before, d, after, rfl, fine, fault⟩
    exact Group.services_of_fault fine fault

/-- What happened to a group, each entry with the place of the service that made it; what the group
itself reports has no place. -/
inductive Annals (group : Group F) : Group F → List (Option Nat × Entry F) → Prop
  /-- Nothing happened yet. -/
  | stay : Annals group group []
  /-- The group reports something. -/
  | report {group' : Group F} {entries : List (Option Nat × Entry F)}
      (annals : Annals group group' entries) (notice : Notice) :
      Annals group group' (entries ++ [(none, .notice notice)])
  /-- The service of a place is served. -/
  | served {before after : List (Member F)} {member : Member F} {next : Nat}
      {entries : List (Option Nat × Entry F)} {request : Request F} {o : Outcome Failure Reply}
      {sit : Situation F} {j : Journal F}
      (annals : Annals group ⟨before ++ member :: after, next⟩ entries)
      (served : Served member.service ⟨member.state, next⟩ request o sit j) :
      Annals group ⟨before ++ { member with state := sit.state } :: after, sit.next⟩
        (entries ++ j.map fun entry => (some before.length, entry))

/-- Every course of a group has annals that tell what happened on it. -/
theorem Course.exists_annals {group group' : Group F} {cut : Bool} {j : Journal F}
    (h : Course group cut group' j) :
    ∃ entries, Annals group group' entries ∧ entries.map Prod.snd = j := by
  induction h with
  | stay => exact ⟨[], .stay, rfl⟩
  | report _ notice ih =>
    obtain ⟨entries, annals, rfl⟩ := ih
    exact ⟨_, annals.report notice, by simp⟩
  | served _ served ih =>
    obtain ⟨entries, annals, rfl⟩ := ih
    refine ⟨_, annals.served served, ?_⟩
    rw [List.map_append, List.map_map]
    congr 1
    exact List.map_id _

namespace Annals

variable {group group' : Group F} {entries : List (Option Nat × Entry F)}

/-- The services of a group stay at their places. -/
theorem services_eq (h : Annals group group' entries) :
    group'.members.map Member.service = group.members.map Member.service := by
  induction h with
  | stay => rfl
  | report _ _ ih => exact ih
  | served _ _ ih => simpa using ih

/-- A connector that is started at a place gets the manager of the service there. -/
theorem manager_eq (h : Annals group group' entries) {place : Nat} {connector : Instance F}
    {bag : PropertyBag} {manager : CacheManager}
    (started : (some place, .call (.start connector bag manager)) ∈ entries) :
    ∃ s, (group.members.map Member.service)[place]? = some s ∧ manager = s.manager := by
  induction h with
  | stay => cases started
  | report _ notice ih =>
    rcases List.mem_append.mp started with started | started
    · exact ih started
    · cases List.mem_singleton.mp started
  | @served before after member next entries request o sit j annals served ih =>
    rcases List.mem_append.mp started with started | started
    · exact ih started
    · obtain ⟨entry, hmem, heq⟩ := List.mem_map.mp started
      cases heq
      obtain ⟨front, back, split⟩ := List.append_of_mem hmem
      refine ⟨member.service, ?_, (served.announced.announcement split).1⟩
      rw [← annals.services_eq]
      simp

/-- In a group of services that fit definitions, a connector that is started at a place gets a
manager of the container of the definition there. -/
theorem container_eq {definitions : List Definition} {services : List (Service F)}
    (fits : List.Forall₂ (fun d s => Service.Fits registrations edits d s) definitions services)
    (h : Annals (Group.ofServices services) group' entries) {place : Nat} {connector : Instance F}
    {bag : PropertyBag} {manager : CacheManager}
    (started : (some place, .call (.start connector bag manager)) ∈ entries) :
    ∃ d, definitions[place]? = some d ∧ d.container? edits = some manager.container := by
  obtain ⟨s, hs, rfl⟩ := h.manager_eq started
  have hservice : services[place]? = some s := by
    simpa [Group.ofServices, List.map_map] using hs
  obtain ⟨d, hd, hfits⟩ := exists_match_of_place fits hservice
  exact ⟨d, hd, hfits.own⟩

end Annals

/-- A group is built of its services, and reports how many there are. -/
theorem Group.build_eq_ok_iff {registry : Registry F} {containers : Containers}
    {definitions : List Definition} {group : Group F} {journal : Journal F} :
    Group.build registry containers definitions = .ok (group, journal) ↔
      ∃ services, Group.services registry containers definitions = .ok services ∧
        group = Group.ofServices services ∧
        journal = [.notice (.groupBuilt services.length)] := by
  unfold Group.build
  cases Group.services registry containers definitions with
  | error f => simp [bind, Except.bind]
  | ok services => simp [bind, Except.bind, eq_comm]

/-- Without its services there is only what was in the way of them. -/
theorem Group.build_eq_error_iff {registry : Registry F} {containers : Containers}
    {definitions : List Definition} {f : Failure} :
    Group.build registry containers definitions = .error f ↔
      Group.services registry containers definitions = .error f := by
  unfold Group.build
  cases Group.services registry containers definitions with
  | error g => simp [bind, Except.bind]
  | ok services => simp [bind, Except.bind]

/-- A group is built exactly if the container of every definition is known and its kind registered.
Otherwise there is nothing but the fault of the first definition that has one. In a group that was
built, each service fits the definition at its place and none was started; after every history,
whatever is told of who did what, a connector that was started at a place got a manager of the
container that the definition there names, or of the default one. -/
theorem build_wires_each_service (registrations : List (String × F))
    (edits : List Containers.Edit) (definitions : List Definition) :
    let built := Group.build (Registry.ofRegistrations registrations) (Containers.ofEdits edits)
      definitions
    ((∃ group journal, built = .ok (group, journal)) ↔
      ∀ d ∈ definitions, d.Buildable registrations edits) ∧
    (∀ f, built = .error f ↔ ∃ before d after, definitions = before ++ d :: after ∧
      (∀ e ∈ before, e.Buildable registrations edits) ∧ d.Fault registrations edits f) ∧
    ∀ group journal, built = .ok (group, journal) → ∃ services,
      group = Group.ofServices services ∧
      journal = [.notice (.groupBuilt definitions.length)] ∧
      List.Forall₂ (fun d s => Service.Fits registrations edits d s) definitions services ∧
      (∀ member ∈ group.members, member.state = {}) ∧
      ∀ requests : List (GroupRequest F),
        (∃ entries, Annals group (Group.run services requests).group entries ∧
          entries.map Prod.snd = (Group.run services requests).journal) ∧
        ∀ group' entries, Annals group group' entries →
          ∀ place connector bag manager,
            (some place, .call (.start connector bag manager)) ∈ entries →
              ∃ d, definitions[place]? = some d ∧
                d.container? edits = some manager.container := by
  intro built
  refine ⟨?_, ?_, ?_⟩
  · rw [← Group.services_isOk_iff]
    constructor
    · rintro ⟨group, journal, h⟩
      obtain ⟨services, hservices, _⟩ := Group.build_eq_ok_iff.mp h
      exact ⟨services, hservices⟩
    · rintro ⟨services, hservices⟩
      exact ⟨_, _, Group.build_eq_ok_iff.mpr ⟨services, hservices, rfl, rfl⟩⟩
  · intro f
    rw [← Group.services_eq_error_iff]
    exact Group.build_eq_error_iff
  · intro group journal h
    obtain ⟨services, hservices, rfl, rfl⟩ := Group.build_eq_ok_iff.mp h
    have fits := Group.fits_of_services hservices
    refine ⟨services, rfl, by rw [fits.length_eq], fits, ?_, ?_⟩
    · intro member hmem
      obtain ⟨service, _, rfl⟩ := List.mem_map.mp hmem
      rfl
    · intro requests
      refine ⟨(run_course services requests).exists_annals, ?_⟩
      intro group' entries annals place connector bag manager started
      exact annals.container_eq fits started

end ConnectorLifecycle
