import ConnectorLifecycle.Proofs.Factories

/-!
# Registries, their copies, and what is built from them

A program registers factories, copies registries, and builds services and groups from them, in any
order, while what was built is in use. Each registry reflects its lineage: the registrations made on
it, after those that its original had when it was copied. What was built keeps the factories of the
moment when it was built, because a look-up happens then and never again.
-/

namespace ConnectorLifecycle

variable {F : Type}

/-- One more entry of a list is one more write. -/
theorem Table.ofList_snoc {α : Type} (entries : List (String × α)) (key : String) (value : α) :
    ofList (entries ++ [(key, value)]) = (ofList entries).insert key value := by
  rw [ofList, ofList, insertAll, List.foldl_append]
  rfl

namespace Registry

/-- A registry reflects registrations. -/
structure Reflects (registry : Registry F) (registrations : List (String × F)) : Prop where
  /-- The kinds are listed in strictly ascending order. -/
  ascending : AscendingTexts registry.kinds
  /-- The kinds are those that were registered. -/
  kinds : ∀ kind, kind ∈ registry.kinds ↔ kind ∈ registrations.map Prod.fst
  /-- A kind is contained exactly if it is listed. -/
  contains : ∀ kind, registry.contains kind = true ↔ kind ∈ registry.kinds
  /-- A kind has a factory exactly if it is listed. -/
  succeeds : ∀ kind, (∃ f, registry.factory kind = .ok f) ↔ kind ∈ registry.kinds
  /-- The factory of a kind is the one that was registered last. -/
  latest : ∀ kind f, registry.factory kind = .ok f ↔ LastUnder kind f registrations
  /-- Only a kind that was never registered has no factory, and it is named. -/
  unknown : ∀ kind f, registry.factory kind = .error f ↔
    f = .unknownKind kind ∧ kind ∉ registrations.map Prod.fst

variable {registrations : List (String × F)} {kind : String}

/-- One more registration is made on what the others made. -/
theorem ofRegistrations_snoc (registrations : List (String × F)) (kind : String) (f : F) :
    ofRegistrations (registrations ++ [(kind, f)]) =
      ((ofRegistrations registrations).register kind f).1 := by
  rw [ofRegistrations_eq, ofRegistrations_eq, Table.ofList_snoc]
  rfl

/-- A registry contains the kinds that were registered. -/
theorem contains_ofRegistrations :
    (ofRegistrations registrations).contains kind = true ↔
      kind ∈ registrations.map Prod.fst := by
  rw [ofRegistrations_eq, Table.contains_ofList]

/-- A registration is reported as the first or as a further one of its kind. -/
theorem register_notice (f : F) :
    ((ofRegistrations registrations).register kind f).2 =
      if kind ∈ registrations.map Prod.fst then .registeredAgain kind else .registered kind := by
  rw [register]
  simp only [contains_ofRegistrations]

/-- A look-up fails only for a kind that was never registered. -/
theorem factory_eq_error_iff {f : Failure} :
    (ofRegistrations registrations).factory kind = .error f ↔
      f = .unknownKind kind ∧ kind ∉ registrations.map Prod.fst := by
  by_cases known : kind ∈ registrations.map Prod.fst
  · obtain ⟨g, last⟩ := exists_lastUnder.mpr known
    rw [factory_eq_ok_iff.mpr last]
    exact iff_of_false nofun fun h => h.2 known
  · rw [factory_of_not_mem known]
    simp [known, eq_comm]

/-- Registrations make a registry that reflects them. -/
theorem reflects_ofRegistrations (registrations : List (String × F)) :
    (ofRegistrations registrations).Reflects registrations where
  ascending := Table.ascending_keys _
  kinds kind := by
    rw [← contains_ofRegistrations]
    exact Table.mem_keys_iff
  contains kind := Table.mem_keys_iff.symm
  succeeds kind := by
    simp only [factory_eq_ok_iff]
    rw [exists_lastUnder, ← contains_ofRegistrations]
    exact Table.mem_keys_iff.symm
  latest kind f := factory_eq_ok_iff
  unknown kind f := factory_eq_error_iff

end Registry

/-- A service has the factory that the registry had for its kind. -/
theorem Service.factory_of_build {d : Definition} {registry : Registry F} {manager : CacheManager}
    {s : Service F} (h : Service.build d registry manager = .ok s) :
    registry.factory d.kind = .ok s.factory := by
  rw [Service.build] at h
  cases found : registry.factory d.kind with
  | error f =>
    rw [found] at h
    cases h
  | ok f =>
    rw [found] at h
    cases h
    rfl

/-- A service of a kind that was registered is built with the factory that was registered last. -/
theorem Service.exists_build {registrations : List (String × F)} {d : Definition} {f : F}
    (manager : CacheManager) (last : LastUnder d.kind f registrations) :
    ∃ s, Service.build d (Registry.ofRegistrations registrations) manager = .ok s ∧
      s.factory = f := by
  rw [Service.build, Registry.factory_eq_ok_iff.mpr last]
  exact ⟨_, rfl, rfl⟩

/-- A computation that ends with a value goes through one. -/
theorem exists_ok_of_bind {ε α β : Type} {x : Except ε α} {f : α → Except ε β} {b : β}
    (h : (x >>= f) = .ok b) : ∃ a, x = .ok a ∧ f a = .ok b := by
  cases x with
  | error e => cases h
  | ok a => exact ⟨a, rfl, h⟩

/-- The services of a group have the factories that the registry had for the kinds of their
definitions. -/
theorem Group.factories_of_services {registry : Registry F} {containers : Containers}
    {definitions : List Definition} {services : List (Service F)}
    (h : Group.services registry containers definitions = .ok services) :
    List.Forall₂ (fun s d => registry.factory d.kind = .ok s.factory) services definitions := by
  induction definitions generalizing services with
  | nil =>
    cases h
    exact .nil
  | cons d rest ih =>
    rw [Group.services] at h
    obtain ⟨manager, _, h⟩ := exists_ok_of_bind h
    obtain ⟨s, built, h⟩ := exists_ok_of_bind h
    obtain ⟨others, rest_built, h⟩ := exists_ok_of_bind h
    cases h
    exact .cons (Service.factory_of_build built) (ih rest_built)

/-- Something that is built from a registry. -/
inductive Plan where
  /-- A service. -/
  | service (definition : Definition) (manager : CacheManager)
  /-- A group. -/
  | group (containers : Containers) (definitions : List Definition)

/-- Something that was built from a registry, after what it was asked since. -/
inductive Product (F : Type) where
  /-- A service. -/
  | service (s : Service F) (run : Run F)
  /-- A group. -/
  | group (run : GroupRun F)

/-- Something that is asked of what was built. -/
inductive Question (F : Type) where
  /-- A request to a service. -/
  | service (request : Request F)
  /-- A request to a group. -/
  | group (request : GroupRequest F)

/-- Build according to a plan. -/
def Plan.build (registry : Registry F) : Plan → Except Failure (Product F)
  | .service definition manager => do
    let s ← Service.build definition registry manager
    .ok (.service s (Service.built 1))
  | .group containers definitions => do
    let (whole, _) ← Group.build registry containers definitions
    .ok (.group { group := whole })

/-- Ask a service or a group what can be asked of it. -/
def Product.ask : Product F → Question F → Product F
  | .service s run, .service request => .service s (s.extend run request)
  | .group run, .group request => .group (run.extend request)
  | product, _ => product

/-- A service that is asked questions goes through a run. -/
theorem Product.foldl_ask_service (s : Service F) (run : Run F) (questions : List (Question F)) :
    ∃ requests : List (Request F),
      questions.foldl Product.ask (.service s run) = .service s (requests.foldl s.extend run) := by
  induction questions generalizing run with
  | nil => exact ⟨[], rfl⟩
  | cons question rest ih =>
    cases question with
    | service request =>
      obtain ⟨requests, h⟩ := ih (s.extend run request)
      exact ⟨request :: requests, h⟩
    | group request => exact ih run

/-- A group that is asked questions goes through a run. -/
theorem Product.foldl_ask_group (run : GroupRun F) (questions : List (Question F)) :
    ∃ requests : List (GroupRequest F),
      questions.foldl Product.ask (.group run) = .group (requests.foldl GroupRun.extend run) := by
  induction questions generalizing run with
  | nil => exact ⟨[], rfl⟩
  | cons question rest ih =>
    cases question with
    | group request =>
      obtain ⟨requests, h⟩ := ih (run.extend request)
      exact ⟨request :: requests, h⟩
    | service request => exact ih run

/-- A program's registries and what it built from them. -/
structure Workshop (F : Type) where
  /-- The registries: a new one, and copies in the order in which they were made. -/
  registries : List (Registry F) := [Table.empty]
  /-- What was reported of registrations, in order. -/
  notices : List Notice := []
  /-- What was built, in order. -/
  products : List (Product F) := []

namespace Workshop

/-- Something that a program does; registries and products are named by their places. -/
inductive Action (F : Type) where
  /-- Register a factory. -/
  | register (place : Nat) (kind : String) (factory : F)
  /-- Copy a registry. -/
  | copy (place : Nat)
  /-- Build something from a registry. -/
  | build (place : Nat) (plan : Plan)
  /-- Ask something that was built. -/
  | ask (place : Nat) (question : Question F)

/-- Do something; what concerns a place where there is nothing does nothing. -/
def act (w : Workshop F) : Action F → Workshop F
  | .register place kind factory =>
    { w with
      registries := w.registries.modify place fun registry => (registry.register kind factory).1
      notices := w.notices ++
        (w.registries[place]?.map fun registry => (registry.register kind factory).2).toList }
  | .copy place => { w with registries := w.registries ++ w.registries[place]?.toList }
  | .build place plan =>
    match w.registries[place]?.map plan.build with
    | some (.ok product) => { w with products := w.products ++ [product] }
    | some (.error _) | none => w
  | .ask place question => { w with products := w.products.modify place (·.ask question) }

/-- What a program has after some actions. -/
def after (actions : List (Action F)) : Workshop F := actions.foldl act {}

/-- The registrations that count for each registry, after an action. -/
def record (lineages : List (List (String × F))) : Action F → List (List (String × F))
  | .register place kind factory => lineages.modify place (· ++ [(kind, factory)])
  | .copy place => lineages ++ lineages[place]?.toList
  | .build _ _ | .ask _ _ => lineages

/-- The registrations that count for each registry: those made on it, after those that its original
had when it was copied. -/
def lineages (actions : List (Action F)) : List (List (String × F)) := actions.foldl record [[]]

variable {w : Workshop F}

/-- An action leaves each registry with the registrations that count for it. -/
theorem registries_act {lineages : List (List (String × F))}
    (h : w.registries = lineages.map Registry.ofRegistrations) (action : Action F) :
    (w.act action).registries = (record lineages action).map Registry.ofRegistrations := by
  cases action with
  | register place kind f =>
    -- The two lists are compared place by place, as only one place has a new registration.
    apply List.ext_getElem?
    intro other
    change (w.registries.modify place _)[other]? =
      ((lineages.modify place (· ++ [(kind, f)])).map _)[other]?
    rw [h, List.getElem?_modify, List.getElem?_map, List.getElem?_map, List.getElem?_modify]
    cases lineages[other]? with
    | none => rfl
    | some registrations =>
      by_cases same : place = other
      · simp [same, Registry.ofRegistrations_snoc]
      · simp [same]
  | copy place =>
    change w.registries ++ w.registries[place]?.toList = (lineages ++ lineages[place]?.toList).map _
    rw [h, List.getElem?_map, List.map_append]
    cases lineages[place]? <;> rfl
  | build place plan =>
    change (w.act (.build place plan)).registries = lineages.map _
    rw [← h, act]
    split <;> rfl
  | ask place question => exact h

/-- Each registry is the one that the registrations of its lineage make. -/
theorem registries_after (actions : List (Action F)) :
    (after actions).registries = (lineages actions).map Registry.ofRegistrations := by
  have folded : ∀ (actions : List (Action F)) (w : Workshop F) lineages,
      w.registries = lineages.map Registry.ofRegistrations →
        (actions.foldl act w).registries =
          (actions.foldl record lineages).map Registry.ofRegistrations := by
    intro actions
    induction actions with
    | nil => exact fun _ _ h => h
    | cons action rest ih => exact fun w lineages h => ih _ _ (registries_act h action)
  exact folded actions {} [[]] rfl

/-- A registry of a lineage is the one that its registrations make. -/
theorem registry_of_lineage {actions : List (Action F)} {place : Nat}
    {registrations : List (String × F)} (h : (lineages actions)[place]? = some registrations) :
    (after actions).registries[place]? = some (Registry.ofRegistrations registrations) := by
  rw [registries_after, List.getElem?_map, h]
  rfl

/-- Only a registration on a registry changes it. -/
theorem registry_act {place : Nat} {registry : Registry F}
    (h : w.registries[place]? = some registry) {action : Action F}
    (elsewhere : ∀ kind f, action ≠ .register place kind f) :
    (w.act action).registries[place]? = some registry := by
  cases action with
  | register other kind f =>
    have apart : other ≠ place := by
      rintro rfl
      exact elsewhere kind f rfl
    change (w.registries.modify other _)[place]? = _
    rw [List.getElem?_modify_ne _ _ apart, h]
  | copy other =>
    change (w.registries ++ w.registries[other]?.toList)[place]? = _
    rw [List.getElem?_append_left (List.getElem?_eq_some_iff.mp h).1, h]
  | build other plan =>
    rw [act]
    split <;> exact h
  | ask other question => exact h

/-- Without registrations on it a registry stays what it is. -/
theorem registry_foldl_act {place : Nat} {registry : Registry F}
    (h : w.registries[place]? = some registry) {later : List (Action F)}
    (elsewhere : ∀ kind f, .register place kind f ∉ later) :
    (later.foldl act w).registries[place]? = some registry := by
  induction later generalizing w with
  | nil => exact h
  | cons action rest ih =>
    refine ih (registry_act h fun kind f heq => ?_) fun kind f hmem => ?_
    · exact elsewhere kind f (heq ▸ List.mem_cons_self)
    · exact elsewhere kind f (List.mem_cons_of_mem _ hmem)

/-- What was built stays, after what it is asked. -/
theorem products_act {place : Nat} {product : Product F}
    (h : w.products[place]? = some product) (action : Action F) :
    ∃ questions : List (Question F),
      (w.act action).products[place]? = some (questions.foldl Product.ask product) := by
  have hlt : place < w.products.length := (List.getElem?_eq_some_iff.mp h).1
  cases action with
  | register | copy => exact ⟨[], h⟩
  | build other plan =>
    refine ⟨[], ?_⟩
    rw [act]
    split
    · exact (List.getElem?_append_left hlt).trans h
    · exact h
    · exact h
  | ask other question =>
    change ∃ _, (w.products.modify other _)[place]? = _
    by_cases same : other = place
    · refine ⟨[question], ?_⟩
      rw [same, List.getElem?_modify_eq, h]
      rfl
    · exact ⟨[], by rw [List.getElem?_modify_ne _ _ same, h]; rfl⟩

/-- What was built stays through all actions, after what it is asked. -/
theorem products_foldl_act {place : Nat} {product : Product F}
    (h : w.products[place]? = some product) (later : List (Action F)) :
    ∃ questions : List (Question F),
      (later.foldl act w).products[place]? = some (questions.foldl Product.ask product) := by
  induction later generalizing w product with
  | nil => exact ⟨[], h⟩
  | cons action rest ih =>
    obtain ⟨questions, step⟩ := products_act h action
    obtain ⟨questions', run⟩ := ih step
    exact ⟨questions ++ questions', by rw [List.foldl_append]; exact run⟩

/-- What is built from a registry is there afterwards, after what it is asked. -/
theorem exists_product {before later : List (Action F)} {place : Nat} {plan : Plan}
    {registrations : List (String × F)} {product : Product F}
    (lineage : (lineages before)[place]? = some registrations)
    (built : plan.build (Registry.ofRegistrations registrations) = .ok product) :
    ∃ questions : List (Question F),
      (after (before ++ .build place plan :: later)).products[(after before).products.length]? =
        some (questions.foldl Product.ask product) := by
  rw [after, List.foldl_append, List.foldl_cons]
  refine products_foldl_act ?_ later
  change ((after before).act _).products[_]? = _
  rw [act, registry_of_lineage lineage, Option.map_some, built]
  exact List.getElem?_concat_length

/-- A service that was built is there afterwards, after a run. -/
theorem exists_service {before later : List (Action F)} {place : Nat} {d : Definition}
    {manager : CacheManager} {registrations : List (String × F)} {s : Service F}
    (lineage : (lineages before)[place]? = some registrations)
    (built : Service.build d (Registry.ofRegistrations registrations) manager = .ok s) :
    ∃ requests, (after (before ++ .build place (.service d manager) :: later)).products[
      (after before).products.length]? = some (.service s (s.run 1 requests)) := by
  have planned : Plan.build (Registry.ofRegistrations registrations) (.service d manager) =
      .ok (.service s (Service.built 1)) := by
    rw [Plan.build, built]
    rfl
  obtain ⟨questions, found⟩ := exists_product lineage planned
  obtain ⟨requests, hproduct⟩ := Product.foldl_ask_service s (Service.built 1) questions
  exact ⟨requests, found.trans (congrArg some hproduct)⟩

/-- A group that was built is there afterwards, after a run. -/
theorem exists_group {before later : List (Action F)} {place : Nat} {containers : Containers}
    {definitions : List Definition} {registrations : List (String × F)}
    {services : List (Service F)} (lineage : (lineages before)[place]? = some registrations)
    (built : Group.services (Registry.ofRegistrations registrations) containers definitions =
      .ok services) :
    ∃ requests, (after (before ++ .build place (.group containers definitions) :: later)).products[
      (after before).products.length]? = some (.group (Group.run services requests)) := by
  have planned : Plan.build (Registry.ofRegistrations registrations)
      (.group containers definitions) = .ok (.group { group := Group.ofServices services }) := by
    rw [Plan.build, Group.build, built]
    rfl
  obtain ⟨questions, found⟩ := exists_product lineage planned
  obtain ⟨requests, hproduct⟩ :=
    Product.foldl_ask_group { group := Group.ofServices services } questions
  exact ⟨requests, found.trans (congrArg some hproduct)⟩

/-- A registration is reported as the first or as a further one of its kind. -/
theorem notices_register {actions : List (Action F)} {place : Nat}
    {registrations : List (String × F)} (lineage : (lineages actions)[place]? = some registrations)
    (kind : String) (f : F) :
    (after (actions ++ [.register place kind f])).notices = (after actions).notices ++
      [if kind ∈ registrations.map Prod.fst then .registeredAgain kind else .registered kind] := by
  rw [after, List.foldl_append]
  change (after actions).notices ++ ((after actions).registries[place]?.map _).toList = _
  rw [registry_of_lineage lineage, Option.map_some, Registry.register_notice]
  rfl

/-- Only a registration is reported. -/
theorem notices_act {action : Action F} (silent : ∀ place kind f, action ≠ .register place kind f) :
    (w.act action).notices = w.notices := by
  cases action with
  | register place kind f => exact absurd rfl (silent place kind f)
  | copy | ask => rfl
  | build place plan =>
    rw [act]
    split <;> rfl

/-- Each registry reflects the registrations of its lineage: it lists their kinds in strictly
ascending order of bytes, contains and finds exactly these, and gives for each the factory that was
registered last. A registration is reported as a further one of its kind exactly if the lineage has
the kind, and nothing else is reported. It changes no other registry, neither a copy nor an
original. A service that was built from a registry asks the factory that the lineage had last for
its kind when it was built, in every start that comes to asking for a connector, and never another
one, whatever happens to any registry afterwards. So does each service of a group. -/
theorem registries_reflect_registrations (actions : List (Action F)) :
    let workshop := after actions
    workshop.registries.length = (lineages actions).length ∧
    (∀ place registrations, (lineages actions)[place]? = some registrations →
      (∃ registry, workshop.registries[place]? = some registry ∧
        registry.Reflects registrations) ∧
      ∀ kind f, (after (actions ++ [.register place kind f])).notices = workshop.notices ++
        [if kind ∈ registrations.map Prod.fst then .registeredAgain kind else .registered kind]) ∧
    (∀ action, (∀ place kind f, action ≠ .register place kind f) →
      (after (actions ++ [action])).notices = workshop.notices) ∧
    (∀ place registry later, workshop.registries[place]? = some registry →
      (∀ kind f, .register place kind f ∉ later) →
        (after (actions ++ later)).registries[place]? = some registry) ∧
    (∀ before place definition manager later registrations f,
      actions = before ++ .build place (.service definition manager) :: later →
      (lineages before)[place]? = some registrations →
      LastUnder definition.kind f registrations →
      ∃ s run, workshop.products[(after before).products.length]? = some (.service s run) ∧
        Service.build definition (Registry.ofRegistrations registrations) manager = .ok s ∧
        (∀ g ∈ factoriesIn run.journal, g = f) ∧ s.Asks f run.situation) ∧
    ∀ before place containers definitions later registrations built report,
      actions = before ++ .build place (.group containers definitions) :: later →
      (lineages before)[place]? = some registrations →
      Group.build (Registry.ofRegistrations registrations) containers definitions =
        .ok (built, report) →
      ∃ run, workshop.products[(after before).products.length]? = some (.group run) ∧
        (∃ entries, Annals built run.group entries ∧ entries.map Prod.snd = run.journal) ∧
        ∀ group entries, Annals built group entries →
          (∀ place g number, (place, .call (.create g number)) ∈ entries →
            ∃ (k : Nat) (d : Definition), place = some k ∧ definitions[k]? = some d ∧
              LastUnder d.kind g registrations) ∧
          ∀ (k : Nat) (d : Definition), definitions[k]? = some d → ∃ (member : Member F) (f : F),
            group.members[k]? = some member ∧ LastUnder d.kind f registrations ∧
              member.service.Asks f ⟨member.state, group.next⟩ := by
  intro workshop
  refine ⟨?_, ?_, ?_, ?_, ?_, ?_⟩
  · rw [registries_after, List.length_map]
  · intro place registrations lineage
    exact ⟨⟨_, registry_of_lineage lineage, Registry.reflects_ofRegistrations registrations⟩,
      notices_register lineage⟩
  · intro action silent
    rw [after, List.foldl_append]
    exact notices_act silent
  · intro place registry later found elsewhere
    rw [after, List.foldl_append]
    exact registry_foldl_act found elsewhere
  · rintro before place definition manager later registrations f rfl lineage last
    obtain ⟨s, built, rfl⟩ := Service.exists_build manager last
    obtain ⟨requests, found⟩ := exists_service lineage built
    exact ⟨s, s.run 1 requests, found, built, run_factory_eq s 1 requests,
      (run_shape s 1 requests).asks⟩
  · rintro before place containers definitions later registrations _ _ rfl lineage built
    obtain ⟨services, hservices, rfl, -⟩ := Group.build_eq_ok_iff.mp built
    have matched := Group.factories_of_services hservices
    obtain ⟨requests, found⟩ := exists_group lineage hservices
    refine ⟨_, found, (run_course services requests).exists_annals, fun group entries annals => ?_⟩
    constructor
    · intro place g number asked
      obtain ⟨k, s, rfl, hs, rfl⟩ := annals.factory_eq asked
      obtain ⟨d, hd, last⟩ := exists_match_of_place matched.flip hs
      exact ⟨k, d, rfl, hd, Registry.factory_eq_ok_iff.mp last⟩
    · intro k d hd
      obtain ⟨s, hs, last⟩ := exists_match_of_place matched hd
      obtain ⟨member, hmember, asks⟩ := annals.asks hs
      exact ⟨member, s.factory, hmember, Registry.factory_eq_ok_iff.mp last, asks⟩

end Workshop

end ConnectorLifecycle
