import ConnectorLifecycle.Proofs.Group.Building
import ConnectorLifecycle.Proofs.Signature

/-!
# Names of services

A service is named by its kind, followed by a blank and its declared name if it has one. Kinds and
names are any texts, so this can be read in more than one way: a kind may itself end in a blank and
a word. `Definition.Overlaps` says when, and there is no other way for two different definitions to
share a name. In a group whose names are all different, a name finds the one service that it was
made for, at whatever time, and whatever a service reports or fails with carries its name.
-/

namespace ConnectorLifecycle

variable {F : Type}

/-- The kind of a definition is the kind of another one with a blank and a word after it, and the
other declares as its name that word, followed by a blank and the declared name of the first if
there is one. Any text counts as a word, an empty one and one with blanks in it included. -/
def Definition.Overlaps (d e : Definition) : Prop :=
  ∃ word, d.kind = e.kind ++ " " ++ word ∧
    e.settings.name = some (serviceName word d.settings.name)

/-- A name finds the service of a place in a group. -/
structure Group.Designates (group : Group F) (s : Service F) (place : Nat) : Prop where
  /-- The look-up gives that place. -/
  located : group.place? s.name = some place
  /-- The look-up gives the service there. -/
  found : ∃ member, group.members[place]? = some member ∧ group.find? s.name = some member ∧
    member.service = s

section Spelling

variable {d e : Definition}

/-- A kind that reaches further into the same text goes on with a blank and a word, which the other
name begins with. -/
theorem word_of_longer_kind {kind kind' name name' : String} {rest : List Char}
    (hkind : kind'.toList = kind.toList ++ rest)
    (hname : ' ' :: name.toList = rest ++ ' ' :: name'.toList) :
    (kind = kind' ∧ name = name') ∨
      ∃ word, kind' = kind ++ " " ++ word ∧ name = word ++ " " ++ name' := by
  cases rest with
  | nil =>
    have hkind' : kind.toList = kind'.toList := by simp [hkind]
    have hname' : name.toList = name'.toList := by simpa using hname
    exact .inl ⟨String.toList_inj.mp hkind', String.toList_inj.mp hname'⟩
  | cons c rest =>
    obtain ⟨rfl, hrest⟩ := List.cons.inj hname
    refine .inr ⟨String.ofList rest, ?_, ?_⟩
    · rw [← String.toList_inj]
      simp [hkind]
    · rw [← String.toList_inj]
      simp [hrest]

/-- Definitions that overlap give one name. -/
theorem Definition.Overlaps.serviceName_eq (h : d.Overlaps e) :
    serviceName d.kind d.settings.name = serviceName e.kind e.settings.name := by
  obtain ⟨word, hkind, hname⟩ := h
  rw [hkind, hname]
  cases d.settings.name <;> simp [serviceName, String.append_assoc]

/-- Two definitions give one name exactly if they agree in kind and declared name, or overlap. -/
theorem Definition.serviceName_eq_iff :
    serviceName d.kind d.settings.name = serviceName e.kind e.settings.name ↔
      (d.kind, d.settings.name) = (e.kind, e.settings.name) ∨ d.Overlaps e ∨ e.Overlaps d := by
  constructor
  · intro h
    unfold Overlaps
    cases hd : d.settings.name with
    | none =>
      cases he : e.settings.name with
      | none =>
        rw [hd, he] at h
        exact .inl (congrArg (·, none) h)
      | some b =>
        rw [hd, he] at h
        exact .inr (.inl ⟨b, h, rfl⟩)
    | some a =>
      cases he : e.settings.name with
      | none =>
        rw [hd, he] at h
        exact .inr (.inr ⟨a, h.symm, rfl⟩)
      | some b =>
        rw [hd, he] at h
        have hlist : d.kind.toList ++ ' ' :: a.toList = e.kind.toList ++ ' ' :: b.toList := by
          simpa [serviceName, String.toList_append] using congrArg String.toList h
        rcases List.append_eq_append_iff.mp hlist with ⟨rest, hkind, hname⟩ | ⟨rest, hkind, hname⟩
        · rcases word_of_longer_kind hkind hname with ⟨hk, rfl⟩ | ⟨word, hk, hn⟩
          · rw [hk]
            exact .inl rfl
          · exact .inr (.inr ⟨word, hk, congrArg some hn⟩)
        · rcases word_of_longer_kind hkind hname with ⟨hk, rfl⟩ | ⟨word, hk, hn⟩
          · rw [hk]
            exact .inl rfl
          · exact .inr (.inl ⟨word, hk, congrArg some hn⟩)
  · rintro (h | h | h)
    · obtain ⟨hkind, hname⟩ := Prod.mk.inj h
      rw [hkind, hname]
    · exact h.serviceName_eq
    · exact h.serviceName_eq.symm

/-- A kind without a blank is no other kind with a word after it. -/
theorem Definition.not_overlaps_of_unbroken (h : ' ' ∉ d.kind.toList) : ¬ d.Overlaps e := by
  rintro ⟨word, hkind, _⟩
  rw [hkind] at h
  exact h (by simp)

/-- Names are all different exactly if no two definitions agree in kind and declared name, and none
overlap. -/
theorem Definition.nodup_names_iff {definitions : List Definition} :
    (definitions.map fun d => serviceName d.kind d.settings.name).Nodup ↔
      (definitions.map fun d => (d.kind, d.settings.name)).Nodup ∧
        definitions.Pairwise fun d e => ¬ d.Overlaps e ∧ ¬ e.Overlaps d := by
  unfold List.Nodup
  rw [List.pairwise_map, List.pairwise_map, ← List.pairwise_and_iff]
  refine List.Pairwise.iff fun d e => ?_
  rw [ne_eq, Definition.serviceName_eq_iff, not_or, not_or]

end Spelling

/-- In a group whose names are all different, each service is found under its name. -/
theorem Group.designates_of_nodup {group : Group F} {place : Nat} {member : Member F}
    (nodup : (group.members.map fun member => member.service.name).Nodup)
    (hmember : group.members[place]? = some member) : group.Designates member.service place := by
  obtain ⟨hlt, rfl⟩ := List.getElem?_eq_some_iff.mp hmember
  -- No service before this one has its name.
  have first : ∀ (earlier : Nat) (h : earlier < place),
      group.members[earlier].service.name ≠ group.members[place].service.name := by
    intro earlier h
    have differ := List.pairwise_iff_getElem.mp nodup earlier place (by simp; omega)
      (by simpa using hlt) h
    simpa using differ
  constructor
  case located =>
    refine List.findIdx?_eq_some_iff_getElem.mpr ⟨hlt, by simp, fun earlier h => ?_⟩
    simpa using first earlier h
  case found =>
    refine ⟨_, hmember, ?_, rfl⟩
    refine List.find?_eq_some_iff_getElem.mpr ⟨by simp, place, hlt, rfl, fun earlier h => ?_⟩
    simpa using first earlier h

/-- A group keeps the services that it was built of, and with them its names. -/
theorem Group.designates_after_run {services : List (Service F)}
    (nodup : (services.map Service.name).Nodup) (requests : List (GroupRequest F)) {place : Nat}
    {s : Service F} (hs : services[place]? = some s) :
    (Group.run services requests).group.Designates s place := by
  have hservices := run_services services requests
  generalize (Group.run services requests).group = group at hservices ⊢
  subst hservices
  rw [List.getElem?_map, Option.map_eq_some_iff] at hs
  obtain ⟨member, hmember, rfl⟩ := hs
  rw [List.map_map] at nodup
  exact Group.designates_of_nodup nodup hmember

/-- Services that are built have the names of their definitions. -/
theorem Group.names_of_services {registrations : List (String × F)}
    {edits : List Containers.Edit} {definitions : List Definition} {services : List (Service F)}
    (fits : List.Forall₂ (fun d s => Service.Fits registrations edits d s) definitions services) :
    services.map Service.name = definitions.map fun d => serviceName d.kind d.settings.name := by
  induction fits with
  | nil => rfl
  | cons first _ ih => rw [List.map_cons, List.map_cons, first.name, ih]

/-- The services of different definitions have different names exactly if no definition overlaps
another one, and so they have if no kind has a blank in it. Then each service is found under its own
name and no other one is, whatever was asked of the group. Whatever a service reports or fails with
names it in any case. -/
theorem names_designate_services (registrations : List (String × F))
    (edits : List Containers.Edit) (definitions : List Definition) (services : List (Service F))
    (journal : Journal F)
    (built : Group.build (Registry.ofRegistrations registrations) (Containers.ofEdits edits)
      definitions = .ok (Group.ofServices services, journal))
    (distinct : (definitions.map fun d => (d.kind, d.settings.name)).Nodup) :
    ((services.map Service.name).Nodup ↔
      definitions.Pairwise fun d e => ¬ d.Overlaps e ∧ ¬ e.Overlaps d) ∧
    ((∀ d ∈ definitions, ' ' ∉ d.kind.toList) → (services.map Service.name).Nodup) ∧
    ((services.map Service.name).Nodup → ∀ requests place s, services[place]? = some s →
      (Group.run services requests).group.Designates s place) ∧
    ∀ s ∈ services, s.Signs := by
  obtain ⟨services', hservices, hgroup, -⟩ := Group.build_eq_ok_iff.mp built
  obtain rfl : services = services' := by
    rw [← Group.services_ofServices services, hgroup, Group.services_ofServices]
  have fits := Group.fits_of_services hservices
  have names : (services.map Service.name).Nodup ↔
      definitions.Pairwise fun d e => ¬ d.Overlaps e ∧ ¬ e.Overlaps d := by
    rw [Group.names_of_services fits, Definition.nodup_names_iff]
    exact and_iff_right distinct
  refine ⟨names, ?_, ?_, ?_⟩
  · intro unbroken
    refine names.mpr (List.pairwise_iff_getElem.mpr fun i j hi hj _ => ?_)
    exact ⟨Definition.not_overlaps_of_unbroken (unbroken _ (List.getElem_mem hi)),
      Definition.not_overlaps_of_unbroken (unbroken _ (List.getElem_mem hj))⟩
  · exact fun nodup requests place s hs => Group.designates_after_run nodup requests hs
  · intro s hmem
    obtain ⟨d, fit⟩ := exists_match_of_mem fits.flip hmem
    exact Service.signs (by rw [fit.logger]; rfl)

/-- Kinds with a blank in them do not overlap by that alone. -/
theorem names_designate_services_of_broken_kinds :
    let edits : List Containers.Edit := [.add ⟨"local", 0⟩]
    let registry := Registry.ofRegistrations [("rest api", "a"), ("rest", "b")]
    let api : Definition := { kind := "rest api", settings := {} }
    let second : Definition := { kind := "rest", settings := { name := some "api v2" } }
    let first : Definition := { kind := "rest api", settings := { name := some "v1" } }
    let services := [api.service "a" ⟨"local", 0⟩, second.service "b" ⟨"local", 0⟩,
      first.service "a" ⟨"local", 0⟩]
    Group.build registry (Containers.ofEdits edits) [api, second, first] =
      .ok (Group.ofServices services, [.notice (.groupBuilt 3)]) ∧
    ([api, second, first].map fun d => (d.kind, d.settings.name)).Nodup ∧
    services.map Service.name = ["rest api", "rest api v2", "rest api v1"] ∧
    (∀ requests place s, services[place]? = some s →
      (Group.run services requests).group.Designates s place) ∧
    ∀ s ∈ services, s.Signs := by
  intro edits registry api second first services
  have built : Group.build registry (Containers.ofEdits edits) [api, second, first] =
      .ok (Group.ofServices services, [.notice (.groupBuilt 3)]) := by rfl
  have distinct : ([api, second, first].map fun d => (d.kind, d.settings.name)).Nodup := by
    decide +kernel
  have names : services.map Service.name = ["rest api", "rest api v2", "rest api v1"] := by
    decide +kernel
  obtain ⟨_, _, designates, signs⟩ := names_designate_services _ _ _ _ _ built distinct
  exact ⟨built, distinct, names, designates (by rw [names]; decide +kernel), signs⟩

/-- Different definitions may give one name, and then a look-up by it finds the first one only. -/
theorem names_may_collide :
    ¬ ∀ (registrations : List (String × String)) (edits : List Containers.Edit)
      (definitions : List Definition) (services : List (Service String))
      (journal : Journal String),
      Group.build (Registry.ofRegistrations registrations) (Containers.ofEdits edits)
        definitions = .ok (Group.ofServices services, journal) →
      (definitions.map fun d => (d.kind, d.settings.name)).Nodup →
      ∀ (place : Nat) (s : Service String), services[place]? = some s →
        ((Group.ofServices services).find? s.name).map Member.service = some s := by
  intro distinguished
  let longer : Definition := { kind := "a b", settings := {} }
  let shorter : Definition := { kind := "a", settings := { name := some "b" } }
  have built : Group.build (Registry.ofRegistrations [("a b", "x"), ("a", "y")])
      (Containers.ofEdits [.add ⟨"local", 0⟩]) [longer, shorter] =
        .ok (Group.ofServices [longer.service "x" ⟨"local", 0⟩, shorter.service "y" ⟨"local", 0⟩],
          [.notice (.groupBuilt 2)]) := by rfl
  have second := distinguished _ _ _ _ _ built (by decide +kernel) 1 _ rfl
  revert second
  decide +kernel

end ConnectorLifecycle
