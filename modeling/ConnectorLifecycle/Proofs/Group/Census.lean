import ConnectorLifecycle.Proofs.Group.History

/-!
# The census of connectors

What is built is either stopped or still held: along every course of a group, the connectors stopped
and those held at the end are, up to their order, those held at the beginning and those built. Every
connector that is built is started at once, and connectors are numbered in the order in which they
are built. So a history never stops a connector twice and never loses one.
-/

namespace ConnectorLifecycle

open scoped List

variable {F : Type}

/-- The connector that an entry says was built. -/
def Entry.built? : Entry F → Option (Instance F)
  | .call (.create factory (some n)) => some ⟨factory, n⟩
  | _ => none

/-- The connector that an entry says was started. -/
def Entry.started? : Entry F → Option (Instance F)
  | .call (.start connector _ _) => some connector
  | _ => none

/-- The connector that an entry says was stopped. -/
def Entry.stopped? : Entry F → Option (Instance F)
  | .call (.stop connector) => some connector
  | _ => none

/-- The connectors that were built, in order. -/
def builtIn (journal : Journal F) : List (Instance F) := journal.filterMap Entry.built?

/-- The connectors that were started, in order. -/
def startedIn (journal : Journal F) : List (Instance F) := journal.filterMap Entry.started?

/-- The connectors that were stopped, however their stops ended, in order. -/
def stoppedIn (journal : Journal F) : List (Instance F) := journal.filterMap Entry.stopped?

@[simp] theorem builtIn_append (j j' : Journal F) :
    builtIn (j ++ j') = builtIn j ++ builtIn j' := List.filterMap_append

@[simp] theorem startedIn_append (j j' : Journal F) :
    startedIn (j ++ j') = startedIn j ++ startedIn j' := List.filterMap_append

@[simp] theorem stoppedIn_append (j j' : Journal F) :
    stoppedIn (j ++ j') = stoppedIn j ++ stoppedIn j' := List.filterMap_append

/-- An entry that reports something. -/
def Entry.isNotice : Entry F → Bool
  | .notice _ => true
  | .call _ => false

/-- From connectors held under a next number to others under another one: nothing is lost, and what
is built is numbered in order and started at once. -/
structure Census (n : Nat) (held : List (Instance F)) (n' : Nat) (held' : List (Instance F))
    (j : Journal F) : Prop where
  /-- Connectors are numbered in the order in which they are built. -/
  numbers : (builtIn j).map Instance.number = List.range' n (builtIn j).length
  /-- The next number is the one after those given. -/
  next : n' = n + (builtIn j).length
  /-- Every connector that is built is started, and no other one. -/
  started : startedIn j = builtIn j
  /-- What was held or built is stopped or held. -/
  kept : (stoppedIn j ++ held').Perm (held ++ builtIn j)

namespace Census

variable {n n' n'' : Nat} {held held' held'' : List (Instance F)} {j j' : Journal F}

/-- Reports change nothing. -/
theorem of_notices (n : Nat) (held : List (Instance F))
    (notices : ∀ entry ∈ j, entry.isNotice = true) : Census n held n held j := by
  have none_seen {view : Entry F → Option (Instance F)}
      (h : ∀ notice, view (.notice notice) = none) : j.filterMap view = [] := by
    refine List.filterMap_eq_nil_iff.mpr fun entry hmem => ?_
    cases entry with
    | notice notice => exact h notice
    | call call => cases notices _ hmem
  have hbuilt : builtIn j = [] := none_seen fun _ => rfl
  have hstarted : startedIn j = [] := none_seen fun _ => rfl
  have hstopped : stoppedIn j = [] := none_seen fun _ => rfl
  constructor <;> simp [hbuilt, hstarted, hstopped]

/-- Nothing changes nothing. -/
theorem refl (n : Nat) (held : List (Instance F)) : Census n held n held [] :=
  of_notices n held fun _ hmem => absurd hmem List.not_mem_nil

/-- One census goes on where another one ended. -/
theorem trans (h : Census n held n' held' j) (h' : Census n' held' n'' held'' j') :
    Census n held n'' held'' (j ++ j') where
  numbers := by
    rw [builtIn_append, List.map_append, h.numbers, h'.numbers, h.next, List.range'_append_1,
      List.length_append]
  next := by
    rw [h'.next, h.next, builtIn_append, List.length_append, Nat.add_assoc]
  started := by rw [startedIn_append, builtIn_append, h.started, h'.started]
  kept := by
    rw [stoppedIn_append, builtIn_append]
    calc
      stoppedIn j ++ stoppedIn j' ++ held''
        = stoppedIn j ++ (stoppedIn j' ++ held'') := List.append_assoc ..
      _ ~ stoppedIn j ++ (held' ++ builtIn j') := h'.kept.append_left _
      _ = stoppedIn j ++ held' ++ builtIn j' := (List.append_assoc ..).symm
      _ ~ held ++ builtIn j ++ builtIn j' := h.kept.append_right _
      _ = held ++ (builtIn j ++ builtIn j') := List.append_assoc ..

/-- Connectors that others hold do not matter. -/
theorem frame (h : Census n held n' held' j) (before after : List (Instance F)) :
    Census n (before ++ (held ++ after)) n' (before ++ (held' ++ after)) j where
  numbers := h.numbers
  next := h.next
  started := h.started
  kept := by
    calc
      stoppedIn j ++ (before ++ (held' ++ after))
        ~ before ++ (stoppedIn j ++ (held' ++ after)) := List.perm_append_comm_assoc ..
      _ = before ++ (stoppedIn j ++ held' ++ after) := by rw [List.append_assoc (stoppedIn j)]
      _ ~ before ++ (held ++ builtIn j ++ after) := (h.kept.append_right _).append_left _
      _ = before ++ (held ++ (builtIn j ++ after)) := by rw [List.append_assoc held]
      _ ~ before ++ (held ++ (after ++ builtIn j)) :=
        (List.perm_append_comm.append_left _).append_left _
      _ = before ++ (held ++ after) ++ builtIn j := by simp only [List.append_assoc]

/-- A connector that was held is stopped. -/
theorem of_farewell (s : Service F) (n : Nat) (connector : Instance F)
    (answer : Outcome CauseChain Unit) :
    Census n [connector] n [] (s.farewell connector answer) := by
  have hbuilt : builtIn (s.farewell connector answer) = [] := by cases answer <;> rfl
  have hstarted : startedIn (s.farewell connector answer) = [] := by cases answer <;> rfl
  have hstopped : stoppedIn (s.farewell connector answer) = [connector] := by cases answer <;> rfl
  constructor <;> simp [hbuilt, hstarted, hstopped]

end Census

section Steps

variable {s : Service F} {env : Surroundings F} {n : Nat} {st st' : State F}
  {sit sit' : Situation F} {j : Journal F}

/-- What a state holds. -/
def State.held (st : State F) : List (Instance F) := st.connector.toList

/-- A teardown stops what was held. -/
theorem Takedown.census {o : Outcome Failure Unit} (h : Takedown s env st o st' j) (n : Nat) :
    Census n st.held n st'.held j ∧ st'.held = [] := by
  unfold State.held
  cases h with
  | nothing none_held =>
    rw [none_held]
    exact ⟨.refl n [], rfl⟩
  | stopped held answered | cut held unwound =>
    rw [held]
    exact ⟨.of_farewell s n _ _, rfl⟩

/-- Bringing a connector up holds what it builds. -/
theorem Ascent.census {o : Outcome Failure Handle} (h : Ascent s env n o sit j) :
    Census n [] sit.next sit.state.held j := by
  cases h <;> constructor <;> rfl

/-- A new attempt holds what it builds, or stops it. -/
theorem Attempt.census {o : Outcome Failure Handle} (h : Attempt s env n o sit j) :
    Census n [] sit.next sit.state.held j := by
  cases h with
  | up ascent => exact ascent.census.trans (.of_notices _ _ (by simp [Entry.isNotice]))
  | cut ascent => exact ascent.census
  | failed ascent down =>
    obtain ⟨census, hnone⟩ := down.census _
    rw [hnone] at census
    exact ((ascent.census.trans (.of_notices _ _ (by simp [Entry.isNotice]))).trans census).trans
      (.of_notices _ _ (by simp [Entry.isNotice]))
  | cutDown ascent down =>
    exact (ascent.census.trans (.of_notices _ _ (by simp [Entry.isNotice]))).trans
      (down.census _).1

/-- A repair stops what was left. -/
theorem Recovery.census {o : Outcome Failure Unit} (h : Recovery s env st o st' j) (n : Nat) :
    Census n st.held n st'.held j := by
  have warning : Census n st.held n st.held [.notice (.recovering s.name st.phase)] :=
    .of_notices n _ (by simp [Entry.isNotice])
  cases h with
  | needless settled => exact .refl n _
  | mended interrupted down =>
    obtain ⟨census, hnone⟩ := down.census n
    rw [hnone] at census
    exact warning.trans census
  | cut interrupted down => exact warning.trans (down.census n).1

/-- A start holds what it builds or held before, or stops it. -/
theorem Launch.census {o : Outcome Failure Handle} (h : Launch s env sit o sit' j) :
    Census sit.next sit.state.held sit'.next sit'.state.held j := by
  cases h with
  | shown runs => exact .of_notices _ _ (by simp [Entry.isNotice])
  | cut idle repair => exact repair.census _
  | anew idle repair ready attempt =>
    exact ((repair.census _).trans (.of_notices _ _ (by simp [Entry.isNotice]))).trans
      attempt.census

/-- Reporting a change of phase calls nobody. -/
theorem Service.isNotice_changes (s : Service F) (p q : Phase) :
    ∀ entry ∈ s.changes p q, entry.isNotice = true := by
  unfold Service.changes
  cases p.allows q <;> simp [Entry.isNotice]

/-- A stop stops what was held. -/
theorem Landing.census {o : Outcome Failure Unit} (h : Landing s env st o st' j) (n : Nat) :
    Census n st.held n [] j ∧ st'.held = [] := by
  have left : Census n st.held n st.leaving.held (s.leave st) := by
    unfold State.held
    rw [st.connector_leaving]
    refine .of_notices n _ ?_
    unfold Service.leave
    cases st.phase.isRunning with
    | true => exact s.isNotice_changes _ _
    | false => exact fun _ hmem => absurd hmem List.not_mem_nil
  cases h with
  | whole down =>
    obtain ⟨census, hnone⟩ := down.census n
    rw [hnone] at census
    exact ⟨left.trans (census.trans (.of_notices n _ (s.isNotice_changes _ _))), rfl⟩
  | cut down =>
    obtain ⟨census, hnone⟩ := down.census n
    exact ⟨left.trans (hnone ▸ census), hnone⟩

/-- However a request is served, no connector is lost. -/
theorem Served.census {request : Request F} {o : Outcome Failure Reply}
    (h : Served s sit request o sit' j) :
    Census sit.next sit.state.held sit'.next sit'.state.held j := by
  cases h with
  | launched launch => exact launch.census
  | landed landing =>
    obtain ⟨census, hnone⟩ := landing.census sit.next
    rw [hnone]
    exact census
  | looked => exact .refl _ _

end Steps

/-- The connectors that members hold, in order. -/
def heldBy (members : List (Member F)) : List (Instance F) :=
  members.flatMap fun member => member.state.held

@[simp] theorem heldBy_nil : heldBy ([] : List (Member F)) = [] := rfl

@[simp] theorem heldBy_append (members members' : List (Member F)) :
    heldBy (members ++ members') = heldBy members ++ heldBy members' := List.flatMap_append

@[simp] theorem heldBy_cons (member : Member F) (rest : List (Member F)) :
    heldBy (member :: rest) = member.state.held ++ heldBy rest := rfl

/-- Members hold nothing if none of them does. -/
theorem heldBy_eq_nil {members : List (Member F)}
    (h : ∀ member ∈ members, member.state.held = []) : heldBy members = [] :=
  List.flatMap_eq_nil_iff.mpr h

/-- Members hold nothing only if none of them does. -/
theorem heldBy_cons_eq_nil {member : Member F} {rest : List (Member F)} :
    heldBy (member :: rest) = [] ↔ member.state.held = [] ∧ heldBy rest = [] := by
  rw [heldBy_cons]
  exact List.append_eq_nil_iff

/-- Along every course no connector is lost. -/
theorem Course.census {group group' : Group F} {cut : Bool} {j : Journal F}
    (h : Course group cut group' j) :
    Census group.next (heldBy group.members) group'.next (heldBy group'.members) j := by
  induction h with
  | stay => exact .refl _ _
  | report _ notice ih => exact ih.trans (.of_notices _ _ (by simp [Entry.isNotice]))
  | served _ served ih => simpa using ih.trans (by simpa using served.census.frame _ _)

/-- What is stopped or held after a history was numbered when it was built, and nothing else was. -/
theorem run_census (services : List (Service F)) (requests : List (GroupRequest F)) :
    Census 1 [] (Group.run services requests).group.next
      (heldBy (Group.run services requests).group.members)
      (Group.run services requests).journal := by
  have hnone : heldBy (Group.ofServices services).members = [] := by
    refine heldBy_eq_nil fun member hmem => ?_
    obtain ⟨_, _, rfl⟩ := List.mem_map.mp hmem
    rfl
  have census := (run_course services requests).census
  rw [hnone] at census
  exact census

/-- After a history in which nothing was held at first, no connector is there twice. -/
theorem Census.nodup {n n' : Nat} {held' : List (Instance F)} {j : Journal F}
    (h : Census n [] n' held' j) :
    ((builtIn j).map Instance.number).Nodup ∧
      ((stoppedIn j ++ held').map Instance.number).Nodup := by
  have hbuilt : ((builtIn j).map Instance.number).Nodup := by
    rw [h.numbers]
    exact List.nodup_range'
  exact ⟨hbuilt, ((h.kept.map Instance.number).nodup_iff).mpr hbuilt⟩

/-- What is held after a history that began with nothing has one of the numbers given in it. -/
theorem Census.number_lt {n n' : Nat} {held' : List (Instance F)} {j : Journal F}
    (h : Census n [] n' held' j) {connector : Instance F} (held : connector ∈ held') :
    n ≤ connector.number ∧ connector.number < n' := by
  have hbuilt : connector ∈ builtIn j := by
    simpa using h.kept.mem_iff.mp (List.mem_append_right _ held)
  have hnumber : connector.number ∈ List.range' n (builtIn j).length :=
    h.numbers ▸ List.mem_map_of_mem hbuilt
  rw [h.next]
  exact List.mem_range'_1.mp hnumber

end ConnectorLifecycle
