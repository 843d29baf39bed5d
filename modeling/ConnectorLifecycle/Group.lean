import ConnectorLifecycle.Containers
import ConnectorLifecycle.Service.Lifecycle

/-!
# Groups of services

The services of a group are started in the order of their definitions and stopped in the opposite
order. A service that does not start is reported and does not keep the others from starting. A call
that aborts ends the operation on the whole group where it stands; only giving a group up goes on
with the remaining services. If another call aborts on that way, the process ends there.
-/

namespace ConnectorLifecycle

/-- A service with its state. -/
structure Member (F : Type) where
  /-- What the service is built from. -/
  service : Service F
  /-- Where it stands. -/
  state : State F := {}
  deriving DecidableEq

/-- Services in the order of their definitions. -/
structure Group (F : Type) where
  /-- The services with their states. -/
  members : List (Member F)
  /-- The number of the next connector. -/
  next : Nat := 1
  deriving DecidableEq

/-- What an operation on several members comes to. -/
structure Sweep (F α : Type) where
  /-- What came of the members reached, in the order in which they were reached. -/
  results : List (Except Failure α)
  /-- The message of a call that unwound. -/
  abort : Option String
  /-- The members afterwards, in their own order. -/
  members : List (Member F)
  /-- The number of the next connector. -/
  next : Nat
  /-- What happened. -/
  journal : Journal F

/-- What came of starting a group. -/
structure StartReport where
  /-- The handles of the services that run, in order. -/
  started : List Handle
  /-- The failures of the others, in order. -/
  failed : List Failure
  deriving DecidableEq

/-- Do a step on one member. -/
def Member.run {F α : Type} (member : Member F) (step : Step F α) (next : Nat) :
    Outcome Failure α × Member F × Nat × Journal F :=
  let (outcome, sit, journal) := step ⟨member.state, next⟩
  (outcome, { member with state := sit.state }, sit.next, journal)

namespace Sweep

variable {F α : Type}

/-- Put what one member came to in front of what the members after it came to. -/
def cons (result : Except Failure α) (member : Member F) (journal : Journal F)
    (later : Sweep F α) : Sweep F α :=
  { later with
    results := result :: later.results
    members := member :: later.members
    journal := journal ++ later.journal }

/-- Do a step on each member in order, up to the first that aborts. -/
def forward (step : Nat → Service F → Step F α) (place next : Nat) :
    List (Member F) → Sweep F α
  | [] => { results := [], abort := none, members := [], next, journal := [] }
  | member :: rest =>
    match member.run (step place member.service) next with
    | (.ok a, member', next', journal) =>
      cons (.ok a) member' journal (forward step (place + 1) next' rest)
    | (.error f, member', next', journal) =>
      cons (.error f) member' journal (forward step (place + 1) next' rest)
    | (.abort m, member', next', journal) =>
      { results := [], abort := some m, members := member' :: rest, next := next', journal }

/-- Do a step on each member, the last one first, up to the first that aborts. -/
def backward (step : Nat → Service F → Step F α) (place next : Nat) :
    List (Member F) → Sweep F α
  | [] => { results := [], abort := none, members := [], next, journal := [] }
  | member :: rest =>
    let later := backward step (place + 1) next rest
    if later.abort.isSome then { later with members := member :: later.members }
    else
      match member.run (step place member.service) later.next with
      | (.ok a, member', next', journal) =>
        { results := later.results ++ [.ok a], abort := none, members := member' :: later.members,
          next := next', journal := later.journal ++ journal }
      | (.error f, member', next', journal) =>
        { results := later.results ++ [.error f], abort := none,
          members := member' :: later.members, next := next', journal := later.journal ++ journal }
      | (.abort m, member', next', journal) =>
        { results := later.results, abort := some m, members := member' :: later.members,
          next := next', journal := later.journal ++ journal }

/-- With what the process ends if a call unwinds while an earlier one is still being passed on. -/
def endOfProcess : String := "panic in a destructor during cleanup"

/-- Do a step on each member in order, even after one that aborts: the members after it are reached
while it is passed on. A second one that aborts ends the process, and no member after it is
reached. -/
def throughout (step : Nat → Service F → Step F α) (place next : Nat) :
    List (Member F) → Sweep F α
  | [] => { results := [], abort := none, members := [], next, journal := [] }
  | member :: rest =>
    match member.run (step place member.service) next with
    | (.ok a, member', next', journal) =>
      cons (.ok a) member' journal (throughout step (place + 1) next' rest)
    | (.error f, member', next', journal) =>
      cons (.error f) member' journal (throughout step (place + 1) next' rest)
    | (.abort m, member', next', journal) =>
      let later := forward step (place + 1) next' rest
      { later with
        abort := some (later.abort.elim m fun _ => endOfProcess)
        members := member' :: later.members
        journal := journal ++ later.journal }

/-- What a sweep left as a group. -/
def group (sweep : Sweep F α) : Group F := ⟨sweep.members, sweep.next⟩

/-- The members that ended with a value, and the failures of the others. -/
def report (sweep : Sweep F Handle) : StartReport where
  started := sweep.results.filterMap fun
    | .ok handle => some handle
    | .error _ => none
  failed := sweep.results.filterMap fun
    | .ok _ => none
    | .error f => some f

end Sweep

namespace Group

variable {F α : Type}

/-- Build one service per definition, up to the first that cannot be built. -/
def services (registry : Registry F) (containers : Containers) :
    List Definition → Except Failure (List (Service F))
  | [] => .ok []
  | definition :: rest => do
    let manager ← containers.find definition.settings.cacheContainer
    let service ← Service.build definition registry manager
    let others ← services registry containers rest
    .ok (service :: others)

/-- A group of services, none of them started yet. -/
def ofServices (services : List (Service F)) : Group F :=
  { members := services.map fun service => { service } }

/-- Build a group, which is reported if it succeeds. -/
def build (registry : Registry F) (containers : Containers) (definitions : List Definition) :
    Except Failure (Group F × Journal F) := do
  let built ← services registry containers definitions
  .ok (ofServices built, [.notice (.groupBuilt built.length)])

/-- Start one service and report it if it fails. -/
def startMember (env : Surroundings F) (s : Service F) : Step F Handle := do
  match ← Step.attempt (s.start env) with
  | .ok handle => pure handle
  | .error failure => do
    Step.report (.memberFailed s.name failure)
    Step.fail failure

/-- Start every service in order and report how many run. -/
def startAll (group : Group F) (env : Nat → Surroundings F) :
    Outcome Failure StartReport × Group F × Journal F :=
  let sweep := Sweep.forward (fun place => startMember (env place)) 0 group.next group.members
  match sweep.abort with
  | some m => (.abort m, sweep.group, sweep.journal)
  | none =>
    let report := sweep.report
    (.ok report, sweep.group,
      sweep.journal ++ [.notice (.groupStarted report.started.length group.members.length)])

/-- Stop every service, the last one first. -/
def stopAll (group : Group F) (env : Nat → Surroundings F) :
    Outcome Failure Unit × Group F × Journal F :=
  let sweep := Sweep.backward (fun place s => s.stop (env place)) 0 group.next group.members
  match sweep.abort with
  | some m => (.abort m, sweep.group, sweep.journal)
  | none => (.ok (), sweep.group, sweep.journal)

/-- Give all services up in order. The end of the process is an abort as well, but one that nobody
sees: nothing happens after it. -/
def dropAll (group : Group F) (env : Nat → Surroundings F) :
    Outcome Failure Unit × Group F × Journal F :=
  let sweep := Sweep.throughout (fun place s => s.drop (env place)) 0 group.next group.members
  match sweep.abort with
  | some m => (.abort m, sweep.group, sweep.journal)
  | none => (.ok (), sweep.group, sweep.journal)

/-- The place of the first service of a name. -/
def place? (group : Group F) (name : String) : Option Nat :=
  group.members.findIdx? fun member => member.service.name = name

/-- The first service of a name, with its state. -/
def find? (group : Group F) (name : String) : Option (Member F) :=
  group.members.find? fun member => member.service.name = name

/-- Do a step on the first service of a name. -/
def runFirst (group : Group F) (name : String) (step : Nat → Service F → Step F α) :
    Option (Outcome Failure α × Group F × Journal F) := do
  let place ← group.place? name
  let member ← group.members[place]?
  let (outcome, member', next, journal) := member.run (step place member.service) group.next
  some (outcome, ⟨group.members.set place member', next⟩, journal)

end Group

end ConnectorLifecycle
