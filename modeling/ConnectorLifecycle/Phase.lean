/-!
# Phases of a service

A service is created, brought up, runs, and is taken down again. `Phase.allows` is the table of
expected changes; a service that leaves the table still changes its phase, but says so in its log.
-/

namespace ConnectorLifecycle

/-- Where a service stands in its life. -/
inductive Phase where
  /-- Built and never started. -/
  | created
  /-- The connector is being brought up. -/
  | starting
  /-- The connector is up and its transport is known. -/
  | running
  /-- The connector is being taken down. -/
  | stopping
  /-- Nothing is held any more. -/
  | stopped
  /-- The last start did not succeed and nothing is held. -/
  | failed
  deriving DecidableEq, Repr

namespace Phase

instance : Inhabited Phase := ⟨created⟩

/-- The connector is up. -/
def isRunning (p : Phase) : Bool := p = running

/-- A new start may begin here. -/
def canStart : Phase → Bool
  | created | stopped | failed => true
  | starting | running | stopping => false

/-- The changes of phase that are expected. -/
def allows : Phase → Phase → Bool
  | created, starting | stopped, starting | failed, starting => true
  | starting, running | starting, failed => true
  | running, stopping | stopping, stopped => true
  | created, stopped | failed, stopped | stopped, stopped => true
  | _, _ => false

/-- The name of a phase in messages. -/
def text : Phase → String
  | created => "created"
  | starting => "starting"
  | running => "running"
  | stopping => "stopping"
  | stopped => "stopped"
  | failed => "failed"

/-- All phases, in the order of a successful life, a failed start last. -/
def all : List Phase := [created, starting, running, stopping, stopped, failed]

/-- The phase with a given name. -/
def ofText? (s : String) : Option Phase := all.find? fun p => p.text = s

/-- Every phase is found by its name. -/
theorem ofText?_text (p : Phase) : ofText? p.text = some p := by cases p <;> decide

/-- A start may begin exactly where the change to `starting` is expected. -/
theorem canStart_eq_allows (p : Phase) : p.canStart = p.allows starting := by cases p <;> rfl

end Phase

end ConnectorLifecycle
