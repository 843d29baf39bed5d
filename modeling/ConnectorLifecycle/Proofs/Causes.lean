import ConnectorLifecycle.Notice

/-!
# Causes on one line

Two records tell of an error with all its causes: the one of a connector that answered its stop with
an error, which writes a chain out, and the one of a start that failed, which begins with the
message of the failure and goes on from each error to the one under it. `Joined` says how texts are
told on one line, whoever writes it, and `Descent` which texts are met on the way down from an
error. The causes of a failure are the texts under it, and both records tell theirs in the same
words.
-/

namespace ConnectorLifecycle

/-- A line tells texts: each one once and in order, with a colon and a blank between two. -/
inductive Joined : List String → String → Prop
  /-- There is nothing to tell. -/
  | nothing : Joined [] ""
  /-- A text stands by itself. -/
  | alone (text : String) : Joined [text] text
  /-- A text stands before the line of the others. -/
  | above (text : String) {next : String} {rest : List String} {line : String}
      (under : Joined (next :: rest) line) : Joined (text :: next :: rest) (text ++ ": " ++ line)

/-- Texts are told by one line, which puts the separator between them. -/
theorem joined_iff {texts : List String} {line : String} :
    Joined texts line ↔ line = ": ".intercalate texts := by
  constructor
  · intro h
    induction h with
    | nothing => rfl
    | alone text => rw [String.intercalate_singleton]
    | above text under ih => rw [String.intercalate_cons_cons, ← ih]
  · rintro rfl
    induction texts with
    | nil => exact .nothing
    | cons text rest ih =>
      cases rest with
      | nil =>
        rw [String.intercalate_singleton]
        exact .alone text
      | cons next rest =>
        rw [String.intercalate_cons_cons]
        exact .above text ih

namespace CauseChain

/-- The error right under another one, with all that is under it. -/
def source? (chain : CauseChain) : Option CauseChain :=
  match chain.causes with
  | [] => none
  | text :: rest => some ⟨text, rest⟩

/-- The line of a chain tells its texts, however many there are. -/
theorem joined_ofList_iff {texts : List String} {line : String} :
    Joined texts line ↔ line = (ofList texts).line := by
  rw [joined_iff]
  cases texts with
  | nil =>
    rw [CauseChain.line, ofList, CauseChain.texts, String.intercalate_nil,
      String.intercalate_singleton]
  | cons text rest => rfl

end CauseChain

/-- The texts that are met from an error on, going from each one to the one under it. -/
inductive Descent : Option CauseChain → List String → Prop
  /-- There is no error any more. -/
  | bottom : Descent none []
  /-- An error is met before those under it. -/
  | down {chain : CauseChain} {rest : List String} (under : Descent chain.source? rest) :
      Descent (some chain) (chain.outermost :: rest)

/-- On the way down a chain each of its texts is met once, the outermost first. -/
theorem descent_texts (chain : CauseChain) : Descent (some chain) chain.texts := by
  obtain ⟨text, rest⟩ := chain
  induction rest generalizing text with
  | nil => exact .down .bottom
  | cons next rest ih => exact .down (ih next)

/-- There is one way down from an error. -/
theorem Descent.unique {source : Option CauseChain} {texts texts' : List String}
    (h : Descent source texts) (h' : Descent source texts') : texts = texts' := by
  induction h generalizing texts' with
  | bottom =>
    cases h'
    rfl
  | down under ih =>
    cases h' with
    | down under' => rw [ih under']

namespace Failure

/-- The error that brought a failure about. -/
def source? : Failure → Option CauseChain
  | notBuilt _ chain | notStarted _ chain | noTransport _ chain => some chain
  | unresolved _ cause => some ⟨cause.message, []⟩
  | noListener _ | notRunning _ _ | unknownKind _ | unknownContainer _ => none

/-- The causes of a failure are those of the error under it. -/
theorem causes_eq (f : Failure) : f.causes = f.source?.elim [] CauseChain.texts := by
  cases f <;> rfl

/-- The causes of a failure are the texts that are met on the way down from it. -/
theorem descent_iff {f : Failure} {texts : List String} :
    Descent f.source? texts ↔ texts = f.causes := by
  have whole : Descent f.source? f.causes := by
    rw [causes_eq]
    cases f.source? with
    | none => exact .bottom
    | some chain => exact descent_texts chain
  constructor
  · exact fun h => h.unique whole
  · rintro rfl
    exact whole

/-- A line tells a failure: its message, and after it the line of the causes if there are any. -/
inductive Told (f : Failure) : String → Prop
  /-- The failure has no cause. -/
  | bare (uncaused : f.source? = none) : Told f f.message
  /-- An error brought the failure about. -/
  | caused {chain : CauseChain} {line : String} (source : f.source? = some chain)
      (joined : Joined chain.texts line) : Told f (f.message ++ ": " ++ line)

/-- Adding texts to a line one after the other adds the line of the texts. -/
theorem foldl_causes (out text : String) (rest : List String) :
    (text :: rest).foldl (fun out cause => out ++ ": " ++ cause) out =
      out ++ ": " ++ ": ".intercalate (text :: rest) := by
  -- What is written so far changes with every text, so it is arbitrary in the induction.
  induction rest generalizing out text with
  | nil => rw [String.intercalate_singleton]; rfl
  | cons next rest ih =>
    rw [List.foldl_cons, ih, String.intercalate_cons_cons]
    simp only [String.append_assoc]

/-- The line of a failure with a cause ends with the line of the cause. -/
theorem line_of_source {f : Failure} {chain : CauseChain} (source : f.source? = some chain) :
    f.line = f.message ++ ": " ++ chain.line := by
  rw [line, causes_eq, source]
  exact foldl_causes f.message chain.outermost chain.causes

/-- The line of a failure without a cause is its message. -/
theorem line_of_uncaused {f : Failure} (uncaused : f.source? = none) : f.line = f.message := by
  rw [line, causes_eq, uncaused]
  rfl

/-- A failure is told by one line, its own. -/
theorem told_iff {f : Failure} {line : String} : f.Told line ↔ line = f.line := by
  constructor
  · rintro (uncaused | ⟨source, joined⟩)
    · exact (line_of_uncaused uncaused).symm
    · rw [line_of_source source, joined_iff.mp joined]
      rfl
  · rintro rfl
    cases source : f.source? with
    | none =>
      rw [line_of_uncaused source]
      exact .bare source
    | some chain =>
      rw [line_of_source source]
      exact .caused source (joined_iff.mpr rfl)

end Failure

/-- The record of an event says what is said of the event, and nothing else. -/
theorem Notice.record_endpoint_iff {logger : Logger} {event : EndpointEvent}
    {label told line : String} (reads : event.text = label ++ told) :
    (Notice.endpoint logger event).record =
        ⟨event.level, logger.target, "[" ++ logger.service ++ "] " ++ label ++ line⟩ ↔
      line = told := by
  have written : (Notice.endpoint logger event).record =
      ⟨event.level, logger.target, "[" ++ logger.service ++ "] " ++ label ++ told⟩ := by
    rw [Notice.record, reads]
    simp only [String.append_assoc]
    rfl
  rw [written, LogRecord.mk.injEq, String.append_right_inj]
  constructor
  · rintro ⟨_, _, h⟩
    exact h.symm
  · rintro rfl
    exact ⟨rfl, rfl, rfl⟩

end ConnectorLifecycle
