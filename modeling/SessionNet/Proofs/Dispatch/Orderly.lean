import SessionNet.Proofs.Dispatch.Stages

/-!
# The order of a session's events

The events about one session come in an order: questions and refusals first, then at most one
announcement of its identity, then messages under that identity, and its end last. An automaton
with three states reads such a sequence event by event, and what it accepts is in order.
-/

namespace SessionNet

def ServerEvent.isEnd : ServerEvent → Bool
  | .sessionWillBeClosed _ _ _ => true
  | _ => false

/-- What the events about one session must satisfy as a whole. -/
structure Orderly (trace : List ServerEvent) : Prop where
  announced_once : (trace.filter fun event => event.announced?.isSome).length ≤ 1
  /-- A message comes after the announcement and carries the identity announced. -/
  read_after : ∀ before id identity? transport message after,
    trace = before ++ .sessionReadMessage id identity? transport message :: after →
    ∃ event ∈ before, ∃ identity, event.announced? = some identity ∧ identity? = some identity
  asked_before : ∀ before event after, trace = before ++ event :: after →
    event.announced?.isSome = true → ∀ later ∈ after, later.isQuestion = false
  ended_once : (trace.filter ServerEvent.isEnd).length ≤ 1
  ended_last : ∀ before event after, trace = before ++ event :: after →
    event.isEnd = true → after = []

/-- How far the events about a session have come. -/
inductive Progress where
  | waiting
  | announced (identity : String)
  | ended
  deriving DecidableEq

namespace Progress

/-- The progress after one more event, if that event may come now. -/
def advance : Progress → ServerEvent → Option Progress
  | .ended, _ => none
  | _, .sessionWillBeClosed _ _ _ => some .ended
  | .announced identity, .sessionReadMessage _ identity? _ _ =>
    if identity? = some identity then some (.announced identity) else none
  | .announced _, _ => none
  | .waiting, .sessionReadMessage _ _ _ _ => none
  | .waiting, event => some (event.announced?.elim .waiting .announced)

/-- The progress after a sequence of events. -/
def through (p : Progress) (trace : List ServerEvent) : Option Progress := trace.foldlM advance p

section Reading

variable {p q : Progress} {event : ServerEvent} {trace before after : List ServerEvent}
variable {identity : String}

theorem through_cons : p.through (event :: trace) = (p.advance event).bind (·.through trace) := rfl

theorem through_append : p.through (before ++ after) = (p.through before).bind (·.through after) :=
  List.foldlM_append

theorem through_concat (passes : p.through trace = some q) :
    p.through (trace ++ [event]) = q.advance event := by
  rw [through_append, passes, Option.bind_some, through_cons]
  cases q.advance event <;> rfl

theorem through_split (passes : p.through (before ++ event :: after) = some q) :
    ∃ here next, p.through before = some here ∧ here.advance event = some next ∧
      next.through after = some q := by
  rw [through_append, Option.bind_eq_some_iff] at passes
  rcases passes with ⟨here, first, rest⟩
  rw [through_cons, Option.bind_eq_some_iff] at rest
  rcases rest with ⟨next, step, last⟩
  exact ⟨here, next, first, step, last⟩

/-! ### What each state admits -/

theorem through_ended (passes : Progress.ended.through trace = some q) : trace = [] ∧ q = .ended := by
  cases trace with
  | nil => exact ⟨rfl, (Option.some.inj passes).symm⟩
  | cons event rest => cases passes

/-- After the announcement come messages under its identity, and perhaps the end. -/
theorem advance_announced {next : Progress}
    (step : (Progress.announced identity).advance event = some next) :
    event.announced? = none ∧ event.isQuestion = false ∧
      (next = .ended ∧ event.isEnd = true ∨ next = .announced identity ∧ event.isEnd = false) := by
  cases event <;> simp_all [advance, ServerEvent.announced?, ServerEvent.isQuestion, ServerEvent.isEnd]

theorem advance_waiting {next : Progress} (step : Progress.waiting.advance event = some next) :
    next = .ended ∧ event.isEnd = true ∧ event.announced? = none ∨
      next = .waiting ∧ event.isEnd = false ∧ event.announced? = none ∨
      ∃ identity, next = .announced identity ∧ event.isEnd = false ∧
        event.announced? = some identity := by
  cases hannounced : event.announced? <;> cases event <;>
    simp_all [advance, ServerEvent.announced?, ServerEvent.isEnd]

/-- Nothing is announced or asked after an announcement, and it is not forgotten. -/
theorem through_announced (passes : (Progress.announced identity).through trace = some q) :
    (∀ event ∈ trace, event.announced? = none ∧ event.isQuestion = false) ∧
      (q = .ended ∨ q = .announced identity) := by
  induction trace with
  | nil =>
    refine ⟨?_, .inr (Option.some.inj passes).symm⟩
    intro event member
    cases member
  | cons first rest ih =>
    rw [through_cons, Option.bind_eq_some_iff] at passes
    rcases passes with ⟨next, step, last⟩
    -- the first event either ends the session, and is the last one, or changes nothing
    rcases advance_announced step with ⟨silent, answer, ⟨rfl, -⟩ | ⟨rfl, -⟩⟩
    · rcases through_ended last with ⟨rfl, ended⟩
      refine ⟨?_, .inl ended⟩
      intro event member
      rw [List.mem_singleton.mp member]
      exact ⟨silent, answer⟩
    · refine ⟨?_, (ih last).2⟩
      intro event member
      rcases List.mem_cons.mp member with rfl | later
      · exact ⟨silent, answer⟩
      · exact (ih last).1 event later

/-- Where an identity is announced, some event announced it. -/
theorem announced_of_through (passes : Progress.waiting.through trace = some (.announced identity)) :
    ∃ event ∈ trace, event.announced? = some identity := by
  induction trace with
  | nil => cases passes
  | cons first rest ih =>
    rw [through_cons, Option.bind_eq_some_iff] at passes
    rcases passes with ⟨next, step, last⟩
    rcases advance_waiting step with ⟨rfl, -, -⟩ | ⟨rfl, -, -⟩ | ⟨name, rfl, -, announces⟩
    · cases (through_ended last).2
    · rcases ih last with ⟨event, member, announces⟩
      exact ⟨event, List.mem_cons_of_mem _ member, announces⟩
    · rcases (through_announced last).2 with ended | same
      · cases ended
      · cases same
        exact ⟨first, List.mem_cons_self, announces⟩

/-- A message is admitted only under the identity that was announced. -/
theorem advance_read {next : Progress} {id : SessionId} {identity? : Option String}
    {transport : TransportKind} {message : Message}
    (step : p.advance (.sessionReadMessage id identity? transport message) = some next) :
    ∃ identity, p = .announced identity ∧ identity? = some identity := by
  cases p with
  | waiting => cases step
  | ended => cases step
  | announced identity =>
    by_cases same : identity? = some identity
    · exact ⟨identity, rfl, same⟩
    · simp [advance, same] at step

/-! ### What is accepted is in order -/

theorem length_announcing (passes : Progress.waiting.through trace = some q) :
    (trace.filter fun event => event.announced?.isSome).length ≤ 1 := by
  induction trace with
  | nil => simp
  | cons first rest ih =>
    rw [through_cons, Option.bind_eq_some_iff] at passes
    rcases passes with ⟨next, step, last⟩
    rcases advance_waiting step with ⟨rfl, -, silent⟩ | ⟨rfl, -, silent⟩ | ⟨name, rfl, -, announces⟩
    · rcases through_ended last with ⟨rfl, -⟩
      simp [silent]
    · simpa [silent] using ih last
    · have quiet : rest.filter (fun event => event.announced?.isSome) = [] := by
        refine List.filter_eq_nil_iff.mpr ?_
        intro event member
        simp [((through_announced last).1 event member).1]
      simp [announces, quiet]

/-- The ends among the events are as many as the progress has passed. -/
theorem length_ends (passes : p.through trace = some q) :
    (trace.filter ServerEvent.isEnd).length + (if p = .ended then 1 else 0) =
      if q = .ended then 1 else 0 := by
  induction trace generalizing p with
  | nil =>
    rcases Option.some.inj passes with rfl
    simp
  | cons first rest ih =>
    rw [through_cons, Option.bind_eq_some_iff] at passes
    rcases passes with ⟨next, step, last⟩
    have later := ih last
    -- by what the first event does to the progress; after the end there is none
    cases p with
    | ended => cases step
    | waiting =>
      rcases advance_waiting step with ⟨rfl, ends, -⟩ | ⟨rfl, going, -⟩ | ⟨name, rfl, going, -⟩
      · simpa [ends] using later
      · simpa [going] using later
      · simpa [going] using later
    | announced identity =>
      rcases (advance_announced step).2.2 with ⟨rfl, ends⟩ | ⟨rfl, going⟩
      · simpa [ends] using later
      · simpa [going] using later

theorem orderly (passes : Progress.waiting.through trace = some q) : Orderly trace where
  announced_once := length_announcing passes
  read_after before id identity? transport message after split := by
    -- a message is passed only where an identity was announced, and with that identity
    rw [split] at passes
    rcases through_split passes with ⟨here, next, first, step, -⟩
    rcases advance_read step with ⟨identity, rfl, same⟩
    rcases announced_of_through first with ⟨event, member, announces⟩
    exact ⟨event, member, identity, announces, same⟩
  asked_before before event after split announces := by
    rw [split] at passes
    rcases through_split passes with ⟨here, next, -, step, last⟩
    cases here with
    | ended => cases step
    | announced identity => simp [(advance_announced step).1] at announces
    | waiting =>
      rcases advance_waiting step with ⟨-, -, silent⟩ | ⟨-, -, silent⟩ | ⟨name, rfl, -, -⟩
      · simp [silent] at announces
      · simp [silent] at announces
      · exact fun later member => ((through_announced last).1 later member).2
  ended_once := by
    have ends := length_ends passes
    split at ends <;> split at ends <;> omega
  ended_last before event after split ends := by
    rw [split] at passes
    rcases through_split passes with ⟨here, next, -, step, last⟩
    -- an end leads to the end whatever came before, and nothing passes after it
    have past : next = .ended := by
      cases here with
      | ended => cases step
      | announced identity =>
        rcases (advance_announced step).2.2 with ⟨past, -⟩ | ⟨-, going⟩
        · exact past
        · simp [ends] at going
      | waiting =>
        rcases advance_waiting step with ⟨past, -, -⟩ | ⟨-, going, -⟩ | ⟨_, -, going, -⟩
        · exact past
        · simp [ends] at going
        · simp [ends] at going
    subst past
    exact (through_ended last).1

end Reading

end Progress

/-! ## The events about a session -/

/-- The event of an occurrence. -/
def Occurrence.event? : Occurrence → Option ServerEvent
  | .event happened _ => some happened
  | .closed _ _ => none

namespace Server

/-- The events about a session, oldest first. -/
def eventsOf (srv : Server) (id : SessionId) : List ServerEvent :=
  (srv.history.reverse.filterMap Occurrence.event?).filter fun event => event.about? = some id

section Events

variable {srv : Server} {id : SessionId} {event : ServerEvent} {delivered : Bool}

theorem eventsOf_record :
    (srv.record (.event event delivered)).eventsOf id =
      if event.about? = some id then srv.eventsOf id ++ [event] else srv.eventsOf id := by
  by_cases about : event.about? = some id <;> simp [eventsOf, record, Occurrence.event?, about]

/-- The end of a session shows in the history, but is no event. -/
theorem eventsOf_closed {other : SessionId} {reason : CloseReason} :
    (srv.record (.closed other reason)).eventsOf id = srv.eventsOf id := by
  simp [eventsOf, record, Occurrence.event?]

end Events

end Server

end SessionNet
