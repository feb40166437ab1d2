import Ginkgo.Transition.Run

/-!
# Feeds

Events arrive in a queue and a consumer handles them in order, each with an answer from
outside and with sight of everything that has arrived so far; other changes of its state
may come in between. In whatever order arrivals and handling alternate, no event is lost,
doubled or overtaken (`Transition.Feed.run_stream`), and what every handled event and
every other change preserves of the log and the state holds after the run
(`Transition.Feed.run_relates`).
-/

namespace Transition

/-- An event that has been handled, the answer it was handled with and the state in which
it was. -/
structure Handled (Event Answer State : Type*) where
  event : Event
  answer : Answer
  before : State

/-- A stream on its way to a consumer: what has not arrived yet, what waits in the queue and
what has been handled. -/
structure Feed (Event Answer State : Type*) where
  ahead : List Event
  queue : List Event := []
  log : List (Handled Event Answer State) := []
  state : State

/-- What happens to a feed: an event arrives, the first one in the queue is handled, or the state
changes otherwise. -/
inductive Feed.Act (Answer Change : Type*) where
  | arrive
  | handle (answer : Answer)
  | change (change : Change)

namespace Feed

variable {Event Answer Change State : Type*}

/-- The events that have been handled. -/
def handled (feed : Feed Event Answer State) : List Event := feed.log.map Handled.event

/-- Everything that has arrived. -/
def arrived (feed : Feed Event Answer State) : List Event := feed.handled ++ feed.queue

/-- The events that have arrived and those that are still to come. -/
def stream (feed : Feed Event Answer State) : List Event := feed.arrived ++ feed.ahead

variable (consume : List Event → Event → Answer → State → State)
  (alter : State → Change → State)

/-- One step: the next event arrives, the first event in the queue is handled, or the state
changes in another way. -/
def step (feed : Feed Event Answer State) : Act Answer Change → Feed Event Answer State
  | .arrive =>
      match feed.ahead with
      | [] => feed
      | event :: ahead => { feed with ahead, queue := feed.queue ++ [event] }
  | .handle answer =>
      match feed.queue with
      | [] => feed
      | event :: queue =>
          { feed with
            queue
            log := feed.log ++ [⟨event, answer, feed.state⟩]
            state := consume feed.arrived event answer feed.state }
  | .change change => { feed with state := alter feed.state change }

variable {consume alter}

/-- The stream stays what it is. -/
theorem step_stream (feed : Feed Event Answer State) (act : Act Answer Change) :
    (feed.step consume alter act).stream = feed.stream := by
  obtain ⟨ahead, queue, log, state⟩ := feed
  cases act with
  | arrive =>
      cases ahead with
      | nil => rfl
      | cons event ahead => simp [step, stream, arrived, handled]
  | handle answer =>
      cases queue with
      | nil => rfl
      | cons event queue => simp [step, stream, arrived, handled]
  | change change => rfl

/-- **Nothing is lost, doubled or overtaken.** -/
theorem run_stream (feed : Feed Event Answer State) (acts : List (Act Answer Change)) :
    (run (step consume alter) feed acts).stream = feed.stream := by
  induction acts generalizing feed with
  | nil => rfl
  | cons act acts ih =>
      rw [run_cons, ih]
      exact step_stream feed act

/-- Everything has arrived and has been handled. -/
structure Drained (feed : Feed Event Answer State) : Prop where
  arrived : feed.ahead = []
  handled : feed.queue = []

/-- **A run that drains its feed has handled the whole stream.** -/
theorem handled_of_drained {feed : Feed Event Answer State} {acts : List (Act Answer Change)}
    (drained : (run (step consume alter) feed acts).Drained) :
    (run (step consume alter) feed acts).handled = feed.stream := by
  have whole := @run_stream _ _ _ _ consume alter feed acts
  simpa [stream, arrived, drained.arrived, drained.handled] using whole

/-- **The rule for a log.** A relation of the log and the state that every handled event and
every other change preserves, under a condition that the steps of the run meet, holds after
the run. -/
theorem run_relates (relation : List (Handled Event Answer State) → State → Prop)
    {condition : Feed Event Answer State → Act Answer Change → Prop}
    {feed : Feed Event Answer State}
    (handles : ∀ now event queue answer, now.stream = feed.stream → now.queue = event :: queue →
      condition now (.handle answer) → relation now.log now.state →
      relation (now.log ++ [⟨event, answer, now.state⟩])
        (consume now.arrived event answer now.state))
    (changes : ∀ now change, condition now (.change change) → relation now.log now.state →
      relation now.log (alter now.state change))
    (initial : relation feed.log feed.state)
    {acts : List (Act Answer Change)} (each : EachStep (step consume alter) condition feed acts) :
    relation (run (step consume alter) feed acts).log (run (step consume alter) feed acts).state := by
  have preserves : ∀ now act,
      now.stream = feed.stream ∧ relation now.log now.state → condition now act →
        (step consume alter now act).stream = feed.stream ∧
          relation (step consume alter now act).log (step consume alter now act).state := by
    rintro now act ⟨same, related⟩ meets
    refine ⟨(step_stream now act).trans same, ?_⟩
    cases act with
    | arrive =>
        unfold step
        cases now.ahead <;> exact related
    | handle answer =>
        cases waiting : now.queue with
        | nil => simpa only [step, waiting] using related
        | cons event queue =>
            simpa only [step, waiting] using handles now event queue answer same waiting meets related
    | change change => exact changes now change meets related
  exact (always_of_eachStep preserves ⟨rfl, initial⟩ each).last.2

end Feed

end Transition
