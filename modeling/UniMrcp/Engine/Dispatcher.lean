import UniMrcp.Engine.Handlers
import UniMrcp.Lib.Runs

/-!
# Dispatching between the client and the engine

The abstract view of a state machine of the engine layer.  It knows a request
by its id and its method, and nothing of headers:

* `View` is what the dispatching looks at;
* `Effect` lists everything that one message can do to it, with what is passed
  on to the engine and to the client;
* `Log` is the history of a channel, as the client and the engine see it;
* `Resource` is a machine of the source, and `Refines` says that each of its
  updates is an `Effect`.

`UniMrcp.Engine.RecogEffect` and `UniMrcp.Engine.SynthEffect` prove `Refines`
for the two machines.  What holds of a channel over whole runs is then proved
once, by cases on `Effect`, with `always_of_effect`.
-/

namespace UniMrcp.Engine

open UniMrcp.Lib UniMrcp.Mrcp

/-! ## Messages -/

/-- What the dispatching knows of a request, and of the messages about it. -/
structure Request where
  id : UInt32
  method : Nat
  deriving Repr, DecidableEq

/-- A request with a new id is sent. -/
theorem nodup_ids_append {sent : List Request} {r : Request} (h : (sent.map Request.id).Nodup)
    (hnew : ∀ q ∈ sent, q.id ≠ r.id) : ((sent ++ [r]).map Request.id).Nodup := by
  simpa [List.nodup_append, h] using hnew

/-- The request id and the method id of a message. -/
def requestOf (message : MrcpMessage) : Request :=
  ⟨message.startLine.requestId, message.startLine.methodId⟩

/-- What a response says about the request: whether it is IN-PROGRESS, and
whether the status is 200. -/
structure Answer where
  inProgress : Bool
  success : Bool
  deriving Repr, DecidableEq

/-- A message as a machine receives it. -/
inductive Signal where
  | request (request : Request)
  | response (request : Request) (answer : Answer)
  | event (event : Request)
  | unknown
  deriving Repr, DecidableEq

/-- The abstract message. -/
def signalOf (message : MrcpMessage) : Signal :=
  match message.startLine.messageType with
  | .request => .request (requestOf message)
  | .response => .response (requestOf message)
      ⟨message.startLine.requestState == .inProgress,
        message.startLine.statusCode == statusCodeSuccess⟩
  | .event => .event (requestOf message)
  | .unknown => .unknown

/-- A message as a machine passes it on: requests go to the engine, the rest
goes to the client. -/
inductive Emission where
  | toEngine (request : Request)
  | response (request : Request)
  | event (event : Request)
  deriving Repr, DecidableEq

/-- The branches of `state_machine_on_message_dispatch`. -/
def emissionOf (message : MrcpMessage) : Emission :=
  match message.startLine.messageType with
  | .request => .toEngine (requestOf message)
  | .response => .response (requestOf message)
  | _ => .event (requestOf message)

/-- What a call passes on. -/
def Callback.emission : Callback → Option Emission
  | .onDispatch message => some (emissionOf message)
  | .onDeactivate => none

/-! ## The view of a machine -/

/-- The methods and events of a resource that the dispatching knows. -/
structure Methods where
  /-- RECOGNIZE or SPEAK -/
  main : Nat
  stop : Nat
  /-- BARGE-IN-OCCURRED, where the resource has it -/
  bargeIn : List Nat
  /-- the methods whose response handlers follow the pointer to the request in
  progress -/
  follows : List Nat
  count : Nat
  /-- START-OF-INPUT or SPEECH-MARKER -/
  marker : Nat
  /-- RECOGNITION-COMPLETE or SPEAK-COMPLETE -/
  completion : Nat
  eventCount : Nat
  /-- the request in progress is kept when it completes -/
  keeps : Bool
  /-- an event tells the client that a pending request has been answered -/
  announces : Bool
  main_lt : main < count
  main_ne_stop : main ≠ stop
  main_not_bargeIn : main ∉ bargeIn
  main_not_follows : main ∉ follows
  marker_ne : marker ≠ completion

/-- What the dispatching looks at in a machine: `stored` is `recog` or
`speaker`, and `busy` is the test that makes a RECOGNIZE or SPEAK wait. -/
structure View where
  active : Option Request
  isPending : Bool
  stored : Option Request
  busy : Bool
  queue : List Request
  deriving Repr, DecidableEq

namespace View

/-- The next pending request goes to the engine. -/
def pop (v : View) : View × List Emission :=
  match v.queue with
  | [] => (v, [])
  | request :: queue =>
    ({ v with active := some request, isPending := true, queue := queue },
      [.toEngine request])

theorem pop_cases (v : View) :
    v.queue = [] ∧ v.pop = (v, []) ∨
      ∃ request queue, v.queue = request :: queue ∧
        v.pop = ({ v with active := some request, isPending := true, queue := queue },
          [.toEngine request]) := by
  unfold pop
  cases hqueue : v.queue with
  | nil => exact .inl ⟨rfl, rfl⟩
  | cons request queue => exact .inr ⟨request, queue, rfl, rfl⟩

/-- The engine has answered the active request. -/
def begin (v : View) (active : Request) (answer : Answer) : View :=
  if answer.inProgress then { v with stored := some active, busy := true } else v

theorem begin_eq (v : View) (active : Request) (answer : Answer) :
    v.begin active answer = { v with
      stored := if answer.inProgress then some active else v.stored
      busy := answer.inProgress || v.busy } := by
  unfold begin
  cases answer.inProgress <;> rfl

/-- The active request has the id of the response. -/
def Awaits (v : View) (r : Request) : Prop := ∃ a, v.active = some a ∧ a.id = r.id

/-- The request in progress has the id of the event. -/
def Stores (v : View) (r : Request) : Prop := ∃ s, v.stored = some s ∧ s.id = r.id

/-- A STOP waits for its response. -/
def Stops (k : Methods) (v : View) : Prop := ∃ a, v.active = some a ∧ a.method = k.stop

instance (v : View) (r : Request) : Decidable (v.Awaits r) :=
  match h : v.active with
  | none => isFalse (by simp [Awaits, h])
  | some a => decidable_of_iff (a.id = r.id) (by simp [Awaits, h])

instance (v : View) (r : Request) : Decidable (v.Stores r) :=
  match h : v.stored with
  | none => isFalse (by simp [Stores, h])
  | some s => decidable_of_iff (s.id = r.id) (by simp [Stores, h])

instance (k : Methods) (v : View) : Decidable (v.Stops k) :=
  match h : v.active with
  | none => isFalse (by simp [Stops, h])
  | some a => decidable_of_iff (a.method = k.stop) (by simp [Stops, h])

end View

/-- The stored request may be given up only when nothing is in progress. -/
def StoredKept (v : View) (stored : Option Request) : Prop :=
  stored = v.stored ∨ v.busy = false ∧ stored = none

/-- What one message can do. -/
inductive Effect (k : Methods) : View → Signal → View → List Emission → Prop where
  | unknown (v : View) : Effect k v .unknown v []
  | ignoredRequest (v : View) (r : Request) (hmethod : k.count ≤ r.method) :
      Effect k v (.request r) v []
  | dispatched (v : View) (r : Request) (stored : Option Request)
      (hmethod : r.method < k.count) (hfree : r.method = k.main → v.busy = false)
      (hstored : StoredKept v stored) (hfollows : r.method ∈ k.follows → stored.isSome) :
      Effect k v (.request r) { v with active := some r, stored := stored } [.toEngine r]
  | enqueued (v : View) (r : Request) (hmain : r.method = k.main) (hbusy : v.busy = true) :
      Effect k v (.request r) { v with active := none, queue := v.queue ++ [r] } [.response r]
  | replied (v : View) (r : Request) (stored : Option Request) (queue : List Request)
      (hmain : r.method ≠ k.main) (hstored : StoredKept v stored)
      (hqueue : queue.Sublist v.queue) :
      Effect k v (.request r) { v with active := none, stored := stored, queue := queue }
        [.response r]
  | ignoredResponse (v : View) (r : Request) (answer : Answer)
      (h : ¬ v.Awaits r ∨ k.count ≤ r.method) : Effect k v (.response r answer) v []
  | mainAnswered (v : View) (a r : Request) (answer : Answer) (hactive : v.active = some a)
      (hid : a.id = r.id) (hmain : r.method = k.main) (hpending : v.isPending = false) :
      Effect k v (.response r answer) { v.begin a answer with active := none } [.response r]
  | pendingAnswered (v : View) (a r : Request) (answer : Answer)
      (hactive : v.active = some a) (hid : a.id = r.id) (hmain : r.method = k.main)
      (hpending : v.isPending = true) :
      Effect k v (.response r answer) { v.begin a answer with isPending := false }
        (if k.announces then [.event ⟨a.id, k.marker⟩] else [])
  | stopped (v : View) (a r : Request) (answer : Answer) (queue : List Request)
      (hactive : v.active = some a) (hid : a.id = r.id) (hstop : r.method = k.stop)
      (hqueue : queue.Sublist v.queue) :
      Effect k v (.response r answer)
        (View.pop ⟨none, v.isPending, none, false, queue⟩).1
        (.response r :: (View.pop ⟨none, v.isPending, none, false, queue⟩).2)
  | barged (v : View) (a r : Request) (answer : Answer) (queue : List Request)
      (hactive : v.active = some a) (hid : a.id = r.id) (hbarge : r.method ∈ k.bargeIn)
      (hqueue : queue.Sublist v.queue) :
      Effect k v (.response r answer) ⟨none, v.isPending, none, false, queue⟩ [.response r]
  | answered (v : View) (a r : Request) (answer : Answer) (hactive : v.active = some a)
      (hid : a.id = r.id) (hmethod : r.method < k.count) (hmain : r.method ≠ k.main)
      (hstop : r.method ≠ k.stop) (hbarge : r.method ∉ k.bargeIn) :
      Effect k v (.response r answer) { v with active := none } [.response r]
  | ignoredEvent (v : View) (r : Request)
      (h : k.eventCount ≤ r.method ∨
        (r.method = k.marker ∨ r.method = k.completion) ∧ ¬ v.Stores r ∨
        r.method = k.completion ∧ v.Stops k) : Effect k v (.event r) v []
  | forwarded (v : View) (r : Request) (hcompletion : r.method ≠ k.completion)
      (hmarker : r.method = k.marker → v.Stores r) : Effect k v (.event r) v [.event r]
  | completed (v : View) (s r : Request) (hstored : v.stored = some s) (hid : s.id = r.id)
      (hcompletion : r.method = k.completion) (hstop : ¬ v.Stops k) :
      Effect k v (.event r)
        (View.pop { v with stored := if k.keeps then some s else none, busy := false }).1
        (.event r ::
          (View.pop { v with stored := if k.keeps then some s else none, busy := false }).2)

/-! ## The history of a channel -/

/-- What the client and the engine have seen. -/
structure Log where
  /-- the requests of the client -/
  sent : List Request
  /-- the requests the engine has got -/
  dispatched : List Request
  /-- those of them it has not answered -/
  outstanding : List Request
  /-- the ids of RECOGNIZE or SPEAK requests that the engine has reported to be
  in progress and neither completed nor stopped -/
  running : List UInt32
  /-- the responses the client has got -/
  responses : List Request
  /-- the events the client has got -/
  events : List Request
  deriving Repr, DecidableEq

namespace Log

def empty : Log := ⟨[], [], [], [], [], []⟩

/-- A message arrives.  A response is an answer if its request is
outstanding. -/
def receive (k : Methods) (log : Log) : Signal → Log
  | .request r => { log with sent := log.sent ++ [r] }
  | .response r answer =>
    if r ∈ log.outstanding then
      { log with
        outstanding := log.outstanding.erase r
        running :=
          if r.method = k.main ∧ answer.inProgress = true then log.running ++ [r.id]
          else if (r.method = k.stop ∨ r.method ∈ k.bargeIn) ∧ answer.success = true then []
          else log.running }
    else log
  | .event r =>
    if r.method = k.completion then
      { log with running := log.running.filter (fun id => id ≠ r.id) }
    else log
  | .unknown => log

/-- A message is passed on. -/
def emit (log : Log) : Emission → Log
  | .toEngine r =>
    { log with dispatched := log.dispatched ++ [r], outstanding := log.outstanding ++ [r] }
  | .response r => { log with responses := log.responses ++ [r] }
  | .event r => { log with events := log.events ++ [r] }

/-- An answer is taken off the requests that the engine has to answer. -/
theorem receive_response (k : Methods) {log : Log} {r : Request} (hr : r ∈ log.outstanding)
    (answer : Answer) : ∃ running, log.receive k (.response r answer) =
      { log with outstanding := log.outstanding.erase r, running := running } :=
  ⟨_, by simp only [receive, if_pos hr]; rfl⟩

/-- An event changes nothing but what is known to be in progress. -/
theorem receive_event (k : Methods) (log : Log) (r : Request) :
    ∃ running, log.receive k (.event r) = { log with running := running } := by
  unfold receive
  dsimp only
  split
  · exact ⟨_, rfl⟩
  · exact ⟨log.running, rfl⟩

/-- The history behind a message and what was passed on for it. -/
def next (k : Methods) (log : Log) (signal : Signal) (emissions : List Emission) : Log :=
  emissions.foldl emit (log.receive k signal)

end Log

/-! ## Machines of the source -/

/-- A state machine of the engine layer.  `busy` and `Consistent` look at the
state and at the pointer to the request in progress. -/
structure Resource (State : Type) where
  methods : Methods
  busy : State → Option MrcpMessage → Bool
  Consistent : State → Option MrcpMessage → Prop
  update : (Nat → UInt8) → StateMachine State → MrcpMessage → Checked (Update State)
  create : MrcpVersion → StateMachine State

/-- A message and what `apr_palloc` leaves in the memory it returns. -/
structure Received where
  message : MrcpMessage
  memory : Nat → UInt8

/-- A message with a resource, so that both header accessors have data: what
the parser, `mrcp_response_create` and `mrcp_event_create` make. -/
def Prepared (message : MrcpMessage) : Prop :=
  message.resource.isSome = true ∧ message.header.data.isSome = true

instance (message : MrcpMessage) : Decidable (Prepared message) :=
  inferInstanceAs (Decidable (_ ∧ _))

/-- A channel: its machine, its history and the pointer that ended it. -/
structure World (State : Type) where
  machine : StateMachine State
  log : Log
  fault : Option NullPointer

namespace Resource

variable {State : Type} (R : Resource State)

/-- The view of a machine. -/
def view (machine : StateMachine State) : View where
  active := machine.activeRequest.map requestOf
  isPending := machine.isPending
  stored := machine.inProgress.map requestOf
  busy := R.busy machine.state machine.inProgress
  queue := machine.queue.map requestOf

/-- The machine has not been deactivated, its state fits its pointer, and its
queue holds RECOGNIZE or SPEAK requests. -/
structure Live (machine : StateMachine State) : Prop where
  active : machine.active = true
  consistent : R.Consistent machine.state machine.inProgress
  queue : ∀ pending ∈ machine.queue,
    pending.startLine.messageType = .request ∧ pending.startLine.methodId = R.methods.main

/-- A response to the active request that makes its handler follow the pointer
to the request in progress. -/
def Follows (v : View) (signal : Signal) : Prop :=
  ∃ r answer, signal = .response r answer ∧ v.Awaits r ∧ r.method ∈ R.methods.follows

instance (v : View) : (signal : Signal) → Decidable (R.Follows v signal)
  | .response r answer =>
    decidable_of_iff (v.Awaits r ∧ r.method ∈ R.methods.follows)
      ⟨fun h => ⟨r, answer, rfl, h⟩, fun ⟨_, _, heq, h⟩ => by cases heq; exact h⟩
  | .request _ | .event _ | .unknown => isFalse (fun ⟨_, _, heq, _⟩ => by cases heq)

/-- What the outcome of an update may be. -/
def Admits (machine : StateMachine State) (message : MrcpMessage) :
    Checked (Update State) → Prop
  | .ok update =>
    R.Live update.machine ∧
      Effect R.methods (R.view machine) (signalOf message) (R.view update.machine)
        (update.callbacks.filterMap Callback.emission)
  | .error pointer =>
    pointer = .inProgress ∧ R.Follows (R.view machine) (signalOf message) ∧
        machine.inProgress = none ∨
      pointer ≠ .inProgress ∧ ¬ Prepared message

/-- Every update of the machine is an effect. -/
structure Refines : Prop where
  create : ∀ version, R.Live (R.create version)
  update : ∀ memory machine message, R.Live machine →
    R.Admits machine message (R.update memory machine message)

/-- One message on a channel.  A channel that has followed a NULL pointer takes
no more. -/
def step (w : World State) (input : Received) : Option (World State) :=
  if w.fault.isSome then none
  else
    match R.update input.memory w.machine input.message with
    | .ok update =>
      some ⟨update.machine,
        w.log.next R.methods (signalOf input.message)
          (update.callbacks.filterMap Callback.emission), none⟩
    | .error pointer => some { w with fault := some pointer }

/-- A new channel. -/
def start (version : MrcpVersion) : World State := ⟨R.create version, .empty, none⟩

variable {R}

theorem Live.queue_main {machine : StateMachine State} (hlive : R.Live machine) :
    ∀ r ∈ (R.view machine).queue, r.method = R.methods.main := by
  intro r hr
  obtain ⟨pending, hpending, rfl⟩ := List.mem_map.mp hr
  exact (hlive.queue pending hpending).2

/-- What a step can be: an effect, or the end of the channel. -/
theorem step_cases (href : R.Refines) {w w' : World State} {input : Received}
    (hlive : R.Live w.machine) (h : R.step w input = some w') :
    (∃ emissions, w'.fault = none ∧ R.Live w'.machine ∧
        Effect R.methods (R.view w.machine) (signalOf input.message) (R.view w'.machine)
          emissions ∧
        w'.log = w.log.next R.methods (signalOf input.message) emissions ∧
        ∃ update, R.update input.memory w.machine input.message = .ok update ∧
          w'.machine = update.machine) ∨
      ∃ pointer, w' = { w with fault := some pointer } ∧
        R.Admits w.machine input.message (.error pointer) := by
  have hadmits := href.update input.memory w.machine input.message hlive
  unfold step at h
  split at h
  · cases h
  · split at h
    · next update hupdate =>
      rw [hupdate] at hadmits
      cases h
      exact .inl ⟨_, rfl, hadmits.1, hadmits.2, rfl, update, hupdate, rfl⟩
    · next pointer hupdate =>
      rw [hupdate] at hadmits
      cases h
      exact .inr ⟨pointer, rfl, hadmits⟩

/-- The rule for invariants of a channel: what every effect keeps, on the
condition that the message met `P`, holds in every state of the run. -/
theorem always_of_effect (href : R.Refines) {I : View → Log → Prop}
    {P : World State → Received → Prop}
    (hstep : ∀ (w : World State) (input : Received) (update : Update State)
      (emissions : List Emission),
      R.update input.memory w.machine input.message = .ok update → R.Live w.machine →
      P w input → I (R.view w.machine) w.log →
      Effect R.methods (R.view w.machine) (signalOf input.message) (R.view update.machine)
        emissions →
      I (R.view update.machine) (w.log.next R.methods (signalOf input.message) emissions))
    (version : MrcpVersion) (inputs : List Received)
    (hstart : I (R.view (R.create version)) .empty)
    (h : Runs.Along R.step P (R.start version) inputs) :
    Runs.Always R.step (fun w => R.Live w.machine ∧ I (R.view w.machine) w.log)
      (R.start version) inputs := by
  refine Runs.always_of_along ?_ inputs (R.start version)
    ⟨href.create version, hstart⟩ h
  rintro w input w' ⟨hlive, hI⟩ hP hnext
  rcases step_cases href hlive hnext with
    ⟨emissions, -, hlive', heffect, hlog, update, hupdate, hmachine⟩ | ⟨pointer, rfl, -⟩
  · refine ⟨hlive', ?_⟩
    rw [hmachine] at heffect ⊢
    rw [hlog]
    exact hstep w input update emissions hupdate hlive hP hI heffect
  · exact ⟨hlive, hI⟩

end Resource

/-! ## Messages of a channel -/

/-- A request of an MRCPv2 client. -/
def clientRequest (resource : MrcpResource) (method : Nat) (id : UInt32) : MrcpMessage :=
  let message := mrcpRequestCreate (some resource) .v2 method
  { message with startLine := { message.startLine with requestId := id } }

def recogRequest := clientRequest .recognizer

def synthRequest := clientRequest .synthesizer

/-- The response that tells the client that its request is in progress. -/
def inProgress (request : MrcpMessage) : MrcpMessage :=
  setRequestState (mrcpResponseCreate request) .inProgress

/-- A message that finds fresh memory. -/
def received (message : MrcpMessage) : Received := ⟨message, fun _ => 0⟩

end UniMrcp.Engine
