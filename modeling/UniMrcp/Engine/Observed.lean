import UniMrcp.Engine.Dispatcher

/-!
# Machines under observation

A state machine of the engine layer next to a log of what it lets the client
see.  The log is kept from the messages alone, so that it says what happened
without a look at the machine.
-/

namespace UniMrcp.Engine

open UniMrcp.Lib UniMrcp.Mrcp

/-- A machine, the log of its calls and the pointer that ended it. -/
structure Observation (State Log : Type) where
  machine : StateMachine State
  log : Log
  fault : Option NullPointer

/-- How a machine takes its inputs, and what is written down of its calls. -/
structure Observed (State Input Log : Type) where
  outcome : StateMachine State → Input → Checked (Update State)
  note : Log → Input → List Callback → Log

namespace Observed

variable {State Input Log : Type} (M : Observed State Input Log)

/-- One input.  A machine that has followed a NULL pointer takes no more. -/
def step (w : Observation State Log) (input : Input) : Option (Observation State Log) :=
  if w.fault.isSome then none
  else
    match M.outcome w.machine input with
    | .ok update => some ⟨update.machine, M.note w.log input update.callbacks, none⟩
    | .error pointer => some { w with fault := some pointer }

variable {M}

/-- What a step can be: an update, or the end. -/
theorem step_cases {w w' : Observation State Log} {input : Input} (h : M.step w input = some w') :
    (∃ update, M.outcome w.machine input = .ok update ∧
        w' = ⟨update.machine, M.note w.log input update.callbacks, none⟩) ∨
      ∃ pointer, M.outcome w.machine input = .error pointer ∧
        w' = { w with fault := some pointer } := by
  unfold step at h
  split at h
  · cases h
  · split at h
    · next update hupdate => exact .inl ⟨update, hupdate, (Option.some.inj h).symm⟩
    · next pointer hupdate => exact .inr ⟨pointer, hupdate, (Option.some.inj h).symm⟩

end Observed

/-- The message goes to the client, unless the machine has been deactivated. -/
def responseCallback (active : Bool) (message : MrcpMessage) : Callback :=
  if active then .onDispatch message else .onDeactivate

/-- The active request has the id of the response. -/
def Answers {State : Type} (machine : StateMachine State) (message active : MrcpMessage) : Prop :=
  machine.activeRequest = some active ∧ active.requestId = message.requestId

theorem eventDispatch_eq {State : Type} (machine : StateMachine State) (message : MrcpMessage) :
    eventDispatch machine message =
      ⟨machine, if machine.active then [.onDispatch message] else [], machine.active⟩ := by
  unfold eventDispatch
  cases machine.active <;> rfl

theorem completionCauseDefault_ok {resource : MrcpResource} {message message' : MrcpMessage}
    (h : completionCauseDefault resource message = .ok message') :
    message'.startLine = message.startLine := by
  rcases completionCauseDefault_cases resource message with ⟨caused, hok, hline⟩ | ⟨herror, -⟩
  · cases hok.symm.trans h
    exact hline
  · exact nomatch herror.symm.trans h

/-- A call that passes an event on does not pass on a response. -/
theorem ne_responseCallback {active : Bool} {event reply : MrcpMessage}
    (hevent : event.startLine.messageType = .event)
    (hreply : reply.startLine.messageType = .response) :
    Callback.onDispatch event ∉ [responseCallback active reply] := by
  intro h
  cases active with
  | false => exact nomatch List.mem_singleton.mp h
  | true =>
    obtain rfl := Callback.onDispatch.inj (List.mem_singleton.mp h)
    exact nomatch hevent.symm.trans hreply

/-- Every update that a handler has is a move. -/
def Gives {State : Type} (Move : StateMachine State → List Callback → Prop)
    (outcome : Checked (Update State)) : Prop :=
  ∀ update, outcome = .ok update → Move update.machine update.callbacks

section Gives

variable {State α : Type} {Move : StateMachine State → List Callback → Prop}

theorem Gives.ok {update : Update State} (h : Move update.machine update.callbacks) :
    Gives Move (.ok update) := by
  rintro _ ⟨⟩
  exact h

theorem Gives.bind {x : Checked α} {f : α → Checked (Update State)}
    (h : ∀ a, x = .ok a → Gives Move (f a)) : Gives Move (x >>= f) := by
  intro update hok
  obtain ⟨a, ha, hf⟩ := Checked.bind_eq_ok.mp hok
  exact h a ha update hf

end Gives

theorem reportInProgress_ok {State : Type} {memory : Nat → UInt8} {machine : StateMachine State}
    {message reported : MrcpMessage} (h : reportInProgress memory machine message = .ok reported) :
    ∃ request, machine.inProgress = some request ∧ reported.startLine = message.startLine := by
  rcases reportInProgress_cases memory machine message with
    ⟨reported', hok, hline, -, hsome⟩ | ⟨herror, -⟩ | ⟨herror, -⟩
  · obtain ⟨request, hrequest⟩ := Option.isSome_iff_exists.mp hsome
    cases hok.symm.trans h
    exact ⟨request, hrequest, hline⟩
  · exact nomatch herror.symm.trans h
  · exact nomatch herror.symm.trans h

end UniMrcp.Engine
