import UniMrcp.Engine.RecogEffect
import UniMrcp.Engine.SynthEffect

/-!
# The pending queue is served

The queue is looked at when the request in progress completes or is stopped.
`queue_served` says for which runs a queue that is not empty has a RECOGNIZE
or SPEAK ahead of it that will end so: one in progress, or one at the engine.
-/

namespace UniMrcp.Engine

open UniMrcp.Lib UniMrcp.Mrcp

/-- A pending request has one ahead of it that is in progress or waits for the
answer of the engine. -/
def QueueServed (k : Methods) (v : View) (log : Log) : Prop :=
  v.queue ≠ [] → v.busy = true ∨ ∃ m ∈ log.outstanding, m.method = k.main

instance (k : Methods) (v : View) (log : Log) : Decidable (QueueServed k v log) :=
  inferInstanceAs (Decidable (_ → _))

/-- While the request taken from the queue waits for its answer and others are
pending, the client sends nothing, and the engine begins the request. -/
def QueueKept (k : Methods) (v : View) : Signal → Prop
  | .request _ => v.queue = [] ∨ v.busy = true
  | .response r answer => v.queue ≠ [] → v.busy = false → v.Awaits r →
      r.method = k.main ∧ answer.inProgress = true
  | .event _ | .unknown => True

instance (k : Methods) (v : View) : (signal : Signal) → Decidable (QueueKept k v signal)
  | .request _ => inferInstanceAs (Decidable (_ ∨ _))
  | .response r answer => inferInstanceAs (Decidable (v.queue ≠ [] → v.busy = false →
      v.Awaits r → r.method = k.main ∧ answer.inProgress = true))
  | .event _ | .unknown => isTrue trivial

/-- A BARGE-IN-OCCURRED that the engine answers removes every pending request. -/
def BargeEmpties {State : Type} (k : Methods) (machine : StateMachine State) : Signal → Prop
  | .response r _ => r.method ∈ k.bargeIn → ∀ active ∈ machine.activeRequest,
      active.requestId = r.id → remaining active machine.queue = []
  | .request _ | .event _ | .unknown => True

instance {State : Type} (k : Methods) (machine : StateMachine State) :
    (signal : Signal) → Decidable (BargeEmpties k machine signal)
  | .response r _ => inferInstanceAs (Decidable (r.method ∈ k.bargeIn →
      ∀ active ∈ machine.activeRequest, active.requestId = r.id →
        remaining active machine.queue = []))
  | .request _ | .event _ | .unknown => isTrue trivial

/-! ## The invariant -/

/-- The request ahead of the queue is in progress, or it is the active one. -/
def QueueInv (k : Methods) (v : View) (log : Log) : Prop :=
  v.queue ≠ [] → v.busy = true ∨
    ∃ a, v.active = some a ∧ a ∈ log.outstanding ∧ a.method = k.main

section Step

variable {k : Methods} {v v' : View} {log : Log} {emissions : List Emission}

theorem QueueInv.served (h : QueueInv k v log) : QueueServed k v log := by
  intro hqueue
  rcases h hqueue with hbusy | ⟨a, -, hmem, hmain⟩
  · exact .inl hbusy
  · exact .inr ⟨a, hmem, hmain⟩

theorem queueInv_pop (hmain : ∀ r ∈ v.queue, r.method = k.main) (log : Log) :
    QueueInv k v.pop.1 (v.pop.2.foldl Log.emit log) := by
  rcases v.pop_cases with ⟨hqueue, hpop⟩ | ⟨r, queue, hqueue, hpop⟩
  · rw [hpop]
    intro hne
    exact absurd hqueue hne
  · rw [hpop]
    intro _
    refine .inr ⟨r, rfl, ?_, ?_⟩
    · exact List.mem_append_right _ (List.mem_singleton_self r)
    · exact hmain r (by rw [hqueue]; exact List.mem_cons_self)

theorem queueInv_request (h : QueueInv k v log) {r : Request} (hkept : QueueKept k v (.request r))
    (heffect : Effect k v (.request r) v' emissions) :
    QueueInv k v' (log.next k (.request r) emissions) := by
  have hbusy : v.queue ≠ [] → v.busy = true := fun hne => hkept.resolve_left hne
  cases heffect with
  | ignoredRequest => exact h
  | dispatched => exact fun hne => .inl (hbusy hne)
  | enqueued _ _ hbusy => exact fun _ => .inl hbusy
  | replied _ _ queue _ _ hqueue =>
    intro hne
    refine .inl (hbusy ?_)
    rintro hnil
    rw [hnil] at hqueue
    exact hne (List.sublist_nil.mp hqueue)

theorem queueInv_begin {a r : Request} {answer : Answer} {active : Option Request}
    {isPending : Bool} {log' : Log} (hactive : v.active = some a) (hid : a.id = r.id)
    (hkept : QueueKept k v (.response r answer)) :
    QueueInv k { v.begin a answer with active := active, isPending := isPending } log' := by
  rw [View.begin_eq]
  intro hne
  left
  cases hbusy : v.busy with
  | true => exact Bool.or_true _
  | false =>
    rw [(hkept hne hbusy ⟨a, hactive, hid⟩).2]
    rfl

section

variable {r : Request} (hmain : ∀ r ∈ v.queue, r.method = k.main) (h : QueueInv k v log)
include hmain h

theorem queueInv_response {answer : Answer} (hkept : QueueKept k v (.response r answer))
    (hbarge : v.Awaits r → r.method ∈ k.bargeIn → v'.queue = [])
    (heffect : Effect k v (.response r answer) v' emissions) :
    QueueInv k v' (log.next k (.response r answer) emissions) := by
  cases heffect with
  | ignoredResponse _ _ hignored =>
    intro hne
    rcases h hne with hbusy | ⟨a, hactive, hmem, ha⟩
    · exact .inl hbusy
    · refine .inr ⟨a, hactive, ?_, ha⟩
      have har : a ≠ r := by
        rintro rfl
        rcases hignored with hawaits | hcount
        · exact hawaits ⟨a, hactive, rfl⟩
        · have := k.main_lt
          omega
      show a ∈ (log.receive k (.response r answer)).outstanding
      unfold Log.receive
      dsimp only
      split
      · exact (List.mem_erase_of_ne har).mpr hmem
      · exact hmem
  | mainAnswered a _ _ hactive hid => exact queueInv_begin hactive hid hkept
  | pendingAnswered a _ _ hactive hid => exact queueInv_begin hactive hid hkept
  | stopped a _ _ queue hactive hid hstop hqueue =>
    apply queueInv_pop
    intro q hq
    exact hmain q (hqueue.subset hq)
  | barged a _ _ queue hactive hid hmem hqueue =>
    intro hne
    exact absurd (hbarge ⟨a, hactive, hid⟩ hmem) hne
  | answered a _ _ hactive hid hcount hr =>
    intro hne
    left
    by_contra hbusy
    have hfree : v.busy = false := Bool.eq_false_of_not_eq_true hbusy
    exact hr (hkept hne hfree ⟨a, hactive, hid⟩).1

theorem queueInv_event (heffect : Effect k v (.event r) v' emissions) :
    QueueInv k v' (log.next k (.event r) emissions) := by
  obtain ⟨running, hreceive⟩ := Log.receive_event k log r
  have hlog : QueueInv k v (log.receive k (.event r)) := by
    rw [hreceive]
    exact h
  cases heffect with
  | ignoredEvent => exact hlog
  | forwarded => exact hlog
  | completed s _ hstored hid hcompletion hstop =>
    exact queueInv_pop
      (v := { v with stored := if k.keeps then some s else none, busy := false }) hmain _

end

end Step

/-! ## Runs -/

/-- The condition on a message of a channel. -/
def Resource.KeepsQueue {State : Type} (R : Resource State) (w : World State)
    (input : Received) : Prop :=
  QueueKept R.methods (R.view w.machine) (signalOf input.message) ∧
    BargeEmpties R.methods w.machine (signalOf input.message)

instance {State : Type} (R : Resource State) (w : World State) (input : Received) :
    Decidable (R.KeepsQueue w input) := inferInstanceAs (Decidable (_ ∧ _))

/-- The queue is served in every state. -/
def Resource.ServesQueue {State : Type} (R : Resource State) (w : World State) : Prop :=
  QueueServed R.methods (R.view w.machine) w.log

instance {State : Type} (R : Resource State) (w : World State) : Decidable (R.ServesQueue w) :=
  inferInstanceAs (Decidable (QueueServed _ _ _))

theorem Resource.always_served {State : Type} {R : Resource State} (href : R.Refines)
    (hbarge : ∀ memory machine message update active, R.update memory machine message =
        .ok update → message.startLine.messageType = .response →
      machine.activeRequest = some active → active.requestId = message.requestId →
      message.startLine.methodId ∈ R.methods.bargeIn →
      update.machine.queue = remaining active machine.queue)
    (version : MrcpVersion) (hstart : (R.view (R.create version)).queue = [])
    (inputs : List Received) (h : Runs.Along R.step R.KeepsQueue (R.start version) inputs) :
    Runs.Always R.step R.ServesQueue (R.start version) inputs := by
  have hinv := Resource.always_of_effect (I := QueueInv R.methods) href ?_ version inputs
    (fun hne => absurd hstart hne) h
  · exact hinv.mono (fun w hw => hw.2.served)
  · intro w input update emissions hupdate hlive hP hI heffect
    obtain ⟨hkept, hempties⟩ := hP
    revert hkept hempties heffect
    cases hsignal : signalOf input.message with
    | request r =>
      intro heffect hkept _
      exact queueInv_request hI hkept heffect
    | response r answer =>
      intro heffect hkept hempties
      refine queueInv_response hlive.queue_main hI hkept ?_ heffect
      rintro ⟨a, hactive, hid⟩ hmem
      obtain ⟨active, hsome, rfl⟩ := Option.map_eq_some_iff.mp hactive
      have htype : input.message.startLine.messageType = .response := by
        unfold signalOf at hsignal
        split at hsignal <;> first | assumption | cases hsignal
      rw [Resource.signalOf_response htype] at hsignal
      cases hsignal
      have hqueue := hbarge _ _ _ _ active hupdate htype hsome hid hmem
      rw [hempties hmem active hsome hid] at hqueue
      simp [Resource.view, hqueue]
    | event r =>
      intro heffect _ _
      exact queueInv_event hlive.queue_main hI heffect
    | unknown =>
      intro heffect _ _
      generalize R.view update.machine = v' at heffect ⊢
      cases heffect
      exact hI

/-- A queue that is not empty is served, in every run in which the request
ahead of it is begun and not lost. -/
theorem queue_served (version : MrcpVersion) (inputs : List Received) :
    (Runs.Along recognizer.step recognizer.KeepsQueue (recognizer.start version) inputs →
      Runs.Always recognizer.step recognizer.ServesQueue (recognizer.start version) inputs) ∧
    (Runs.Along synthesizer.step synthesizer.KeepsQueue (synthesizer.start version) inputs →
      Runs.Always synthesizer.step synthesizer.ServesQueue (synthesizer.start version)
        inputs) := by
  constructor
  · intro h
    refine Resource.always_served recognizer_refines ?_ version rfl inputs h
    intro _ _ _ _ _ _ _ _ _ hmem
    cases hmem
  · intro h
    refine Resource.always_served synthesizer_refines ?_ version rfl inputs h
    intro memory machine message update active hupdate htype hactive hid hmem
    have hupdate : synthStateUpdate memory machine message = .ok update := hupdate
    rw [synthStateUpdate, htype] at hupdate
    exact synthResponse_barge hactive hid (List.mem_singleton.mp hmem) hupdate

/-- Two requests wait; each is begun when the one before it has completed. -/
def servedRecognitions : List Received :=
  [received (recogRequest 3 1), received (inProgress (recogRequest 3 1)),
   received (recogRequest 3 2), received (recogRequest 3 3),
   received (mrcpEventCreate (recogRequest 3 1) 1), received (inProgress (recogRequest 3 2)),
   received (mrcpEventCreate (recogRequest 3 2) 1)]

def servedSpeeches : List Received :=
  [received (synthRequest 2 1), received (inProgress (synthRequest 2 1)),
   received (synthRequest 2 2), received (synthRequest 2 3),
   received (mrcpEventCreate (synthRequest 2 1) 1), received (inProgress (synthRequest 2 2)),
   received (synthRequest 6 4), received (mrcpResponseCreate (synthRequest 6 4))]

theorem queue_served_twice :
    Runs.Always recognizer.step recognizer.ServesQueue (recognizer.start .v2)
        servedRecognitions ∧
      Runs.Always synthesizer.step synthesizer.ServesQueue (synthesizer.start .v2)
        servedSpeeches :=
  ⟨(queue_served .v2 servedRecognitions).1 (by decide +kernel),
    (queue_served .v2 servedSpeeches).2 (by decide +kernel)⟩

/-- The engine refuses the request taken from the queue, and the next one stays
there. -/
def refusedRecognition : List Received :=
  [received (recogRequest 3 1), received (inProgress (recogRequest 3 1)),
   received (recogRequest 3 2), received (recogRequest 3 3),
   received (mrcpEventCreate (recogRequest 3 1) 1),
   received (mrcpResponseCreate (recogRequest 3 2))]

theorem queue_stalled :
    ∃ w, Runs.after recognizer.step (recognizer.start .v2) refusedRecognition = some w ∧
      (recognizer.view w.machine).queue = [⟨3, 3⟩] ∧ w.machine.state = .recognized ∧
      w.log.outstanding = [] ∧ ¬ recognizer.ServesQueue w := by
  refine ⟨_, rfl, ?_, ?_, ?_, ?_⟩ <;> decide +kernel

theorem Resource.Refines.always_live {State : Type} {R : Resource State} (href : R.Refines)
    (version : MrcpVersion) (inputs : List Received) :
    Runs.Always R.step (fun w => R.Live w.machine) (R.start version) inputs :=
  (Resource.always_of_effect (I := fun _ _ => True) href (fun _ _ _ _ _ _ _ _ _ => trivial)
    version inputs trivial (Runs.Along.true inputs _)).mono (fun _ h => h.1)

/-- Whatever clients and engines send, both machines are idle exactly while they
hold no request, and only RECOGNIZE or SPEAK requests wait. -/
theorem channels_live (version : MrcpVersion) (inputs : List Received) :
    Runs.Always recognizer.step (fun w => recognizer.Live w.machine) (recognizer.start version)
        inputs ∧
      Runs.Always synthesizer.step (fun w => synthesizer.Live w.machine)
        (synthesizer.start version) inputs :=
  ⟨recognizer_refines.always_live version inputs, synthesizer_refines.always_live version inputs⟩

end UniMrcp.Engine
