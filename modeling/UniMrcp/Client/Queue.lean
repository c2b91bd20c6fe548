import UniMrcp.Lib.Runs
import UniMrcp.Client.Handlers

/-!
# The queue of a client session

Requests of the application wait while another is active.  The queue must never
wait for nothing: as long as the session has not been terminated, a request in
the queue means that there is an active one.

A request that is answered takes the next from the queue, with one exception.
`mrcp_app_failure_message_raise` answers a request that is not sent and takes
none.  For a request that the application has just sent this does no harm, as
the queue is empty.  But a session that has been disconnected cancels what it
takes from the queue in the same way, and the requests behind it are left.
-/

namespace UniMrcp.Client

open UniMrcp.Lib UniMrcp.Lib.Runs UniMrcp.Apt UniMrcp.Mrcp

/-! ## Dispatch -/

/-- What becomes of a request that is dispatched. -/
inductive Dispatched (agents : Agents) (s : Session) (request : AppRequest) : Outcome → Prop where
  /-- the session is being terminated -/
  | ignored (h : s.state = .terminating) : Dispatched agents s request (.keep s)
  /-- the session is disconnected, or it could not be created -/
  | failed (status : SigStatus) (hstate : s.state ≠ .terminating)
      (h : s.disconnected = true ∨ s.registered = false) (hrequest : request ≠ .sessionTerminate) :
      Dispatched agents s request (mrcpAppFailureMessageRaise { s with status := status })
  /-- there is nothing to terminate -/
  | unregistered (h : s.registered = false) (hrequest : request = .sessionTerminate) :
      Dispatched agents s request (mrcpAppSigResponseRaise { s with status := .success } false)
  | processed {o : Outcome} (hstate : s.state ≠ .terminating)
      (hconnected : s.disconnected = true → request = .sessionTerminate)
      (h : Processed agents { s with registered := true, status := .success } request o) :
      Dispatched agents s request o

variable {s s' : Session} {request : AppRequest} {agents : Agents} {profile : Profile}
  {input : Agents × Input} {o : Outcome}

theorem dispatch_dispatched (profile : Profile) (agents : Agents)
    (hactive : s.activeRequest = some request) :
    Dispatched agents s request (mrcpAppRequestDispatch profile agents s request) := by
  unfold mrcpAppRequestDispatch
  split_ifs with hstate hdisconnected hregistered hterminate hselected
  · exact .ignored hstate
  · simp only [Bool.and_eq_true, bne_iff_ne] at hdisconnected
    exact .failed .cancel hstate (.inl hdisconnected.1) hdisconnected.2
  all_goals
    have hconnected : s.disconnected = true → request = .sessionTerminate := by
      simpa using hdisconnected
  · refine .processed hstate hconnected ?_
    have hs : { s with status := .success } =
      { s with registered := true, status := .success } := by
      rw [← hregistered]
    rw [hs]
    exact requestProcess_processed profile agents hactive
  · exact .unregistered (by simpa using hregistered) hterminate
  · exact .processed hstate hconnected (requestProcess_processed profile agents hactive)
  · exact .failed .failure hstate (.inr (by simpa using hregistered)) hterminate

/-- The session is left with a request that waits only behind another one. -/
structure Attended (s : Session) : Prop where
  queue : s.activeRequest = none → s.requestQueue = []
  registered : s.registered = false → s.activeRequest = none
  terminating : s.state = .terminating → s.activeRequest = some .sessionTerminate

/-- The invariant of a session. -/
def QueueInv (s : Session) : Prop := s.terminated = true ∨ Attended s

theorem terminated_of_grows (h : s.log <+: s'.log) (hs : s.terminated = true) :
    s'.terminated = true := by
  obtain ⟨notes, hnotes⟩ := h
  unfold Session.terminated at hs ⊢
  rw [← hnotes, List.any_append, hs, Bool.true_or]

/-- A request that is dispatched adds to the log and takes nothing from the
queue. -/
theorem Dispatched.grows (h : Dispatched agents s request o) :
    s.log <+: o.session.log ∧ o.session.requestQueue = s.requestQueue := by
  cases h with
  | ignored => exact ⟨List.prefix_rfl, rfl⟩
  | failed status =>
    unfold mrcpAppFailureMessageRaise
    split
    · exact ⟨List.prefix_rfl, rfl⟩
    · exact ⟨List.prefix_append _ _, rfl⟩
  | unregistered =>
    unfold mrcpAppSigResponseRaise
    split
    · exact ⟨List.prefix_rfl, rfl⟩
    · exact ⟨List.prefix_append _ _, rfl⟩
  | processed _ _ h =>
    cases h with
    | sent h => exact ⟨h.grows, h.queue⟩
    | terminating =>
      have h := Steady.sessionTerminate agents { s with registered := true, status := .success }
      exact ⟨h.grows, h.queue⟩
    | ended h => exact ⟨h.grows, h.queue⟩

theorem nextRequest_grows (profile : Profile) (agents : Agents) (queue : List AppRequest)
    (s : Session) : s.log <+: (nextRequest profile agents queue s).log := by
  induction queue generalizing s with
  | nil => exact List.prefix_rfl
  | cons request queue ih =>
    have hdispatch := (dispatch_dispatched profile agents
      (s := { s with activeRequest := some request, requestQueue := queue }) rfl).grows.1
    rw [nextRequest]
    split
    · exact hdispatch.trans (ih _)
    · exact hdispatch

/-- A response to SESSION_TERMINATE ends the session. -/
theorem terminated_of_response {notes : List Note} {response : AppResponse}
    (hlog : s.log = notes ++ [.response response])
    (hrequest : response.request = .sessionTerminate) : s.terminated = true := by
  simp [Session.terminated, hlog, Note.ends, hrequest]

/-- A request that is taken leaves the queue attended, unless it is answered by
a failure with others behind it. -/
theorem nextRequest_inv (profile : Profile) (agents : Agents) (queue : List AppRequest)
    (s : Session) (hstate : s.state ≠ .terminating)
    (hregistered : s.registered = false → queue.length ≤ 1)
    (hqueue : s.disconnected = true →
      queue.length ≤ 1 ∨ queue.head? = some .sessionTerminate) :
    QueueInv (nextRequest profile agents queue s) := by
  induction queue generalizing s with
  | nil => exact .inr ⟨fun _ => rfl, fun _ => rfl, fun h => absurd h hstate⟩
  | cons request queue ih =>
    rw [nextRequest]
    have hdispatched := dispatch_dispatched profile agents
      (s := { s with activeRequest := some request, requestQueue := queue }) rfl
    generalize mrcpAppRequestDispatch profile agents _ request = o at hdispatched ⊢
    cases hdispatched with
    | ignored h => exact absurd h hstate
    | failed status _ h hrequest =>
      -- there is nothing behind it
      have hshort : (request :: queue).length ≤ 1 := by
        rcases h with h | h
        · rcases hqueue h with hshort | hhead
          · exact hshort
          · exact absurd (Option.some.inj hhead) hrequest
        · exact hregistered h
      have hnil : queue = [] := by simpa using hshort
      exact .inr ⟨fun _ => hnil, fun _ => rfl, fun h => absurd h hstate⟩
    | unregistered _ hrequest =>
      exact .inl (terminated_of_response rfl hrequest)
    | processed _ hconnected h =>
      cases h with
      | sent h =>
        refine .inr ⟨fun hnone => ?_, fun hr => ?_, fun hs => absurd (h.state hs) hstate⟩
        · rw [Outcome.keep, if_neg (by simp), h.active] at hnone
          cases hnone
        · rw [Outcome.keep, if_neg (by simp), h.registered] at hr
          cases hr
      | terminating hrequest =>
        have h := Steady.sessionTerminate agents { s with
          activeRequest := some request, requestQueue := queue, registered := true,
          status := .success }
        rw [Outcome.keep, if_neg (by simp)]
        refine .inr ⟨fun hnone => ?_, fun hr => ?_, fun _ => ?_⟩
        · rw [h.active] at hnone
          cases hnone
        · rw [h.registered] at hr
          cases hr
        · rw [h.active, hrequest]
          rfl
      | ended h hnext =>
        rw [if_pos hnext]
        obtain ⟨response, hactive, -, hdisconnected, hlog⟩ := h.ended hnext
        by_cases hd : s.disconnected = true
        · have hrequest : response.request = .sessionTerminate :=
            (Option.some.inj hactive).symm.trans (hconnected hd)
          exact .inl (terminated_of_grows (nextRequest_grows profile agents queue o.session)
            (terminated_of_response hlog hrequest))
        · refine ih o.session (fun hs => hstate (h.state hs)) (fun hr => ?_) (fun hd' => ?_)
          · rw [h.registered] at hr
            cases hr
          · exact absurd (hdisconnected.symm.trans hd') hd

/-! ## One step -/

/-- The step takes a request that is cancelled while others wait behind it. -/
structure Cancels (profile : Profile) (s : Session) (input : Agents × Input) : Prop where
  terminated : s.terminated = false
  disconnected : s.disconnected = true
  active : s.activeRequest ≠ some .sessionTerminate
  ends : input.2.ends profile (s.replied (input.2.reply s)) = true
  waiting : 2 ≤ s.requestQueue.length
  first : s.requestQueue.head? ≠ some .sessionTerminate

theorem Attended.steady (h : Attended s) (hs : Steady s s') : Attended s' where
  queue := by rw [hs.active, hs.queue]; exact h.queue
  registered := by rw [hs.active, hs.registered]; exact h.registered
  terminating := fun hstate => by rw [hs.active]; exact h.terminating (hs.state hstate)

/-- A request of the application. -/
theorem appMessage_inv (profile : Profile) (agents : Agents) (request : AppRequest)
    (hs : Attended s) :
    QueueInv ((mrcpClientAppMessageProcess profile agents s request).finish profile agents) := by
  unfold mrcpClientAppMessageProcess
  split
  · rename_i hactive
    refine .inr ⟨fun hnone => ?_, hs.registered, hs.terminating⟩
    have hnone : s.activeRequest = none := hnone
    rw [hnone] at hactive
    cases hactive
  · rename_i hactive
    have hactive : s.activeRequest = none := by simpa using hactive
    have hstate : s.state ≠ .terminating := fun h => by
      have := hs.terminating h
      rw [hactive] at this
      cases this
    -- it is as if it were taken from a queue of one
    have hnext := nextRequest_inv profile agents [request] s hstate (fun _ => le_rfl)
      (fun _ => .inl le_rfl)
    have hs' : { s with activeRequest := some request } =
        { s with activeRequest := some request, requestQueue := [] } := by
      rw [← hs.queue hactive]
    have hqueue := (dispatch_dispatched profile agents
      (s := { s with activeRequest := some request, requestQueue := [] }) rfl).grows.2
    rw [hs', Outcome.finish, hqueue]
    exact hnext

theorem finish_grows (profile : Profile) (agents : Agents) (o : Outcome) :
    o.session.log <+: (o.finish profile agents).log := by
  unfold Outcome.finish
  split
  · exact nextRequest_grows profile agents _ _
  · exact List.prefix_rfl

theorem handle_grows {input : Input} (h : handle profile agents s input = some o) :
    s.log <+: o.session.log := by
  by_cases hinput : ∃ request, input = .app request
  · obtain ⟨request, rfl⟩ := hinput
    cases h
    unfold mrcpClientAppMessageProcess
    split
    · exact List.prefix_rfl
    · exact (dispatch_dispatched profile agents
        (s := { s with activeRequest := some request }) rfl).grows.1
  · exact (handle_handled (fun request hr => hinput ⟨request, hr⟩) h).grows

theorem step_grows (h : step profile s input = some s') : s.log <+: s'.log := by
  obtain ⟨o, ho, rfl⟩ := Option.map_eq_some_iff.mp h
  rw [← (Steady.replied s (input.2.reply s)).log]
  exact (handle_grows ho).trans (finish_grows profile input.1 o)

theorem step_inv (hs : QueueInv s) (hcancels : ¬ Cancels profile s input)
    (h : step profile s input = some s') : QueueInv s' := by
  have hgrows := step_grows h
  obtain ⟨o, ho, rfl⟩ := Option.map_eq_some_iff.mp h
  have hreplied := Steady.replied s (input.2.reply s)
  rcases hs with hs | hs
  · exact .inl (terminated_of_grows hgrows hs)
  have hs0 := hs.steady hreplied
  by_cases hinput : ∃ request, input.2 = .app request
  · obtain ⟨request, hrequest⟩ := hinput
    rw [hrequest] at ho hs0
    cases ho
    exact appMessage_inv profile input.1 request hs0
  have hhandled := handle_handled (fun request hr => hinput ⟨request, hr⟩) ho
  unfold Outcome.finish
  cases hnext : o.next with
  | false =>
    rcases hhandled.kept hnext with hactive | hterminated
    · refine .inr ⟨?_, ?_, fun hstate => ?_⟩
      · rw [if_neg (by simp), hactive, hhandled.queue]
        exact hs0.queue
      · rw [if_neg (by simp), hactive, hhandled.registered]
        exact hs0.registered
      · rw [if_neg (by simp)] at hstate ⊢
        rw [hactive]
        exact hs0.terminating (hhandled.state hstate)
    · exact .inl hterminated
  | true =>
    rw [hhandled.queue, hreplied.queue]
    obtain ⟨response, hactive, -, hdisconnected, hlog⟩ := hhandled.ended hnext
    by_cases hrequest : response.request = .sessionTerminate
    · exact .inl (terminated_of_grows (nextRequest_grows profile input.1 _ o.session)
        (terminated_of_response hlog hrequest))
    have hactive' : s.activeRequest = some response.request := hreplied.active.symm.trans hactive
    have hne : s.activeRequest ≠ some .sessionTerminate := fun heq =>
      hrequest (Option.some.inj (hactive'.symm.trans heq))
    by_cases hterminated : s.terminated = true
    · rw [Outcome.finish, if_pos hnext, hhandled.queue, hreplied.queue] at hgrows
      exact .inl (terminated_of_grows hgrows hterminated)
    refine nextRequest_inv profile input.1 s.requestQueue o.session (fun hstate => ?_)
      (fun hregistered => ?_) (fun hd => ?_)
    · exact hne (hreplied.active.symm.trans (hs0.terminating (hhandled.state hstate)))
    · have hnone := hs0.registered (hhandled.registered.symm.trans hregistered)
      rw [hactive] at hnone
      cases hnone
    · -- otherwise the step would cancel a request with others behind it
      by_contra hqueue
      simp only [not_or, not_le] at hqueue
      refine hcancels ⟨by simpa using hterminated, ?_, hne, ?_, hqueue.1, hqueue.2⟩
      · rw [← hd, hdisconnected, hreplied.disconnected]
      · rw [← hhandled.next (by rw [hactive]; rfl), hnext]

/-- The application is told of the failure, and that is all. -/
theorem nextRequest_cancel (profile : Profile) (agents : Agents) (queue : List AppRequest)
    (hstate : s.state ≠ .terminating) (hdisconnected : s.disconnected = true)
    (hrequest : request ≠ .sessionTerminate) :
    nextRequest profile agents (request :: queue) s =
      { s with activeRequest := none, requestQueue := queue, status := .cancel }.note
        (.response ⟨request, .cancel, request.controlMessage.map methodFailed, none⟩) := by
  simp [nextRequest, mrcpAppRequestDispatch, hstate, hdisconnected, hrequest,
    mrcpAppFailureMessageRaise, Outcome.keep]

/-- A cancelled request leaves the queue to itself. -/
theorem step_stalls (hs : Attended s) (hcancels : Cancels profile s input)
    (h : step profile s input = some s') :
    s'.terminated = false ∧ s'.requestQueue ≠ [] ∧ s'.activeRequest = none := by
  obtain ⟨o, ho, rfl⟩ := Option.map_eq_some_iff.mp h
  have hreplied := Steady.replied s (input.2.reply s)
  have hsome : s.activeRequest.isSome = true := by
    by_contra hnone
    have hwaiting := hcancels.waiting
    rw [hs.queue (by simpa using hnone)] at hwaiting
    exact absurd hwaiting (by decide)
  have hinput : ∀ request, input.2 ≠ .app request := by
    intro request hrequest
    have hends := hcancels.ends
    rw [hrequest] at hends
    cases hends
  have hhandled := handle_handled hinput ho
  have hnext : o.next = true := by
    rw [hhandled.next (hreplied.active ▸ hsome), hcancels.ends]
  obtain ⟨response, hactive, -, hdisconnected, hlog⟩ := hhandled.ended hnext
  have hrequest : response.request ≠ .sessionTerminate := fun heq => by
    rw [hreplied.active, heq] at hactive
    exact hcancels.active hactive
  have hstate : o.session.state ≠ .terminating := fun hstate =>
    hcancels.active (hs.terminating (hreplied.state (hhandled.state hstate)))
  have hqueue := hcancels.waiting
  have hfirst := hcancels.first
  rw [Outcome.finish, if_pos hnext, hhandled.queue, hreplied.queue]
  match hq : s.requestQueue with
  | [] | [_] =>
    rw [hq] at hqueue
    exact absurd hqueue (by simp)
  | first :: second :: rest =>
    rw [hq] at hfirst
    have hfirst : first ≠ .sessionTerminate := fun heq => hfirst (by rw [heq]; rfl)
    rw [nextRequest_cancel profile input.1 (second :: rest) hstate
      (by rw [hdisconnected, hreplied.disconnected, hcancels.disconnected]) hfirst]
    refine ⟨?_, by simp [Session.note], rfl⟩
    have hterminated := hcancels.terminated
    rw [Session.terminated] at hterminated
    simp [Session.terminated, Session.note, hlog, hreplied.log, hterminated, Note.ends, hrequest,
      hfirst]

/-- Without a request that is cancelled while others wait behind it the queue
never waits for nothing, and with one it does. -/
theorem requestQueue_attended_iff (profile : Profile) (run : List (Agents × Input)) :
    Always (step profile)
        (fun s => s.terminated = false → s.requestQueue ≠ [] → s.activeRequest.isSome = true)
        mrcpClientSessionCreate run ↔
      Along (step profile) (fun s input => ¬ Cancels profile s input)
        mrcpClientSessionCreate run := by
  refine always_iff_along ?_ (fun s input s' hs _ hcancels h => step_inv hs hcancels h)
    ?_ run _ (.inr ⟨fun _ => rfl, fun _ => rfl, fun h => by cases h⟩) (Along.true run _)
  · intro s hs hterminated hqueue
    rcases hs with hs | hs
    · rw [hs] at hterminated
      cases hterminated
    · rw [Option.isSome_iff_ne_none]
      exact fun hnone => hqueue (hs.queue hnone)
  · intro s input s' hs _ hattended h hcancels
    rcases hs with hs | hs
    · rw [hcancels.terminated] at hs
      cases hs
    · obtain ⟨hterminated, hqueue, hactive⟩ := step_stalls hs hcancels h
      have hsome := hattended hterminated hqueue
      rw [hactive] at hsome
      cases hsome

/-- The connection to the server is lost while an update is in progress and two
more wait. -/
def updatesWhenDisconnected : List (Agents × Input) :=
  [.app (.channelAdd bypassRecognizer), .channelAdd 0 true, .answer (some recognizerAnswer),
    .channelModify 0 true, .app .sessionUpdate, .app .sessionUpdate, .app .sessionUpdate,
    .disconnect 0, .answer (some recognizerAnswer), .channelModify 0 true].map
      (fun input => (willingAgents, input))

/-- The first of the two is cancelled, and the other is left in the queue. -/
theorem update_left_in_queue :
    ∃ s ∈ after (step (clientProfile .v2)) mrcpClientSessionCreate updatesWhenDisconnected,
      s.terminated = false ∧ s.requestQueue = [.sessionUpdate] ∧ s.activeRequest = none := by
  decide +kernel

end UniMrcp.Client
