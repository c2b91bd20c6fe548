import UniMrcp.Client.Steady

/-!
# What the handlers of a session do to its requests

A response or an event either leaves the active request, or it ends it with one
response to the application and the next request is taken, or it ends the
session: `Handled`.  A request that is dispatched by a registered session
either waits for something, or starts the termination, or is answered at once:
`Processed`.
-/

namespace UniMrcp.Client

open UniMrcp.Lib UniMrcp.Apt UniMrcp.Mrcp

/-- The application has its response to SESSION_TERMINATE, or the session is
not in the table of the client any more. -/
def Note.ends : Note → Bool
  | .response r => r.request == .sessionTerminate
  | .removed => true
  | _ => false

def Session.terminated (s : Session) : Bool := s.log.any Note.ends

/-- The message is the response to the active request. -/
def Session.controlEnds (s : Session) (message : MrcpMessage) : Bool :=
  message.startLine.messageType = .response &&
    (s.activeRequest.bind AppRequest.controlMessage).isSome

/-- The input ends the active request of a session: an answer or a discovery
that has failed, an MRCP response, or the last response that is waited for. -/
def Input.ends (profile : Profile) (s : Session) : Input → Bool
  | .answer reply => s.offer.any (fun offer =>
      match reply with
      | none => true
      | some descriptor =>
        if descriptor.accepted then
          -- nothing is waited for when the media of the answer has been processed
          (answerAccept profile s offer descriptor).any (·.subrequestCount = 0)
        else s.subrequestCount = 0)
  | .controlResponse message =>
    (mrcpClientChannelFindByName s message.channelId.resourceName).isSome && s.controlEnds message
  | .messageReceive _ message => s.controlEnds message
  | .discoverResponse descriptor => descriptor.isNone || s.subrequestCount = 1
  | .channelModify i _ => s.channelWaiting i && s.subrequestCount = 1
  | .terminationModify (.rtp j) _ _ =>
    s.slotWaiting j && (s.subrequestCount = 1 && s.state = .processingAnswer)
  | .terminationSubtract (.channel i) _ => s.terminationWaiting i && s.subrequestCount = 1
  | .topology _ => s.subrequestCount = 1 && s.state = .processingAnswer
  | _ => false

/-- What a handler may do with the active request; `ends` says whether it ends
it. -/
structure Handled (s : Session) (ends : Bool) (o : Outcome) : Prop where
  next : s.activeRequest.isSome = true → o.next = ends
  queue : o.session.requestQueue = s.requestQueue
  registered : o.session.registered = s.registered
  state : o.session.state = .terminating → s.state = .terminating
  grows : s.log <+: o.session.log
  kept : o.next = false →
    o.session.activeRequest = s.activeRequest ∨ o.session.terminated = true
  ended : o.next = true → ∃ response, s.activeRequest = some response.request ∧
    o.session.activeRequest = none ∧ o.session.disconnected = s.disconnected ∧
    o.session.log = s.log ++ [.response response]
  built : Built s → Built o.session

namespace Handled

variable {s s' : Session} {ends : Bool} {o : Outcome}

/-- The next request is not taken. -/
theorem unended (hqueue : s'.requestQueue = s.requestQueue)
    (hregistered : s'.registered = s.registered)
    (hstate : s'.state = .terminating → s.state = .terminating) (hgrows : s.log <+: s'.log)
    (hkept : s'.activeRequest = s.activeRequest ∨ s'.terminated = true)
    (hbuilt : Built s → Built s') : Handled s false (.keep s') :=
  ⟨fun _ => rfl, hqueue, hregistered, hstate, hgrows, fun _ => hkept, nofun, hbuilt⟩

theorem congr (h : Handled s ends o) {ends' : Bool} (hends : ends = ends') :
    Handled s ends' o := hends ▸ h

theorem keep (h : Steady s s') : Handled s false (.keep s') :=
  unended h.queue h.registered h.state h.grows (.inl h.active) fun hs => hs.steady h

/-- Requests are sent before the rest is done. -/
theorem precede (h : Steady s s') (ho : Handled s' ends o) : Handled s ends o where
  next := fun hsome => ho.next (h.active ▸ hsome)
  queue := ho.queue.trans h.queue
  registered := ho.registered.trans h.registered
  state := fun hs => h.state (ho.state hs)
  grows := h.log ▸ ho.grows
  kept := fun hnext => h.active ▸ ho.kept hnext
  ended := fun hnext => by
    have hended := ho.ended hnext
    rwa [h.active, h.disconnected, h.log] at hended
  built := fun hs => ho.built (hs.steady h)

/-- The status is for the response only. -/
theorem of_status {status : SigStatus} (ho : Handled { s with status := status } ends o) :
    Handled s ends o :=
  { ho with built := fun hs => ho.built ⟨hs.paired, hs.context⟩ }

/-- The application gets a response to the active request. -/
theorem respond {response : AppResponse} (hactive : s.activeRequest = some response.request)
    (status : SigStatus) (answer : Option Descriptor) :
    Handled s true ⟨{ s with activeRequest := none, status := status, answer := answer }.note
      (.response response), true⟩ where
  next := fun _ => rfl
  queue := rfl
  registered := rfl
  state := id
  grows := ⟨_, rfl⟩
  kept := fun hnext => by cases hnext
  ended := fun _ => ⟨response, hactive, rfl, rfl, rfl⟩
  built := fun hs => ⟨hs.paired, hs.context⟩

theorem sigResponseRaise (s : Session) : Handled s true (mrcpAppSigResponseRaise s true) := by
  unfold mrcpAppSigResponseRaise
  cases hactive : s.activeRequest with
  | none => exact { keep (.refl s) with next := fun hsome => by simp [hactive] at hsome }
  | some request => exact respond hactive _ s.answer

theorem terminateRaise (s : Session) (status : SigStatus) :
    Handled s false (mrcpAppSessionTerminateRaise s status) := by
  have hchannels : (s.channels.map (fun channel =>
      { channel with controlChannel := false })).map Channel.hasTermination =
      s.channels.map Channel.hasTermination := by
    rw [List.map_map]
    rfl
  unfold mrcpAppSessionTerminateRaise mrcpAppSigResponseRaise
  cases hactive : s.activeRequest with
  | none =>
    exact unended rfl rfl id ⟨_, rfl⟩
      (.inr (by simp [Session.note, Session.terminated, Note.ends]))
      fun hs => ⟨hs.paired.trans hchannels.symm, hs.context⟩
  | some request =>
    exact unended rfl rfl id ⟨_, (List.append_assoc _ _ _).symm⟩
      (.inr (by simp [Session.note, Session.terminated, Note.ends]))
      fun hs => ⟨hs.paired.trans hchannels.symm, hs.context⟩

theorem controlMessageRaise (s : Session) (channel : Nat) (message : MrcpMessage) :
    Handled s (s.controlEnds message) (mrcpAppControlMessageRaise s channel message) := by
  unfold mrcpAppControlMessageRaise Session.controlEnds
  cases message.startLine.messageType with
  | response =>
    cases hactive : s.activeRequest with
    | none => exact keep (.refl s)
    | some request =>
      dsimp only [Option.bind_some]
      cases request.controlMessage with
      | none => exact keep (.refl s)
      | some mrcpRequest => exact respond hactive s.status s.answer
  | event => exact unended rfl rfl id ⟨_, rfl⟩ (.inl rfl) fun hs => ⟨hs.paired, hs.context⟩
  | request | unknown => exact keep (.refl s)

theorem subrequestRemove (s : Session) {last : Session → Outcome}
    (hlast : Handled { s with subrequestCount := s.subrequestCount - 1 } ends
      (last { s with subrequestCount := s.subrequestCount - 1 })) :
    Handled s (s.subrequestCount = 1 && ends) (subrequestRemove s last) := by
  unfold UniMrcp.Client.subrequestRemove
  have hcount : Steady s { s with subrequestCount := s.subrequestCount - 1 } :=
    { Steady.refl s with }
  rcases hcases : s.subrequestCount with _ | _ | count
  · exact keep (.refl s)
  · simpa [hcases] using precede hcount hlast
  · simpa [hcases] using keep hcount

theorem ifWaiting (s : Session) (waiting : Bool) (r : Awaited) {last : Session → Outcome}
    (hlast : ∀ s', s'.state = s.state → Handled s' ends (last s')) :
    Handled s (waiting && (s.subrequestCount = 1 && ends)) (ifWaiting s waiting r last) := by
  cases waiting with
  | false => exact keep (.refl s)
  | true =>
    have hstate : (s.setWaiting false r).state = s.state := by cases r <;> rfl
    rw [Bool.true_and, ← setWaiting_subrequestCount s false r]
    exact precede (.setWaiting s false r) (subrequestRemove _ (hlast _ hstate))

theorem offerLast (agents : Agents) (s : Session) : Handled s false (offerLast agents s) :=
  keep (.offerSend agents s)

theorem mediaLast (agents : Agents) (s : Session) :
    Handled s (s.state = .processingAnswer) (mediaLast agents s) := by
  unfold UniMrcp.Client.mediaLast
  cases s.state with
  | generatingOffer => exact offerLast agents s
  | processingAnswer => exact sigResponseRaise s
  | none | terminating | discovering => exact keep (.refl s)

theorem answerStore (answer : Descriptor) (s : Session) :
    Handled s (s.subrequestCount = 0) (answerStore answer s) := by
  have hs : Steady s { s with answer := some answer } := { Steady.refl s with }
  unfold UniMrcp.Client.answerStore
  dsimp only
  split
  · next hcount =>
    rw [decide_eq_true hcount]
    exact precede hs (sigResponseRaise _)
  · next hcount =>
    rw [decide_eq_false hcount]
    exact keep hs

theorem answerProcess {profile : Profile} {descriptor : Option Descriptor}
    (h : mrcpClientSessionAnswerProcess profile s descriptor = some o) :
    Handled s ((Input.answer descriptor).ends profile s) o := by
  unfold mrcpClientSessionAnswerProcess at h
  split at h
  · next hoffer =>
    cases h
    exact (keep (.refl s)).congr (by simp [Input.ends, hoffer])
  · next hoffer =>
    cases h
    exact (of_status (sigResponseRaise { s with status := .failure })).congr
      (by simp [Input.ends, hoffer])
  · next hoffer =>
    split at h
    · next haccepted =>
      obtain ⟨s1, hs1, rfl⟩ := Option.map_eq_some_iff.mp h
      exact (of_status (precede (answerAccept_steady hs1) (answerStore _ s1))).congr
        (by simp [Input.ends, hoffer, haccepted, hs1])
    · next haccepted =>
      cases h
      exact (of_status (answerStore _ { s with status := .terminate })).congr
        (by simp [Input.ends, hoffer, haccepted])

theorem terminateEvent (s : Session) :
    Handled s false (.keep (mrcpClientSessionTerminateEventProcess s)) := by
  unfold mrcpClientSessionTerminateEventProcess
  split
  · exact keep (.refl s)
  · simp only
    split
    · exact unended rfl rfl id ⟨_, rfl⟩ (.inl rfl) fun hs => ⟨hs.paired, hs.context⟩
    · exact unended rfl rfl id List.prefix_rfl (.inl rfl) fun hs => ⟨hs.paired, hs.context⟩

theorem discoverResponse (profile : Profile) (s : Session) (descriptor : Option Descriptor) :
    Handled s ((Input.discoverResponse descriptor).ends profile s)
      (mrcpClientSessionDiscoverResponseProcess profile s descriptor) := by
  unfold mrcpClientSessionDiscoverResponseProcess
  split
  · next hnone => exact { keep (.refl s) with next := fun hsome => by simp [hnone] at hsome }
  · exact of_status (sigResponseRaise { s with status := .failure })
  · next request descriptor hactive =>
    have hanswer : Steady s { s with answer := discovered profile s.answer descriptor } :=
      { Steady.refl s with }
    exact (precede hanswer (subrequestRemove _ (respond hactive s.status none))).congr
      (by simp [Input.ends])

theorem terminationAdd {agents : Agents} {termination : TerminationRef}
    {descriptor : RtpDescriptor}
    (h : mrcpClientOnTerminationAdd agents s termination descriptor = some o) :
    Handled s false o := by
  unfold mrcpClientOnTerminationAdd at h
  cases termination with
  | channel i =>
    cases h
    exact (ifWaiting s _ _ fun s' _ => offerLast agents s').congr (by simp)
  | rtp j =>
    simp only at h
    split at h
    · obtain ⟨s1, hs1, h⟩ := Option.bind_eq_some_iff.mp h
      cases h
      exact (precede ((Steady.setWaiting s false (.slotAdd j)).trans (.slotMedia hs1))
        (subrequestRemove s1 (offerLast agents _))).congr (Bool.and_false _)
    · cases h
      exact keep (.refl s)

end Handled

variable {s : Session}

/-- Every handler of a response or an event. -/
theorem handle_handled {profile : Profile} {agents : Agents} {input : Input} {o : Outcome}
    (hinput : ∀ request, input ≠ .app request) (h : handle profile agents s input = some o) :
    Handled s (input.ends profile s) o := by
  cases input with
  | app request => exact absurd rfl (hinput request)
  | sessionId id =>
    cases h
    exact .keep { Steady.refl s with }
  | answer descriptor => exact .answerProcess h
  | terminateResponse =>
    cases h
    exact (Handled.subrequestRemove s (.terminateRaise _ _)).congr (Bool.and_false _)
  | terminateEvent | disconnect =>
    cases h
    exact .terminateEvent s
  | controlResponse message =>
    cases h
    unfold mrcpClientSessionControlResponseProcess
    split
    · next hnone => exact (Handled.keep (.refl s)).congr (by simp [Input.ends, hnone])
    · next i hsome =>
      exact (Handled.controlMessageRaise s i message).congr (by simp [Input.ends, hsome])
  | discoverResponse descriptor =>
    cases h
    exact .discoverResponse profile s descriptor
  | channelAdd i status =>
    cases h
    exact (Handled.ifWaiting s _ _ fun s' _ => .offerLast agents s').congr (by simp [Input.ends])
  | channelModify i status =>
    cases h
    exact (Handled.ifWaiting s _ _ fun s' _ => .of_status (.sigResponseRaise _)).congr
      (by simp [Input.ends])
  | channelRemove i status =>
    cases h
    exact (Handled.ifWaiting s _ _ fun s' _ => .terminateRaise s' _).congr (by simp [Input.ends])
  | messageReceive i message =>
    cases h
    exact .controlMessageRaise s i message
  | terminationAdd termination status descriptor => exact .terminationAdd h
  | terminationModify termination status descriptor =>
    cases h
    cases termination with
    | channel i => exact .keep (.refl s)
    | rtp j =>
      have hslot : Steady s (s.modifySlot j (fun slot => { slot with
          descriptor := if slot.waiting then some descriptor else slot.descriptor })) :=
        .modifySlot s j (fun _ => rfl)
      exact .precede hslot (.ifWaiting _ _ _ fun s' hstate => hstate ▸ Handled.mediaLast agents s')
  | terminationSubtract termination status =>
    cases h
    cases termination with
    | channel i =>
      exact (Handled.ifWaiting s _ _ fun s' _ => .sigResponseRaise s').congr (by simp [Input.ends])
    | rtp j =>
      exact (Handled.ifWaiting s _ _ fun s' _ => .terminateRaise s' _).congr (by simp [Input.ends])
  | topology status =>
    cases h
    exact .subrequestRemove s (.mediaLast agents _)

/-! ## Requests -/

theorem map_modify_set {α : Type} {p : α → Bool} {f : α → α} (hf : ∀ a, p (f a) = true)
    (l : List α) (i : Nat) : (l.modify i f).map p = (l.map p).set i true := by
  apply List.ext_getElem? fun j => ?_
  by_cases hij : i = j
  · subst hij
    cases hl : l[i]? with
    | none => simp [List.getElem?_eq_none_iff.mp hl]
    | some a => simp [hf, (List.getElem?_eq_some_iff.mp hl).1]
  · simp [hij]

theorem channelPush_calm (profile : Profile) (s : Session) (channel : ChannelParams) :
    Calm s (channelPush profile s channel) :=
  ⟨rfl, rfl, rfl, rfl, rfl, rfl, fun hs => by cases hs⟩

theorem terminationAdd_calm (s : Session) (i j : Nat) (termination : Termination) :
    Calm s (terminationAdd s i j termination) := by
  have hcontext : Calm s { s with context := true } := { Calm.refl s with }
  have hslot : ∀ (s : Session) (f : TerminationSlot → TerminationSlot),
      Calm s (s.modifySlot j f) := fun s f => { Calm.refl s with }
  exact ((hcontext.trans (Steady.await _ _).toCalm).trans (hslot _ _)).trans
    (Steady.await _ _).toCalm

theorem channelMedia_calm (s : Session) (i j : Nat) (channel : ChannelParams) :
    Calm s (channelMedia s i j channel) := by
  unfold channelMedia
  split
  · exact terminationAdd_calm s i j _
  · exact (Steady.bypassMedia s j _).toCalm

/-- The session of a new channel before the media is added: the channel has its
slot, and the slot has no RTP termination yet. -/
structure Pushed (s : Session) (channel : ChannelParams) (s' : Session) : Prop where
  context : s'.context = s.context
  channels : s'.channels.map Channel.hasTermination =
    s.channels.map Channel.hasTermination ++ [channel.termination.isSome]
  slots : s'.terminations.map TerminationSlot.termination =
    s.terminations.map TerminationSlot.termination ++ [false]

theorem Pushed.steady {s s' s'' : Session} {channel : ChannelParams} (h : Pushed s channel s')
    (hs : Steady s' s'') : Pushed s channel s'' :=
  ⟨hs.context.trans h.context, hs.channels.trans h.channels, hs.slots.trans h.slots⟩

theorem channelPush_pushed (profile : Profile) (s : Session) (channel : ChannelParams) :
    Pushed s channel (channelPush profile s channel) where
  context := rfl
  channels := by simp [channelPush, Session.stateSet, Channel.hasTermination]
  slots := by simp [channelPush, Session.stateSet]

theorem channelMedia_built {s s' : Session} {channel : ChannelParams} (hs : Built s)
    (h : Pushed s channel s') (i : Nat) :
    Built (channelMedia s' i s.terminations.length channel) := by
  unfold channelMedia
  split
  · rename_i termination htermination
    -- the slot gets its RTP termination, and there is a context
    refine Built.steady ?_ (Steady.await _ _)
    have hawait := h.steady (Steady.await s' (.terminationAdd i))
    have hslots : ((s'.await (.terminationAdd i)).terminations.modify s.terminations.length
        (fun slot => { slot with
          termination := true, descriptor := some (rtpDescriptorInit termination) })).map
        TerminationSlot.termination =
        s.terminations.map TerminationSlot.termination ++ [true] := by
      rw [map_modify_set (fun _ => rfl), hawait.slots]
      simp
    constructor
    · refine hslots.trans ?_
      rw [hs.paired]
      refine Eq.trans ?_ hawait.channels.symm
      rw [htermination]
      rfl
    · have hany := (any_termination _).trans (congrArg (List.any · id) hslots)
      simp only [List.any_append, List.any_cons, id, Bool.true_or, Bool.or_true] at hany
      exact hany.symm
  · rename_i htermination
    have hbypass := h.steady (.bypassMedia s' s.terminations.length channel.rtpDescriptor)
    constructor
    · rw [hbypass.slots, hbypass.channels, hs.paired, htermination]
      rfl
    · rw [hbypass.context, hs.context, any_termination, any_termination, hbypass.slots]
      simp

/-- A channel is added with its slot. -/
theorem channelCreate_calm (profile : Profile) (agents : Agents) (s : Session)
    (channel : ChannelParams) :
    Calm s (channelCreate profile agents s channel) ∧
      (Built s → Built (channelCreate profile agents s channel)) := by
  unfold channelCreate
  dsimp only
  have hawait := Steady.awaitIf (channelPush profile s channel) (profile.version != .v1)
    (.channelAdd s.channels.length)
  have hpushed := (channelPush_pushed profile s channel).steady hawait
  have hcalm := ((channelPush_calm profile s channel).trans hawait.toCalm).trans
    (channelMedia_calm _ s.channels.length s.terminations.length channel)
  split
  · refine ⟨hcalm.trans (Steady.offerSend agents _).toCalm, fun hs => ?_⟩
    exact (channelMedia_built hs hpushed _).steady (.offerSend agents _)
  · exact ⟨hcalm, fun hs => channelMedia_built hs hpushed _⟩

/-- What becomes of a request that a registered session dispatches. -/
inductive Processed (agents : Agents) (s : Session) (request : AppRequest) : Outcome → Prop where
  /-- it waits -/
  | sent {s' : Session} (h : Calm s s') (hbuilt : Built s → Built s') :
      Processed agents s request (.keep s')
  /-- the session is being terminated -/
  | terminating (h : request = .sessionTerminate) :
      Processed agents s request (.keep (mrcpClientSessionTerminate agents s))
  /-- it has been answered -/
  | ended {o : Outcome} {ends : Bool} (h : Handled s ends o) (hnext : o.next = true) :
      Processed agents s request o

variable {request : AppRequest}

theorem Processed.steady {agents : Agents} {s s' : Session} (h : Steady s s') :
    Processed agents s request (.keep s') :=
  .sent h.toCalm (fun hs => hs.steady h)

theorem resourceDiscover_processed (profile : Profile) (agents : Agents)
    (hactive : s.activeRequest = some request) :
    Processed agents s request (mrcpClientResourceDiscover profile agents s) := by
  unfold mrcpClientResourceDiscover
  have hstart : Steady s ({ s with answer := none }.stateSet .discovering) :=
    { Steady.refl s with state := fun hs => by cases hs }
  have hs := hstart.trans (.discoverSend profile agents _)
  dsimp only
  split
  · refine .ended (.precede hs (.of_status (Handled.sigResponseRaise _))) ?_
    simp [mrcpAppSigResponseRaise, hs.active.trans hactive]
  · exact .steady hs

theorem messageSend_processed (agents : Agents) {channel : Nat} {message : MrcpMessage}
    (hactive : s.activeRequest = some (.control channel message)) :
    Processed agents s (.control channel message)
      (mrcpClientMessageSend agents s channel message) := by
  unfold mrcpClientMessageSend
  split
  · refine .ended (.controlMessageRaise s channel _) ?_
    simp [mrcpAppControlMessageRaise, methodFailed, (mrcpResponseCreate_spec message).1, hactive,
      AppRequest.controlMessage]
  · have hid : Steady s { s with lastRequestId := s.lastRequestId + 1 } := { Steady.refl s with }
    exact .steady (hid.trans (.awaitIf _ _ _))

theorem requestProcess_processed (profile : Profile) (agents : Agents)
    (hactive : s.activeRequest = some request) :
    Processed agents s request (requestProcess profile agents s request) := by
  cases request with
  | sessionUpdate => exact .steady (.sessionUpdate agents s)
  | sessionTerminate => exact .terminating rfl
  | channelAdd channel =>
    unfold requestProcess mrcpClientChannelAdd
    dsimp only
    split
    · exact .steady (.channelModify agents s channel true)
    · obtain ⟨hcalm, hbuilt⟩ := channelCreate_calm profile agents s channel
      exact .sent hcalm hbuilt
  | channelRemove channel => exact .steady (.channelModify agents s channel false)
  | resourceDiscover => exact resourceDiscover_processed profile agents hactive
  | control channel message => exact messageSend_processed agents hactive

end UniMrcp.Client
