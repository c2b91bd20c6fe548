import UniMrcp.Client.Handlers

/-!
# Dispatch is not silent

A request of the application that has been dispatched must not be forgotten:
either the application has its response, or the session waits for something.
`Outstanding` says what that is: an answer of the signaling agent, a response
to the MRCP request, or sub-requests whose number is `subrequestCount`, so that
the last of their responses is known to be the last.

The handlers return a status, and none of it is looked at.  `Taken` is the
condition that nothing was lost this way: there is an offer where one is
needed, and the signaling agent has taken the request.
-/

namespace UniMrcp.Client

open UniMrcp.Lib UniMrcp.Apt UniMrcp.Mrcp

/-! ## Sub-requests -/

/-- The second session has sent sub-requests, and has counted them. -/
def Counts (s s' : Session) : Prop :=
  ∃ sent : List Awaited, s'.awaited = s.awaited ++ sent ∧ (∀ r ∈ sent, r.counted = true) ∧
    s'.subrequestCount = s.subrequestCount + sent.length

namespace Counts

variable {s s' s'' : Session}

theorem refl (s : Session) : Counts s s := ⟨[], by simp, by simp, rfl⟩

theorem trans (h : Counts s s') (h' : Counts s' s'') : Counts s s'' := by
  obtain ⟨sent, hawaited, hcounted, hcount⟩ := h
  obtain ⟨more, hawaited', hcounted', hcount'⟩ := h'
  refine ⟨sent ++ more, by rw [hawaited', hawaited, List.append_assoc], fun r hr => ?_, ?_⟩
  · exact (List.mem_append.mp hr).elim (hcounted r) (hcounted' r)
  · rw [hcount', List.length_append]
    omega

theorem of_eq (hawaited : s'.awaited = s.awaited)
    (hcount : s'.subrequestCount = s.subrequestCount) : Counts s s' :=
  ⟨[], by simp [hawaited], by simp, hcount⟩

theorem awaitIf (s : Session) (sent : Bool) {r : Awaited} (hr : r.counted = true) :
    Counts s (s.awaitIf sent r) := by
  cases sent with
  | false => exact refl s
  | true =>
    refine ⟨[r], await_awaited s r, by simpa using hr, ?_⟩
    rw [Session.awaitIf, if_pos rfl, await_subrequestCount, if_pos hr]
    rfl

theorem foldl {α : Type} {body : Session → α → Session} (hbody : ∀ s a, Counts s (body s a))
    (l : List α) (s : Session) : Counts s (l.foldl body s) := foldl_related refl trans hbody l s

theorem channelsTerminate (s : Session) : Counts s (channelsTerminate s) := by
  refine foldl (fun s i => ?_) _ s
  unfold channelTerminate
  split
  · exact refl s
  · exact (awaitIf s _ rfl).trans (awaitIf _ _ rfl)

theorem slotsTerminate (s : Session) : Counts s (slotsTerminate s) := by
  unfold UniMrcp.Client.slotsTerminate
  split
  · exact foldl (fun s j => awaitIf s _ rfl) _ s
  · exact refl s

theorem discoverSend (profile : Profile) (agents : Agents) (s : Session) :
    Counts s (discoverSend profile agents s) := by
  unfold UniMrcp.Client.discoverSend
  dsimp only
  split
  · exact foldl (fun s _ => awaitIf s _ rfl) _ s
  · exact awaitIf s _ rfl

theorem channelPush (profile : Profile) (s : Session) (channel : ChannelParams) :
    Counts (s.stateSet .generatingOffer) (channelPush profile s channel) := of_eq rfl rfl

theorem channelMedia (s : Session) (i j : Nat) (channel : ChannelParams) :
    Counts s (channelMedia s i j channel) := by
  unfold UniMrcp.Client.channelMedia
  split
  · have hcontext : Counts s { s with context := true } := of_eq rfl rfl
    have hslot : ∀ (s : Session) (f : TerminationSlot → TerminationSlot),
        Counts s (s.modifySlot j f) := fun s f => of_eq rfl rfl
    exact ((hcontext.trans (awaitIf _ true rfl)).trans (hslot _ _)).trans (awaitIf _ true rfl)
  · unfold bypassMedia
    split
    · exact of_eq rfl rfl
    · exact refl s

end Counts

/-! ## What is left of a request -/

section

variable (profile : Profile) (agents : Agents) (s : Session) (request : AppRequest) (s' : Session)

/-- The application has its response. -/
def Responded : Prop :=
  ∃ response : AppResponse, response.request = request ∧ s'.log = s.log ++ [.response response]

/-- The session waits for an answer, for the response to the MRCP request, or
for sub-requests. -/
def Outstanding : Prop :=
  s'.activeRequest = some request ∧ ∃ sent, s'.awaited = s.awaited ++ sent ∧
    (sent = [.answer] ∨ (∃ message, sent = [.control message]) ∨
      sent ≠ [] ∧ (∀ r ∈ sent, r.counted = true) ∧ s'.subrequestCount = sent.length)

/-- The request is answered or outstanding. -/
def Pursued : Prop :=
  Responded s request s' ∨ Outstanding s request s'

/-- The request finds an offer where it needs one, and the signaling agent
takes it. -/
def Taken : AppRequest → Bool
  | .sessionUpdate | .channelRemove _ => s.offer.isSome && agents.offer
  | .sessionTerminate => agents.terminate
  | .channelAdd channel =>
    if (mrcpClientChannelFind s channel.id).isSome then s.offer.isSome && agents.offer
    else profile.version != .v1 || channel.termination.isSome || agents.offer
  | .resourceDiscover => true
  | .control channel _ => s.id.isEmpty || s.hasControlChannel channel || agents.control

/-- The request is answered by a failure, before anything is sent. -/
def Refused : Bool :=
  (s.disconnected && request != .sessionTerminate) ||
    (!s.registered && (request == .sessionTerminate || !agentsSelected profile agents s))

end

section Silence

variable {agents : Agents} {s s' : Session} {request : AppRequest}

/-- The active request has been ended. -/
theorem responded_of_handled {o : Outcome} (hactive : s.activeRequest = some request)
    {ends : Bool} (h : Handled s ends o) (hnext : o.next = true) :
    Responded s request o.session := by
  obtain ⟨response, hresponse, -, -, hlog⟩ := h.ended hnext
  exact ⟨response, Option.some.inj (hresponse.symm.trans hactive), hlog⟩

theorem awaited_of_outstanding (h : Outstanding s request s') : s'.awaited ≠ s.awaited := by
  obtain ⟨-, sent, hsent, h⟩ := h
  intro hawaited
  have hnil : sent = [] := by
    rw [hawaited] at hsent
    simpa using hsent
  rcases h with rfl | ⟨message, rfl⟩ | ⟨hne, -⟩
  · cases hnil
  · cases hnil
  · exact hne hnil

/-- Nothing has been sent and nothing has been told. -/
theorem silent (hlog : s'.log = s.log) (hawaited : s'.awaited = s.awaited) :
    ¬ Pursued s request s' := by
  rintro (⟨response, -, hresponse⟩ | h)
  · rw [hlog] at hresponse
    simp at hresponse
  · exact awaited_of_outstanding h hawaited

/-- A request to the signaling agent or to the resource is outstanding if it has
been taken. -/
theorem awaitIf_outstanding_iff {r : Awaited} (hr : r = .answer ∨ ∃ message, r = .control message)
    (sent : Bool) (hlog : s'.log = s.log) (hawaited : s'.awaited = s.awaited)
    (hactive : s'.activeRequest = some request) :
    Pursued s request (s'.awaitIf sent r) ↔ sent = true := by
  cases sent with
  | false => exact iff_of_false (silent hlog hawaited) (by simp)
  | true =>
    refine iff_of_true (.inr ⟨?_, [r], ?_, ?_⟩) rfl
    · rw [(Steady.awaitIf s' true r).active, hactive]
    · rw [Session.awaitIf, if_pos rfl, await_awaited, hawaited]
    · rcases hr with rfl | ⟨message, rfl⟩
      · exact .inl rfl
      · exact .inr (.inl ⟨message, rfl⟩)

/-- Sub-requests are outstanding, if there are some. -/
theorem counts_outstanding {s0 : Session} (hcounts : Counts s0 s')
    (hawaited : s0.awaited = s.awaited) (hzero : s0.subrequestCount = 0)
    (hactive : s'.activeRequest = some request) (hne : s'.subrequestCount ≠ 0) :
    Outstanding s request s' := by
  obtain ⟨sent, hsent, hcounted, hcount⟩ := hcounts
  rw [hzero, Nat.zero_add] at hcount
  refine ⟨hactive, sent, by rw [hsent, hawaited], .inr (.inr ⟨?_, hcounted, hcount⟩)⟩
  rintro rfl
  exact hne hcount

end Silence

/-! ## The requests -/

section Requests

variable {profile : Profile} {agents : Agents} {s : Session} {request : AppRequest}

section

variable (hactive : s.activeRequest = some request)
include hactive

theorem channelModify_outstanding_iff (channel : ChannelParams) (enable : Bool) :
    Pursued s request (mrcpClientChannelModify agents s channel enable) ↔
      (s.offer.isSome && agents.offer) = true := by
  unfold mrcpClientChannelModify
  cases hoffer : s.offer with
  | none => exact iff_of_false (silent rfl rfl) (by simp)
  | some offer =>
    refine (awaitIf_outstanding_iff (.inl rfl) agents.offer ?_ ?_ ?_).trans (by simp)
    · rfl
    · rfl
    · exact hactive

theorem sessionUpdate_outstanding_iff :
    Pursued s request (mrcpClientSessionUpdate agents s) ↔
      (s.offer.isSome && agents.offer) = true := by
  unfold mrcpClientSessionUpdate
  cases hoffer : s.offer with
  | none => exact iff_of_false (silent rfl rfl) (by simp)
  | some offer =>
    exact (awaitIf_outstanding_iff (.inl rfl) agents.offer rfl rfl hactive).trans (by simp)

/-- The termination waits for one response more than the requests that have
been taken, if the agent does not take its own. -/
theorem sessionTerminate_outstanding_iff :
    Pursued s request (mrcpClientSessionTerminate agents s) ↔ agents.terminate = true := by
  have hsteady := Steady.sessionTerminate agents s
  unfold mrcpClientSessionTerminate at hsteady ⊢
  dsimp only at hsteady ⊢
  have hcounts := ((Counts.awaitIf (s.stateSet .terminating)
    (s.stateSet .terminating).context (r := .topology) rfl).trans (.channelsTerminate _)).trans
      (.slotsTerminate _)
  generalize slotsTerminate _ = s1 at hsteady hcounts ⊢
  unfold terminateRequest at hsteady ⊢
  cases hterminate : agents.terminate with
  | true =>
    rw [hterminate] at hsteady
    simp only [if_true, iff_true]
    refine .inr (counts_outstanding (hcounts.trans (.awaitIf s1 true (r := .terminate) rfl)) rfl rfl
      (hsteady.active.trans hactive) ?_)
    rw [await_subrequestCount]
    simp [Awaited.counted]
  | false =>
    rw [hterminate, if_neg (by simp)] at hsteady
    simp only [Bool.false_eq_true, if_false, iff_false]
    obtain ⟨sent, hsent, hcounted, hcount⟩ := hcounts
    rintro (⟨response, -, hresponse⟩ | ⟨-, sent', hsent', h⟩)
    · rw [hsteady.log] at hresponse
      simp [Session.stateSet] at hresponse
    · obtain rfl : sent = sent' := List.append_cancel_left (hsent.symm.trans hsent')
      rcases h with rfl | ⟨message, rfl⟩ | ⟨-, -, h⟩
      · exact absurd (hcounted .answer (by simp)) (by simp [Awaited.counted])
      · exact absurd (hcounted (.control message) (by simp)) (by simp [Awaited.counted])
      · simp only [hcount, Session.stateSet] at h
        omega

end

/-- The number of sub-requests for a new channel. -/
theorem channelMedia_subrequestCount (s : Session) (i j : Nat) (channel : ChannelParams) :
    (channelMedia s i j channel).subrequestCount =
      s.subrequestCount + if channel.termination.isSome then 2 else 0 := by
  unfold channelMedia
  cases channel.termination with
  | none =>
    dsimp only [bypassMedia]
    split <;> rfl
  | some termination =>
    simp [terminationAdd, await_subrequestCount, Awaited.counted, Session.modifySlot]

theorem channelCreate_outstanding_iff (hactive : s.activeRequest = some request)
    (channel : ChannelParams) :
    Pursued s request (channelCreate profile agents s channel) ↔
      (profile.version != .v1 || channel.termination.isSome || agents.offer) = true := by
  have hawait := Steady.awaitIf (channelPush profile s channel) (profile.version != .v1)
    (.channelAdd s.channels.length)
  have hcalm := ((channelPush_calm profile s channel).trans hawait.toCalm).trans
    (channelMedia_calm _ s.channels.length s.terminations.length channel)
  have hcounts := ((Counts.channelPush profile s channel).trans (.awaitIf _
    (profile.version != .v1) (r := .channelAdd s.channels.length) rfl)).trans
      (.channelMedia _ s.channels.length s.terminations.length channel)
  have hcount := channelMedia_subrequestCount
    ((channelPush profile s channel).awaitIf (profile.version != .v1)
      (.channelAdd s.channels.length)) s.channels.length s.terminations.length channel
  unfold channelCreate
  dsimp only
  generalize channelMedia _ s.channels.length s.terminations.length channel = s1
    at hcalm hcounts hcount ⊢
  have hpush : ((channelPush profile s channel).awaitIf (profile.version != .v1)
      (.channelAdd s.channels.length)).subrequestCount =
      if profile.version != .v1 then 1 else 0 := by
    unfold Session.awaitIf
    split
    · rfl
    · rfl
  rw [hpush] at hcount
  split
  · rename_i hzero
    -- nothing is to be waited for, so the offer goes out at once
    have hnone : (profile.version != .v1) = false ∧ channel.termination.isSome = false := by
      cases hversion : profile.version != .v1 <;> cases htermination : channel.termination.isSome
      · exact ⟨rfl, rfl⟩
      all_goals simp [hversion, htermination, hzero] at hcount
    obtain ⟨sent, hsent, -, hlength⟩ := hcounts
    have hnil : sent = [] := by
      exact List.length_eq_zero_iff.mp (by simp [Session.stateSet] at hlength; omega)
    rw [hnone.1, hnone.2, Bool.false_or]
    exact awaitIf_outstanding_iff (.inl rfl) agents.offer hcalm.log
      (by rw [hsent, hnil]; simp [Session.stateSet]) (hcalm.active.trans hactive)
  · rename_i hne
    refine iff_of_true
      (.inr (counts_outstanding hcounts rfl rfl (hcalm.active.trans hactive) hne)) ?_
    by_contra hfalse
    simp only [Bool.or_eq_true, not_or, Bool.not_eq_true] at hfalse
    rw [hfalse.1.1, hfalse.1.2] at hcount
    exact hne hcount

theorem resourceDiscover_outstanding (hactive : s.activeRequest = some request) :
    Pursued s request (mrcpClientResourceDiscover profile agents s).session := by
  have hstart : Steady s ({ s with answer := none }.stateSet .discovering) :=
    { Steady.refl s with state := fun hs => by cases hs }
  have hs := hstart.trans (.discoverSend profile agents _)
  have hcounts := Counts.discoverSend profile agents
    ({ s with answer := none }.stateSet .discovering)
  unfold mrcpClientResourceDiscover
  dsimp only
  split
  · refine .inl (responded_of_handled hactive
      (.precede hs (.of_status (Handled.sigResponseRaise _))) ?_)
    simp [mrcpAppSigResponseRaise, hs.active.trans hactive]
  · rename_i hne
    exact .inr (counts_outstanding hcounts rfl rfl (hs.active.trans hactive) hne)

theorem messageSend_outstanding_iff {channel : Nat} {message : MrcpMessage}
    (hactive : s.activeRequest = some (.control channel message)) :
    Pursued s (.control channel message)
        (mrcpClientMessageSend agents s channel message).session ↔
      (s.id.isEmpty || s.hasControlChannel channel || agents.control) = true := by
  unfold mrcpClientMessageSend
  split
  · rename_i hid
    rw [hid]
    refine iff_of_true (.inl (responded_of_handled hactive
      (.controlMessageRaise s channel _) ?_)) rfl
    simp [mrcpAppControlMessageRaise, methodFailed, (mrcpResponseCreate_spec message).1, hactive,
      AppRequest.controlMessage]
  · rename_i hid
    rw [Bool.not_eq_true] at hid
    rw [hid]
    exact awaitIf_outstanding_iff (.inr ⟨_, rfl⟩) _ rfl rfl hactive

theorem requestProcess_outstanding_iff (hactive : s.activeRequest = some request) :
    Pursued s request (requestProcess profile agents s request).session ↔
      Taken profile agents s request = true := by
  cases request with
  | sessionUpdate => exact sessionUpdate_outstanding_iff hactive
  | sessionTerminate => exact sessionTerminate_outstanding_iff hactive
  | channelAdd channel =>
    dsimp only [requestProcess, mrcpClientChannelAdd, Taken]
    cases hfind : mrcpClientChannelFind s channel.id with
    | some i =>
      exact channelModify_outstanding_iff hactive channel true
    | none =>
      exact channelCreate_outstanding_iff hactive channel
  | channelRemove channel => exact channelModify_outstanding_iff hactive channel false
  | resourceDiscover => exact iff_of_true (resourceDiscover_outstanding hactive) rfl
  | control channel message => exact messageSend_outstanding_iff hactive

end Requests

/-- The failure of a request is told to the application. -/
theorem failureMessageRaise_responded {s : Session} {request : AppRequest} (status : SigStatus)
    (hactive : s.activeRequest = some request) :
    Responded s request (mrcpAppFailureMessageRaise { s with status := status }).session := by
  refine ⟨⟨request, status, request.controlMessage.map methodFailed, none⟩, rfl, ?_⟩
  simp [mrcpAppFailureMessageRaise, hactive, Outcome.keep, Session.note]

end UniMrcp.Client
