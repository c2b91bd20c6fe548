import UniMrcp.Lib.Runs
import UniMrcp.Client.Queue
import UniMrcp.Client.Dispatch

/-!
# The status of a channel that is added

CHANNEL_ADD is answered when the control channel and the terminations have been
added, the server has answered the offer, and the channel and the terminations
have been modified.  Each of these responses carries a status.

The session keeps a status of its own, but only an answer that refuses the
offer is stored in it.  The status of a control channel that is modified is
used if its response is the last one, and all others are not looked at.
`Carried` is the condition that no failure was lost.
-/

namespace UniMrcp.Client

open UniMrcp.Lib UniMrcp.Lib.Runs UniMrcp.Apt UniMrcp.Mrcp

/-- The answer accepts the offer; MRCPv1 answers for the resource. -/
def answerReport (profile : Profile) : Option Descriptor → Bool
  | none => false
  | some answer => answer.accepted && (profile.version != .v1 || answer.resourceState)

/-- The status of a response to one of the sub-requests of CHANNEL_ADD. -/
def Input.report (profile : Profile) : Input → Option Bool
  | .answer descriptor => some (answerReport profile descriptor)
  | .channelAdd _ status | .channelModify _ status | .terminationAdd _ status _
  | .terminationModify _ status _ | .topology status => some status
  | _ => none

/-- The input is an answer that refuses the offer. -/
def Input.refuses (profile : Profile) : Input → Bool
  | .answer descriptor => !answerReport profile descriptor
  | _ => false

/-- The control channel could not be modified. -/
def Input.modifyFails : Input → Bool
  | .channelModify _ status => !status
  | _ => false

/-- The state of the resource in the offer, which an MRCPv1 answer is compared
with. -/
def Session.resourceState (s : Session) : Option Bool := s.offer.map Descriptor.resourceState

/-- A session that adds a channel. -/
structure Adding (profile : Profile) (request : AppRequest) (s : Session) : Prop where
  active : s.activeRequest = some request
  connected : s.disconnected = false
  offer : s.resourceState.isSome = true
  resource : profile.version = .v1 → s.resourceState = some true

variable {profile : Profile}

theorem Adding.steady {request : AppRequest} {s s' : Session} (h : Adding profile request s)
    (hs : Steady s s') (hoffer : s'.resourceState = s.resourceState) :
    Adding profile request s' where
  active := hs.active.trans h.active
  connected := hs.disconnected.trans h.connected
  offer := hoffer ▸ h.offer
  resource := fun hversion => hoffer.trans (h.resource hversion)

/-! ## The offer stays -/

theorem setWaiting_offer (s : Session) (waiting : Bool) (r : Awaited) :
    (s.setWaiting waiting r).offer = s.offer := by
  cases r <;> rfl

theorem awaitIf_offer (s : Session) (sent : Bool) (r : Awaited) :
    (s.awaitIf sent r).offer = s.offer := by
  cases sent
  · rfl
  · exact setWaiting_offer s true r

theorem replied_offer (s : Session) (r : Option Awaited) : (s.replied r).offer = s.offer := by
  cases r <;> rfl

theorem slotMedia_resourceState {s s' : Session} {j : Nat} {descriptor : RtpDescriptor}
    (h : slotMedia s j descriptor = some s') : s'.resourceState = s.resourceState := by
  unfold slotMedia at h
  split at h
  · cases h
    rfl
  · split at h
    · cases h
    · rename_i offer hoffer
      cases h
      rw [Session.resourceState, Session.resourceState, hoffer]
      rfl

theorem mediaAnswerProcess_offer {s s' : Session} {offer answer : Descriptor}
    (h : mediaAnswerProcess profile s offer answer = some s') : s'.offer = s.offer := by
  have haudio : ∀ {s s'}, mrcpClientAvMediaAnswerProcess s answer = some s' →
      s'.offer = s.offer := fun {s _} h =>
    forLoopM_keeps (P := fun s' => s'.offer = s.offer) (fun j s1 s2 hs1 h => by
      unfold audioMediaAnswer at h
      split at h
      · cases h
      · cases h
        rw [awaitIf_offer, awaitIf_offer]
        exact hs1) rfl h
  have hcontrol : ∀ {s s'}, mrcpClientControlMediaAnswerProcess s answer = some s' →
      s'.offer = s.offer := fun {s _} h =>
    forLoopM_keeps (P := fun s' => s'.offer = s.offer) (fun i s1 s2 hs1 h => by
      unfold controlMediaAnswer at h
      split at h
      · cases h
      · split at h
        · cases h
          exact (setWaiting_offer s1 true _).trans hs1
        · cases h) rfl h
  unfold mediaAnswerProcess mrcpClientResourceAnswerProcess at h
  split at h
  · split_ifs at h
    · exact haudio h
    · cases h
      rfl
    · cases h
      rfl
  · obtain ⟨s1, hs1, h⟩ := Option.bind_eq_some_iff.mp h
    exact (haudio h).trans (hcontrol hs1)

theorem answerAccept_offer {s s' : Session} {offer answer : Descriptor}
    (h : answerAccept profile s offer answer = some s') : s'.offer = s.offer := by
  obtain ⟨s1, hs1, h⟩ := Option.bind_eq_some_iff.mp h
  cases h
  rw [awaitIf_offer, mediaAnswerProcess_offer hs1, awaitIf_offer]
  rfl

/-! ## One response -/

/-- What a response does while a channel is added: the session goes on, or the
application has its response.  `kept` and `raised` say when the status is one
of success. -/
inductive Reported (profile : Profile) (request : AppRequest) (s : Session) (kept raised : Prop) :
    Outcome → Prop where
  | kept {s' : Session} (h : Adding profile request s') (hlog : s'.log = s.log)
      (hstatus : s'.status = .success ↔ kept) : Reported profile request s kept raised (.keep s')
  | raised {o : Outcome} {status : SigStatus} (hnext : o.next = true)
      (hlog : o.session.log =
        s.log ++ [.response ⟨request, status, request.controlMessage, none⟩])
      (hstatus : status = .success ↔ raised) : Reported profile request s kept raised o

namespace Reported

variable {profile : Profile} {request : AppRequest} {s s' : Session} {kept raised : Prop}
  {o : Outcome}

theorem log (h : Reported profile request s' kept raised o) (hlog : s'.log = s.log) :
    Reported profile request s kept raised o := by
  cases h with
  | kept h hlog' hstatus => exact .kept h (hlog'.trans hlog) hstatus
  | raised hnext hlog' hstatus => exact .raised hnext (hlog ▸ hlog') hstatus

section

variable (h : Adding profile request s)
include h

theorem steady (hkept : s.status = .success ↔ kept) (hs : Steady s s')
    (hoffer : s'.resourceState = s.resourceState) :
    Reported profile request s kept raised (.keep s') :=
  .kept (h.steady hs hoffer) hs.log (by rw [hs.status, hkept])

theorem sigResponseRaise (hraised : s.status = .success ↔ raised) :
    Reported profile request s kept raised (mrcpAppSigResponseRaise s true) := by
  unfold mrcpAppSigResponseRaise
  rw [h.active]
  refine .raised rfl ?_ hraised
  simp [h.connected, Session.note]

/-- The response is counted. -/
theorem subrequestRemove {last : Session → Outcome} (hkept : s.status = .success ↔ kept)
    (hlast : ∀ s', Adding profile request s' → s'.status = s.status →
      Reported profile request s' kept raised (last s')) :
    Reported profile request s kept raised (subrequestRemove s last) := by
  unfold UniMrcp.Client.subrequestRemove
  have hcount : Steady s { s with subrequestCount := s.subrequestCount - 1 } :=
    { Steady.refl s with }
  split
  · exact steady h hkept (.refl s) rfl
  · dsimp only
    split
    · exact (hlast _ (h.steady hcount rfl) rfl).log rfl
    · exact steady h hkept hcount rfl

theorem ifWaiting {last : Session → Outcome} (hkept : s.status = .success ↔ kept) (waiting : Bool)
    (r : Awaited)
    (hlast : ∀ s', Adding profile request s' → s'.status = s.status →
      Reported profile request s' kept raised (last s')) :
    Reported profile request s kept raised (ifWaiting s waiting r last) := by
  unfold UniMrcp.Client.ifWaiting
  split
  · have hs := Steady.setWaiting s false r
    have hoffer := congrArg (Option.map Descriptor.resourceState) (setWaiting_offer s false r)
    refine (subrequestRemove (h.steady hs hoffer) (by rw [hs.status, hkept]) ?_).log hs.log
    exact fun s' h' hstatus => hlast s' h' (hstatus.trans hs.status)
  · exact steady h hkept (.refl s) rfl

end

section

variable (agents : Agents) (h : Adding profile request s) (hkept : s.status = .success ↔ kept)
include h hkept

theorem offerLast : Reported profile request s kept raised (offerLast agents s) :=
  steady h hkept (.offerSend agents s)
    (congrArg (Option.map Descriptor.resourceState) (awaitIf_offer s _ _))

theorem mediaLast : Reported profile request s kept kept (mediaLast agents s) := by
  unfold UniMrcp.Client.mediaLast
  split
  · exact offerLast agents h hkept
  · exact sigResponseRaise h hkept
  · exact steady h hkept (.refl s) rfl

end

theorem answerStore (answer : Descriptor) (h : Adding profile request s)
    (hkept : s.status = .success ↔ kept) :
    Reported profile request s kept kept (answerStore answer s) := by
  have hs : Steady s { s with answer := some answer } := { Steady.refl s with }
  unfold UniMrcp.Client.answerStore
  dsimp only
  split
  · exact (sigResponseRaise (h.steady hs rfl) hkept).log rfl
  · exact steady h hkept hs rfl

end Reported

variable {profile : Profile} {request : AppRequest} {s s' : Session} {o : Outcome}

theorem Adding.status (h : Adding profile request s) (status : SigStatus) :
    Adding profile request { s with status := status } :=
  { h with }

/-- The answer decides on the status. -/
theorem answerProcess_reported {descriptor : Option Descriptor} (h : Adding profile request s)
    (ho : mrcpClientSessionAnswerProcess profile s descriptor = some o) :
    Reported profile request s (s.status = .success ∧ answerReport profile descriptor = true)
      (s.status = .success ∧ answerReport profile descriptor = true) o := by
  unfold mrcpClientSessionAnswerProcess at ho
  split at ho
  · rename_i hoffer
    have hsome := h.offer
    rw [Session.resourceState, hoffer] at hsome
    cases hsome
  · cases ho
    exact (Reported.sigResponseRaise (h.status .failure) (by simp [answerReport])).log rfl
  · rename_i offer answer hoffer
    have hresource : profile.version = .v1 → offer.resourceState = true := fun hversion => by
      simpa [Session.resourceState, hoffer] using h.resource hversion
    split at ho
    · rename_i haccepted
      obtain ⟨s1, hs1, rfl⟩ := Option.map_eq_some_iff.mp ho
      have hs := answerAccept_steady hs1
      have hoffer := congrArg (Option.map Descriptor.resourceState) (answerAccept_offer hs1)
      have hadding := (h.status (answerStatus profile s offer answer)).steady hs hoffer
      refine (Reported.answerStore answer hadding ?_).log hs.log
      rw [hs.status, answerReport, haccepted, answerStatus]
      split_ifs with hrefused
      · simp [hrefused]
      · by_cases hversion : profile.version = .v1
        · have hanswer : answer.resourceState = true := by
            simpa [hversion, hresource hversion] using hrefused
          simp [hanswer]
        · simp [hversion]
    · rename_i haccepted
      cases ho
      refine (Reported.answerStore answer (h.status .terminate) ?_).log rfl
      simp [answerReport, haccepted]

/-- One response while a channel is added. -/
theorem handle_reported {agents : Agents} {input : Input} (h : Adding profile request s)
    (hreport : (input.report profile).isSome = true)
    (ho : handle profile agents s input = some o) :
    Reported profile request s (s.status = .success ∧ input.refuses profile = false)
      (s.status = .success ∧ input.refuses profile = false ∧ input.modifyFails = false) o := by
  cases input with
  | app | sessionId | terminateResponse | terminateEvent | controlResponse | discoverResponse
  | channelRemove | messageReceive | disconnect | terminationSubtract => cases hreport
  | answer descriptor =>
    simpa [Input.refuses, Input.modifyFails] using answerProcess_reported h ho
  | channelAdd i status =>
    cases ho
    exact Reported.ifWaiting h (by simp [Input.refuses]) _ _ (fun s' h' hstatus =>
      Reported.offerLast agents h' (by simp [Input.refuses, hstatus]))
  | channelModify i status =>
    cases ho
    refine Reported.ifWaiting h (by simp [Input.refuses]) _ _ (fun s' h' hstatus => ?_)
    refine (Reported.sigResponseRaise (h'.status _) ?_).log rfl
    cases status <;> simp [Input.refuses, Input.modifyFails, hstatus]
  | terminationAdd termination status descriptor =>
    cases termination with
    | channel i =>
      cases ho
      exact Reported.ifWaiting h (by simp [Input.refuses]) _ _ (fun s' h' hstatus =>
        Reported.offerLast agents h' (by simp [Input.refuses, hstatus]))
    | rtp j =>
      simp only [handle, mrcpClientOnTerminationAdd] at ho
      split at ho
      · obtain ⟨s1, hs1, ho⟩ := Option.bind_eq_some_iff.mp ho
        cases ho
        have hs := (Steady.setWaiting s false (.slotAdd j)).trans (Steady.slotMedia hs1)
        have hoffer : s1.resourceState = (s.setWaiting false (.slotAdd j)).resourceState :=
          slotMedia_resourceState hs1
        refine (Reported.subrequestRemove (h.steady hs hoffer)
          (by simp [hs.status, Input.refuses]) ?_).log hs.log
        exact fun s' h' hstatus =>
          Reported.offerLast agents h' (by simp [Input.refuses, hstatus, hs.status])
      · cases ho
        exact Reported.steady h (by simp [Input.refuses]) (.refl s) rfl
  | terminationModify termination status descriptor =>
    cases ho
    cases termination with
    | channel i => exact Reported.steady h (by simp [Input.refuses]) (.refl s) rfl
    | rtp j =>
      have hs : Steady s (s.modifySlot j (fun slot =>
        { slot with descriptor := if slot.waiting then some descriptor else slot.descriptor })) :=
        .modifySlot s j (fun _ => rfl)
      refine (Reported.ifWaiting (h.steady hs rfl) (by simp [hs.status, Input.refuses]) _ _
        (fun s' h' hstatus => ?_)).log hs.log
      have hkept : s'.status = .success ↔ s.status = .success := by rw [hstatus, hs.status]
      have hmedia := Reported.mediaLast agents h' hkept
      simpa [Input.refuses, Input.modifyFails] using hmedia
  | topology status =>
    cases ho
    refine Reported.subrequestRemove h (by simp [Input.refuses]) (fun s' h' hstatus => ?_)
    have hkept : s'.status = .success ↔ s.status = .success := by rw [hstatus]
    have hmedia := Reported.mediaLast agents h' hkept
    simpa [Input.refuses, Input.modifyFails] using hmedia

/-! ## The request is dispatched -/

theorem channelMedia_resourceState (s : Session) (i j : Nat) (channel : ChannelParams) :
    (channelMedia s i j channel).resourceState = s.resourceState := by
  unfold channelMedia
  split
  · rfl
  · unfold bypassMedia
    split
    · rename_i media offer hmedia hoffer
      rw [Session.resourceState, Session.resourceState, hoffer]
      rfl
    · rfl

/-- The offer for a new channel. -/
theorem channelCreate_resourceState (agents : Agents) (channel : ChannelParams) :
    (channelCreate profile agents s channel).resourceState =
      some (channelOffer profile (s.offer.getD .create) channel).resourceState := by
  have hpush : ((channelPush profile s channel).awaitIf (profile.version != .v1)
      (.channelAdd s.channels.length)).resourceState =
      some (channelOffer profile (s.offer.getD .create) channel).resourceState := by
    rw [Session.resourceState, awaitIf_offer]
    rfl
  unfold channelCreate
  dsimp only
  split
  · rw [Session.resourceState, mrcpClientSessionOfferSend, awaitIf_offer]
    exact (channelMedia_resourceState _ _ _ _).trans hpush
  · exact (channelMedia_resourceState _ _ _ _).trans hpush

/-- A channel that is added, or enabled again, is in the offer; without an offer
nothing is sent. -/
theorem channelAdd_resourceState (agents : Agents) (channel : ChannelParams)
    (hsent : (mrcpClientChannelAdd profile agents s channel).awaited ≠ s.awaited) :
    (mrcpClientChannelAdd profile agents s channel).resourceState.isSome = true ∧
      (profile.version = .v1 →
        (mrcpClientChannelAdd profile agents s channel).resourceState = some true) := by
  unfold mrcpClientChannelAdd at hsent ⊢
  split at hsent
  · unfold mrcpClientChannelModify at hsent ⊢
    split at hsent
    · exact absurd rfl hsent
    · rw [Session.resourceState, mrcpClientSessionOfferSend, awaitIf_offer]
      exact ⟨rfl, fun _ => rfl⟩
  · rw [channelCreate_resourceState]
    exact ⟨rfl, fun hversion => by simp [channelOffer, hversion]⟩

theorem channelAdd_calm (profile : Profile) (agents : Agents) (s : Session)
    (channel : ChannelParams) : Calm s (mrcpClientChannelAdd profile agents s channel) := by
  unfold mrcpClientChannelAdd
  split
  · exact (Steady.channelModify agents s channel true).toCalm
  · exact (channelCreate_calm profile agents s channel).1

/-- CHANNEL_ADD has been dispatched, and something is outstanding. -/
theorem dispatch_adding (agents : Agents) {channel : ChannelParams}
    (hactive : s.activeRequest = some (.channelAdd channel))
    (hconnected : s.disconnected = false)
    (hsent : (mrcpAppRequestDispatch profile agents s (.channelAdd channel)).session.awaited ≠
      s.awaited) :
    let s0 := (mrcpAppRequestDispatch profile agents s (.channelAdd channel)).session
    Adding profile (.channelAdd channel) s0 ∧ s0.log = s.log ∧ s0.status = .success := by
  have hadd : ∀ registered,
      let s1 := { s with registered := registered, status := .success }
      let s0 := mrcpClientChannelAdd profile agents s1 channel
      s0.awaited ≠ s.awaited →
        Adding profile (.channelAdd channel) s0 ∧ s0.log = s.log ∧ s0.status = .success := by
    intro registered s1 s0 hsent
    have hcalm : Calm s1 s0 := channelAdd_calm profile agents s1 channel
    obtain ⟨hoffer, hresource⟩ := channelAdd_resourceState agents channel hsent
    exact ⟨⟨hcalm.active.trans hactive, hcalm.disconnected.trans hconnected, hoffer, hresource⟩,
      hcalm.log, hcalm.status⟩
  have hfailed : ∀ status,
      (mrcpAppFailureMessageRaise { s with status := status }).session.awaited = s.awaited := by
    intro status
    unfold mrcpAppFailureMessageRaise
    split <;> rfl
  unfold mrcpAppRequestDispatch at hsent ⊢
  split_ifs at hsent ⊢ with hstate hdisconnected hregistered hterminate hselected
  · exact absurd rfl hsent
  · exact absurd (hfailed .cancel) hsent
  · exact hadd s.registered hsent
  · cases hterminate
  · exact hadd true hsent
  · exact absurd (hfailed .failure) hsent

/-! ## The responses in any order -/

/-- One step: nothing is told and the status is carried on, or the application
has its response. -/
theorem step_reported {input : Agents × Input} (h : Adding profile request s)
    (hreport : (input.2.report profile).isSome = true)
    (hs : step profile s input = some s') :
    (Adding profile request s' ∧ s'.log = s.log ∧
      (s'.status = .success ↔ s.status = .success ∧ input.2.refuses profile = false)) ∨
    ∃ status rest, s'.log =
        s.log ++ .response ⟨request, status, request.controlMessage, none⟩ :: rest ∧
      (status = .success ↔ s.status = .success ∧ input.2.refuses profile = false ∧
        input.2.modifyFails = false) := by
  obtain ⟨o, ho, rfl⟩ := Option.map_eq_some_iff.mp hs
  have hreplied := Steady.replied s (input.2.reply s)
  have hoffer := congrArg (Option.map Descriptor.resourceState) (replied_offer s (input.2.reply s))
  have hcases := handle_reported (h.steady hreplied hoffer) hreport ho
  rw [hreplied.status] at hcases
  cases hcases.log hreplied.log with
  | kept h hlog hstatus => exact .inl ⟨h, hlog, hstatus⟩
  | raised hnext hlog hstatus =>
    rename_i status
    obtain ⟨rest, hrest⟩ := nextRequest_grows profile input.1 o.session.requestQueue o.session
    refine .inr ⟨status, rest, ?_, hstatus⟩
    rw [Outcome.finish, if_pos hnext, ← hrest, hlog, List.append_assoc]
    rfl

/-- As long as nothing is told, the status is one of success if no answer has
refused the offer. -/
theorem run_reported {run : List (Agents × Input)} (h : Adding profile request s)
    (hreports : ∀ x ∈ run, (x.2.report profile).isSome = true)
    (hrun : after (step profile) s run = some s') (hquiet : s'.log = s.log) :
    Adding profile request s' ∧
      (s'.status = .success ↔ s.status = .success ∧ ∀ x ∈ run, x.2.refuses profile = false) := by
  induction run generalizing s with
  | nil =>
    cases hrun
    exact ⟨h, by simp⟩
  | cons input run ih =>
    obtain ⟨s1, hs1, hrun⟩ := Option.bind_eq_some_iff.mp hrun
    rcases step_reported h (hreports input (by simp)) hs1 with
      ⟨h1, hlog, hstatus⟩ | ⟨status, rest, hlog, -⟩
    · obtain ⟨h', hstatus'⟩ :=
        ih h1 (fun x hx => hreports x (by simp [hx])) hrun (hquiet.trans hlog.symm)
      refine ⟨h', ?_⟩
      rw [hstatus', hstatus, List.forall_mem_cons, and_assoc]
    · -- a response would have stayed in the log
      have hgrows := after_related (R := fun s s' => s.log <+: s'.log)
        (fun _ => List.prefix_rfl) List.IsPrefix.trans step_grows hrun
      have hlength := hgrows.length_le
      rw [hquiet, hlog, List.length_append, List.length_cons] at hlength
      omega

/-- No failure is lost: there is none, or an answer refuses the offer, or the
last response is that of a control channel that could not be modified. -/
def Carried (profile : Profile) (run : List (Agents × Input)) (last : Agents × Input) : Prop :=
  (∀ x ∈ run ++ [last], x.2.report profile = some true) ∨
    (∃ x ∈ run ++ [last], x.2.refuses profile = true) ∨ last.2.modifyFails = true

theorem carried_of_report {input : Input} (h : input.report profile = some true) :
    input.refuses profile = false ∧ input.modifyFails = false := by
  cases input <;> simp_all [Input.report, Input.refuses, Input.modifyFails]

/-- CHANNEL_ADD is outstanding, and responses to its sub-requests arrive until
the application has its response: the status of this response is one of success
exactly if all of them reported success, provided that no failure was lost, and
only then. -/
theorem channelAdd_status_iff (profile : Profile) (agents : Agents) (s s1 s2 : Session)
    (channel : ChannelParams) (run : List (Agents × Input)) (last : Agents × Input)
    (response : AppResponse) (rest : List Note)
    (hactive : s.activeRequest = some (.channelAdd channel)) (hconnected : s.disconnected = false)
    (hsent : Outstanding s (.channelAdd channel)
      (mrcpAppRequestDispatch profile agents s (.channelAdd channel)).session)
    (hreports : ∀ x ∈ run ++ [last], (x.2.report profile).isSome = true)
    (hrun : after (step profile)
      (mrcpAppRequestDispatch profile agents s (.channelAdd channel)).session run = some s1)
    (hquiet : s1.log = s.log) (hlast : step profile s1 last = some s2)
    (hresponse : s2.log = s.log ++ .response response :: rest) :
    (response.status = .success ↔ ∀ x ∈ run ++ [last], x.2.report profile = some true) ↔
      Carried profile run last := by
  obtain ⟨hadding, hlog, hstatus⟩ :=
    dispatch_adding agents hactive hconnected (awaited_of_outstanding hsent)
  obtain ⟨hadding1, hstatus1⟩ := run_reported hadding
    (fun x hx => hreports x (List.mem_append_left _ hx)) hrun (hquiet.trans hlog.symm)
  have hsuccess : response.status = .success ↔
      (∀ x ∈ run ++ [last], x.2.refuses profile = false) ∧ last.2.modifyFails = false := by
    rcases step_reported hadding1 (hreports last (by simp)) hlast with
      ⟨-, hlog2, -⟩ | ⟨status, rest', hlog2, hstatus2⟩
    · rw [hlog2, hquiet] at hresponse
      simp at hresponse
    · rw [hlog2, hquiet] at hresponse
      have hresponses := List.append_cancel_left hresponse
      simp only [List.cons.injEq, Note.response.injEq] at hresponses
      rw [← hresponses.1, hstatus2, hstatus1]
      simp [hstatus, or_imp, forall_and, and_assoc]
  rw [hsuccess, Carried]
  constructor
  · intro h
    by_cases hrefuses : ∀ x ∈ run ++ [last], x.2.refuses profile = false
    · cases hmodify : last.2.modifyFails with
      | true => exact .inr (.inr rfl)
      | false => exact .inl (h.mp ⟨hrefuses, hmodify⟩)
    · simp only [not_forall, Bool.not_eq_false] at hrefuses
      obtain ⟨x, hx, hrefuses⟩ := hrefuses
      exact .inr (.inl ⟨x, hx, hrefuses⟩)
  · intro h
    refine ⟨fun hall => ?_, fun hall =>
      ⟨fun x hx => (carried_of_report (hall x hx)).1, (carried_of_report (hall last (by simp))).2⟩⟩
    rcases h with h | ⟨x, hx, h⟩ | h
    · exact h
    · rw [hall.1 x hx] at h
      cases h
    · rw [hall.2] at h
      cases h

/-- A session that gets the request to add a recognizer. -/
def recognizerRequested : Session :=
  { mrcpClientSessionCreate with activeRequest := some (.channelAdd recognizer) }

/-- The responses to the sub-requests for a recognizer, except for the last
one.  `connected` is what becomes of the connection to the server. -/
def recognizerResponses (connected : Bool) : List (Agents × Input) :=
  [.channelAdd 0 true, .terminationAdd (.channel 0) true ⟨none, none⟩,
    .terminationAdd (.rtp 0) true ⟨some sendMedia, none⟩, .answer (some recognizerAnswer),
    .topology true, .channelModify 0 connected,
    .terminationModify (.rtp 0) true ⟨none, some sendMedia⟩, .topology true].map
      (fun input => (willingAgents, input))

/-- The connection to the server cannot be made, the media engine responds
later, and the application is told that the channel has been added. -/
theorem channelAdd_failure_lost :
    let profile := clientProfile .v2
    let s0 := (mrcpAppRequestDispatch profile willingAgents recognizerRequested
      (.channelAdd recognizer)).session
    let run := recognizerResponses false
    let last : Agents × Input := (willingAgents, .topology true)
    ∃ s1 ∈ after (step profile) s0 run, ∃ s2 ∈ step profile s1 last,
      Along (step profile) (fun s input => ∃ r ∈ input.2.answers, r ∈ s.awaited) s0
        (run ++ [last]) ∧
      s1.log = recognizerRequested.log ∧
      s2.log = recognizerRequested.log ++
        [.response ⟨.channelAdd recognizer, .success, none, none⟩] ∧
      ∃ x ∈ run, x.2.report profile = some false := by
  decide +kernel

/-- The answer refuses the recognizer. -/
theorem channelAdd_status_refused :
    let profile := clientProfile .v2
    let run := (recognizerResponses true).take 3
    let last : Agents × Input := (willingAgents, .answer none)
    (SigStatus.failure = .success ↔ ∀ x ∈ run ++ [last], x.2.report profile = some true) ∧
      Carried profile run last := by
  intro profile run last
  have hcarried : Carried profile run last := .inr (.inl ⟨last, by simp, rfl⟩)
  refine ⟨?_, hcarried⟩
  obtain ⟨s1, hs1, s2, hs2, hlog1, hlog2⟩ : ∃ s1 ∈ after (step profile)
      (mrcpAppRequestDispatch profile willingAgents recognizerRequested
        (.channelAdd recognizer)).session run, ∃ s2 ∈ step profile s1 last,
      s1.log = recognizerRequested.log ∧ s2.log = recognizerRequested.log ++
        [.response ⟨.channelAdd recognizer, .failure, none, none⟩] := by
    decide +kernel
  exact (channelAdd_status_iff profile willingAgents recognizerRequested s1 s2 recognizer run last
    _ [] rfl rfl ⟨rfl, [.channelAdd 0, .terminationAdd 0, .slotAdd 0], rfl,
      .inr (.inr (by decide +kernel))⟩ (by decide) hs1 hlog1 hs2 hlog2).mpr hcarried

end UniMrcp.Client
