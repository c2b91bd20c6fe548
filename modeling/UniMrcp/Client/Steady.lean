import UniMrcp.Lib.Awaiting
import UniMrcp.Client.Session

/-!
# What the functions of a session leave alone

Between two messages to the application a session sends requests, sets flags
and counts.  `Calm` says that the active request, the queue and the status stay
and nothing is told to the application; `Steady` says in addition that no
channel or termination is added.

`Built` is what is known of the channels of every session: a channel has an RTP
termination exactly if it has a termination of its own, and the media context
exists exactly if one of them does.
-/

namespace UniMrcp.Client

open UniMrcp.Lib UniMrcp.Apt UniMrcp.Mrcp

/-- A channel has a termination of its own. -/
def Channel.hasTermination (channel : Channel) : Bool := channel.params.termination.isSome

/-- The second session differs in requests that have been sent, in flags, in
descriptors and in channels. -/
structure Calm (s s' : Session) : Prop where
  active : s'.activeRequest = s.activeRequest
  queue : s'.requestQueue = s.requestQueue
  registered : s'.registered = s.registered
  disconnected : s'.disconnected = s.disconnected
  status : s'.status = s.status
  log : s'.log = s.log
  state : s'.state = .terminating → s.state = .terminating

namespace Calm

variable {s s' s'' : Session}

theorem refl (s : Session) : Calm s s := ⟨rfl, rfl, rfl, rfl, rfl, rfl, id⟩

theorem trans (h : Calm s s') (h' : Calm s' s'') : Calm s s'' where
  active := h'.active.trans h.active
  queue := h'.queue.trans h.queue
  registered := h'.registered.trans h.registered
  disconnected := h'.disconnected.trans h.disconnected
  status := h'.status.trans h.status
  log := h'.log.trans h.log
  state := fun hs => h.state (h'.state hs)

theorem grows (h : Calm s s') : s.log <+: s'.log := ⟨[], by rw [List.append_nil, h.log]⟩

end Calm

/-- The second session differs in requests that have been sent, in flags and
in descriptors. -/
structure Steady (s s' : Session) : Prop extends Calm s s' where
  context : s'.context = s.context
  channels : s'.channels.map Channel.hasTermination = s.channels.map Channel.hasTermination
  slots : s'.terminations.map TerminationSlot.termination =
    s.terminations.map TerminationSlot.termination

namespace Steady

variable {s s' s'' : Session} {answer : Descriptor}

theorem refl (s : Session) : Steady s s := ⟨.refl s, rfl, rfl, rfl⟩

theorem trans (h : Steady s s') (h' : Steady s' s'') : Steady s s'' where
  toCalm := h.toCalm.trans h'.toCalm
  context := h'.context.trans h.context
  channels := h'.channels.trans h.channels
  slots := h'.slots.trans h.slots

section

variable (s : Session)

theorem modifyChannel (i : Nat) {f : Channel → Channel}
    (hf : ∀ channel, (f channel).hasTermination = channel.hasTermination) :
    Steady s (s.modifyChannel i f) :=
  { refl s with channels := map_modify_keep _ hf s.channels i }

theorem modifySlot (j : Nat) {f : TerminationSlot → TerminationSlot}
    (hf : ∀ slot, (f slot).termination = slot.termination) : Steady s (s.modifySlot j f) :=
  { refl s with slots := map_modify_keep _ hf s.terminations j }

theorem setWaiting (waiting : Bool) (r : Awaited) : Steady s (s.setWaiting waiting r) := by
  cases r with
  | channelAdd i | channelModify i | channelRemove i | terminationAdd i | terminationSubtract i =>
    exact modifyChannel s i (fun _ => rfl)
  | slotAdd j | slotModify j | slotSubtract j => exact modifySlot s j (fun _ => rfl)
  | topology | answer | terminate | discover | control => exact refl s

theorem await (r : Awaited) : Steady s (s.await r) :=
  { setWaiting s true r with }

theorem replied (r : Option Awaited) : Steady s (s.replied r) := by
  cases r <;> exact { refl s with }

theorem stateSet {state : SessionState} (h : state ≠ .terminating) :
    Steady s (s.stateSet state) :=
  { refl s with state := fun hs => absurd hs h }

theorem awaitIf (sent : Bool) (r : Awaited) : Steady s (s.awaitIf sent r) := by
  cases sent
  · exact refl s
  · exact await s r

end

section

variable (agents : Agents) (s : Session)

theorem offerSend : Steady s (mrcpClientSessionOfferSend agents s) := awaitIf s _ _

theorem sessionUpdate : Steady s (mrcpClientSessionUpdate agents s) := by
  unfold mrcpClientSessionUpdate
  split
  · exact refl s
  · exact offerSend agents s

theorem channelModify (channel : ChannelParams) (enable : Bool) :
    Steady s (mrcpClientChannelModify agents s channel enable) := by
  unfold mrcpClientChannelModify
  split
  · exact refl s
  · exact { offerSend agents _ with }

end

/-- A loop whose body sends requests only. -/
theorem foldl {α : Type} {body : Session → α → Session} (hbody : ∀ s a, Steady s (body s a))
    (l : List α) (s : Session) : Steady s (l.foldl body s) := foldl_related refl trans hbody l s

theorem forLoop {body : Session → Nat → Session} (hbody : ∀ s i, Steady s (body s i))
    (lo hi : Nat) (s : Session) : Steady s (forLoop lo hi body s) := foldl hbody _ s

theorem discoverSend (profile : Profile) (agents : Agents) (s : Session) :
    Steady s (discoverSend profile agents s) := by
  unfold UniMrcp.Client.discoverSend
  dsimp only
  split
  · exact foldl (fun s _ => awaitIf s _ _) _ s
  · exact awaitIf s _ _

theorem channelTerminate (s : Session) (i : Nat) : Steady s (channelTerminate s i) := by
  unfold UniMrcp.Client.channelTerminate
  split
  · exact refl s
  · exact (awaitIf s _ _).trans (awaitIf _ _ _)

theorem slotsTerminate (s : Session) : Steady s (slotsTerminate s) := by
  unfold UniMrcp.Client.slotsTerminate
  split
  · exact forLoop (fun s j => awaitIf s _ _) 0 _ s
  · exact refl s

theorem terminateRequest (agents : Agents) (s : Session) :
    Steady s (terminateRequest agents s) := by
  unfold UniMrcp.Client.terminateRequest
  split
  · exact await s _
  · exact { refl s with }

/-- The termination sends its requests in the state TERMINATING. -/
theorem sessionTerminate (agents : Agents) (s : Session) :
    Steady (s.stateSet .terminating) (mrcpClientSessionTerminate agents s) :=
  ((awaitIf _ _ _).trans (forLoop channelTerminate 0 _ _)).trans
    ((slotsTerminate _).trans (terminateRequest agents _))

theorem controlMediaAnswer {i : Nat} (h : controlMediaAnswer s i = some s') : Steady s s' := by
  unfold UniMrcp.Client.controlMediaAnswer at h
  split at h
  · cases h
  · split at h
    · cases h
      exact await s _
    · cases h

theorem audioMediaAnswer {j : Nat} (h : audioMediaAnswer answer s j = some s') :
    Steady s s' := by
  unfold UniMrcp.Client.audioMediaAnswer at h
  split at h
  · cases h
  · cases h
    have hremote : Steady s (remoteMediaSet answer s j) := modifySlot s j (fun _ => rfl)
    exact (hremote.trans (awaitIf _ _ _)).trans (awaitIf _ _ _)

/-- A loop over the media of an answer. -/
theorem forLoopM {body : Session → Nat → Option Session}
    (hbody : ∀ s i s', body s i = some s' → Steady s s') {lo hi : Nat}
    (h : forLoopM lo hi body s = some s') : Steady s s' :=
  forLoopM_keeps (fun i _ s2 hs hs2 => hs.trans (hbody _ i s2 hs2)) (refl s) h

theorem controlMediaAnswers (h : mrcpClientControlMediaAnswerProcess s answer = some s') :
    Steady s s' :=
  { forLoopM (fun _ _ _ h => controlMediaAnswer h) h with }

theorem audioMediaAnswers (h : mrcpClientAvMediaAnswerProcess s answer = some s') :
    Steady s s' :=
  forLoopM (fun _ _ _ h => audioMediaAnswer h) h

theorem offerMedia (s : Session) (j : Nat) (offer : Descriptor) (media : RtpMedia) :
    Steady s (s.offerMedia j offer media) := by
  have hoffer : Steady s { s with offer := some (offer.audioMediaAdd media) } := { refl s with }
  exact hoffer.trans (modifySlot _ j (fun _ => rfl))

theorem bypassMedia (s : Session) (j : Nat) (descriptor : Option RtpDescriptor) :
    Steady s (bypassMedia s j descriptor) := by
  unfold UniMrcp.Client.bypassMedia
  split
  · exact offerMedia s j _ _
  · exact refl s

theorem slotMedia {j : Nat} {descriptor : RtpDescriptor}
    (h : slotMedia s j descriptor = some s') : Steady s s' := by
  unfold UniMrcp.Client.slotMedia at h
  split at h
  · cases h
    exact refl s
  · split at h
    · cases h
    · cases h
      exact offerMedia s j _ _

end Steady

/-! ## The count -/

section

variable (s : Session) (waiting : Bool) (r : Awaited)

theorem setWaiting_awaited : (s.setWaiting waiting r).awaited = s.awaited := by
  cases r <;> rfl

theorem setWaiting_subrequestCount :
    (s.setWaiting waiting r).subrequestCount = s.subrequestCount := by
  cases r <;> rfl

theorem await_awaited : (s.await r).awaited = s.awaited ++ [r] := by
  rw [Session.await, setWaiting_awaited]

theorem await_subrequestCount : (s.await r).subrequestCount =
      if r.counted then s.subrequestCount + 1 else s.subrequestCount := by
  rw [Session.await, setWaiting_subrequestCount]

end

/-! ## Channels and their terminations -/

/-- The RTP terminations are those of the channels with terminations, and
there is a context for them. -/
structure Built (s : Session) : Prop where
  paired : s.terminations.map TerminationSlot.termination = s.channels.map Channel.hasTermination
  context : s.context = s.terminations.any TerminationSlot.termination

theorem any_termination (l : List TerminationSlot) :
    l.any TerminationSlot.termination = (l.map TerminationSlot.termination).any id := by
  rw [List.any_map]
  rfl

theorem Built.steady {s s' : Session} (h : Built s) (hs : Steady s s') : Built s' where
  paired := by rw [hs.slots, hs.channels, h.paired]
  context := by rw [hs.context, h.context, any_termination, any_termination, hs.slots]

/-- The status that an answer leaves: the resource of an MRCPv1 offer may be
refused. -/
def answerStatus (profile : Profile) (s : Session) (offer answer : Descriptor) : SigStatus :=
  if profile.version = .v1 ∧ offer.resourceState = true ∧ answer.resourceState = false then .failure
  else s.status

/-- An answer of success changes the status at most. -/
theorem answerAccept_steady {profile : Profile} {s s' : Session} {offer answer : Descriptor}
    (h : answerAccept profile s offer answer = some s') :
    Steady { s with status := answerStatus profile s offer answer } s' := by
  obtain ⟨s1, hs1, h⟩ := Option.bind_eq_some_iff.mp h
  cases h
  refine Steady.trans ?_ (Steady.awaitIf s1 _ _)
  have hstart : Steady s ((s.stateSet .processingAnswer).awaitIf
      (s.stateSet .processingAnswer).context .topology) :=
    (Steady.stateSet s (by decide)).trans (Steady.awaitIf _ _ _)
  unfold mediaAnswerProcess mrcpClientResourceAnswerProcess at hs1
  unfold answerStatus
  split at hs1
  · rename_i hversion
    split_ifs at hs1 with hoffer hanswer
    · have hmedia := hstart.trans (Steady.audioMediaAnswers hs1)
      simpa [hanswer] using hmedia
    · cases hs1
      simp only [hversion, hoffer] at hanswer ⊢
      simp only [hanswer]
      exact { hstart with status := rfl }
    · cases hs1
      simpa [hoffer] using hstart
  · rename_i hversion
    obtain ⟨s2, hs2, hs1⟩ := Option.bind_eq_some_iff.mp hs1
    have hmedia := (hstart.trans (Steady.controlMediaAnswers hs2)).trans
      (Steady.audioMediaAnswers hs1)
    have hv : ¬ profile.version = .v1 := hversion
    simpa [hv] using hmedia

end UniMrcp.Client
