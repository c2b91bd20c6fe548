import UniMrcp.Engine.Dispatcher
import UniMrcp.Lib.Runs
import UniMrcp.Server.Requests

/-!
# Offers and terminations are answered once

`Counted` ties the count of a session and its flags to the responses that are
awaited, and `Phase` ties these to the state and the active request.  The
proofs go in two steps: what the last response of a phase does, and what a
message to the task does.
-/

namespace UniMrcp.Server

open UniMrcp.Lib UniMrcp.Lib.Runs UniMrcp.Apt UniMrcp.Mrcp UniMrcp.Engine

/-- What is left without an answer when a note is added: an answer is that of the
oldest, and none is sent while responses are awaited. -/
def Note.settle (pending : List Note) : Note → Option (List Note)
  | .answer awaited =>
    if awaited = [] ∧ pending.head? = some .offer then some pending.tail else none
  | .terminated awaited =>
    if awaited = [] ∧ pending.head? = some .terminate then some pending.tail else none
  | note => some (pending ++ [note])

/-- The offers and terminations of a log that have not been answered, if all
answers are in order. -/
def unanswered (log : List Note) : Option (List Note) := log.foldlM Note.settle []

theorem unanswered_append (log log' : List Note) :
    unanswered (log ++ log') =
      (unanswered log).bind (fun pending => log'.foldlM Note.settle pending) := by
  simp [unanswered, List.foldlM_append]

/-! ## Sessions -/

variable {s' : Session} {log : List Note} {o : Outcome}

section Session

variable {s s0 : Session} {c d t : Nat}

/-- Every request is counted once, and its flag is set. -/
structure Counted (s : Session) : Prop where
  count : s.subrequestCount = s.awaited.length
  keyed : Keyed flagOf s.waiting s.awaited

theorem Sending.counted (h : Sending s0 c d t s) (hs : s0.subrequestCount = s0.awaited.length) :
    Counted s :=
  ⟨h.issues.count hs, h.flagged.keyed⟩

theorem Counted.quiet (h : Counted s) (hs : Quiet s s') : Counted s' := by
  refine ⟨?_, ?_⟩
  · rw [hs.count, hs.awaited]
    exact h.count
  · rw [hs.awaited, hs.waiting]
    exact h.keyed

/-- The given notes and those of the queue are without an answer. -/
def Due (s : Session) (notes : List Note) : Prop :=
  unanswered s.log = some (notes ++ s.requestQueue.flatMap SignalingMessage.notes)

theorem Due.congr {notes : List Note} (h : Due s notes) (hlog : s'.log = s.log)
    (hqueue : s'.requestQueue = s.requestQueue) : Due s' notes := by
  rwa [Due, hlog, hqueue]

/-- A message that has to wait is noted behind those of the queue. -/
theorem Due.push {notes : List Note} (hdue : Due s notes) (message : SignalingMessage) :
    Due { s with log := s.log ++ message.notes, requestQueue := s.requestQueue ++ [message] }
      notes := by
  simp only [Due, unanswered_append]
  rw [show unanswered s.log = _ from hdue]
  cases message <;> simp [SignalingMessage.notes, Note.settle]

/-- An offer or a termination is being processed. -/
inductive Busy (s : Session) : Prop where
  | offer (descriptor : Offer) (hdue : Due s [.offer])
      (hactive : s.activeRequest = some (.offer descriptor))
      (hstate : s.state = .generatingAnswer ∧ s.offer.isSome ∨ s.state = .initializing)
  | terminate (hdue : Due s [.terminate]) (hactive : s.activeRequest = some .terminate)
      (hstate : s.state = .deactivating ∨ s.state = .terminating)

/-- Neither an offer nor a termination is being processed. -/
def SignalingMessage.isControl : SignalingMessage → Bool
  | .control _ _ => true
  | .offer _ | .terminate => false

/-- The phases of a session. -/
inductive Phase (s : Session) : Prop where
  | idle (hawaited : s.awaited = []) (hdue : Due s [])
      (hactive : s.activeRequest.all SignalingMessage.isControl = true)
  | busy (hawaited : s.awaited ≠ []) (h : Busy s)
  | ended (hawaited : s.awaited = []) (hdue : Due s [])
      (hactive : s.activeRequest = some .terminate) (hended : .terminated [] ∈ s.log)

theorem Busy.congr (h : Busy s) (hlog : s'.log = s.log)
    (hqueue : s'.requestQueue = s.requestQueue) (hactive' : s'.activeRequest = s.activeRequest)
    (hstate' : s'.state = s.state) (hoffer' : s'.offer = s.offer) : Busy s' := by
  cases h with
  | offer descriptor hdue hactive hstate =>
    refine .offer descriptor (hdue.congr hlog hqueue) (hactive'.trans hactive) ?_
    rw [hstate', hoffer']
    exact hstate
  | terminate hdue hactive hstate =>
    refine .terminate (hdue.congr hlog hqueue) (hactive'.trans hactive) ?_
    rw [hstate']
    exact hstate

theorem Busy.quiet (h : Busy s) (hs : Issues s s') : Busy s' :=
  h.congr hs.log hs.queue hs.active hs.state hs.offer

theorem Phase.quiet (h : Phase s) (hs : Quiet s s') : Phase s' := by
  cases h with
  | idle hawaited hdue hactive =>
    refine .idle (hs.awaited.trans hawaited) (hdue.congr hs.issues.log hs.issues.queue) ?_
    rw [hs.issues.active]
    exact hactive
  | busy hawaited h => exact .busy (hs.awaited ▸ hawaited) (h.quiet hs.issues)
  | ended hawaited hdue hactive hended =>
    exact .ended (hs.awaited.trans hawaited) (hdue.congr hs.issues.log hs.issues.queue)
      (hs.issues.active.trans hactive) (hs.issues.log ▸ hended)

end Session

/-! ## The last response of a phase -/

section Outcomes

variable {s s0 : Session} {c d t : Nat}

/-- No request is left in the queue while none is active. -/
def QueueTaken (s : Session) : Prop := s.activeRequest = none → s.requestQueue = []

theorem QueueTaken.of_active {message : SignalingMessage} (h : s.activeRequest = some message) :
    QueueTaken s := by
  intro hnone
  rw [h] at hnone
  cases hnone

theorem QueueTaken.quiet (h : QueueTaken s) (hs : Quiet s s') : QueueTaken s' := by
  intro hnone
  rw [hs.issues.queue]
  exact h (hs.issues.active ▸ hnone)

theorem Busy.queueTaken (h : Busy s) : QueueTaken s := by
  cases h with
  | offer _ _ hactive => exact .of_active hactive
  | terminate _ hactive => exact .of_active hactive

/-- The invariant of a session. -/
structure SessionInv (s : Session) : Prop where
  counted : Counted s
  phase : Phase s
  queue : QueueTaken s

theorem SessionInv.quiet (h : SessionInv s) (hs : Quiet s s') : SessionInv s' :=
  ⟨h.counted.quiet hs, h.phase.quiet hs, h.queue.quiet hs⟩

/-- The session may take its next request. -/
structure Ready (s : Session) : Prop where
  count : s.subrequestCount = 0
  awaited : s.awaited = []
  due : Due s []

theorem Ready.quiet (h : Ready s) (hs : Quiet s s') : Ready s' :=
  ⟨hs.count.trans h.count, hs.awaited.trans h.awaited,
    h.due.congr hs.issues.log hs.issues.queue⟩

theorem Ready.counted (h : Ready s) : Counted s :=
  ⟨by rw [h.count, h.awaited]; rfl, by rw [h.awaited]; exact Keyed.nil⟩

/-- What a function that has been called in the session `s` may leave to its
caller. -/
structure Outcome.Sound (s : Session) (o : Outcome) : Prop where
  active : o.session.activeRequest = s.activeRequest
  queue : o.session.requestQueue = s.requestQueue
  released : o.released = true → Ready o.session
  kept : o.released = false → SessionInv o.session

theorem Outcome.Sound.keep (h : SessionInv s) (hactive : s.activeRequest = s0.activeRequest)
    (hqueue : s.requestQueue = s0.requestQueue) : (Outcome.keep s).Sound s0 :=
  ⟨hactive, hqueue, nofun, fun _ => h⟩

theorem Outcome.Sound.trans (h : o.Sound s) (hactive : s.activeRequest = s0.activeRequest)
    (hqueue : s.requestQueue = s0.requestQueue) : o.Sound s0 :=
  ⟨h.active.trans hactive, h.queue.trans hqueue, h.released, h.kept⟩

/-- Requests have been sent, and so the phase goes on. -/
theorem Sending.busy (h : Sending s0 c d t s) (hs : s0.subrequestCount = s0.awaited.length)
    (hcount : s.subrequestCount ≠ 0) (hbusy : Busy s0) : SessionInv s := by
  have hcounted := h.counted hs
  have hbusy := hbusy.quiet h.issues
  refine ⟨hcounted, .busy (fun hnil => hcount ?_) hbusy, hbusy.queueTaken⟩
  rw [hcounted.count, hnil, List.length_nil]

theorem Counted.awaited_nil (h : Counted s) (hcount : s.subrequestCount = 0) : s.awaited = [] :=
  List.length_eq_zero_iff.mp (h.count.symm.trans hcount)

theorem mrcpServerSessionAnswerSend_sound (hdue : Due s [.offer]) (hcount : s.subrequestCount = 0)
    (hawaited : s.awaited = []) : (mrcpServerSessionAnswerSend s).Sound s := by
  refine ⟨rfl, rfl, fun _ => ⟨hcount, hawaited, ?_⟩, nofun⟩
  simp only [Due, mrcpServerSessionAnswerSend, unanswered_append, hawaited]
  rw [show unanswered s.log = _ from hdue]
  rfl

theorem mrcpServerSessionTerminateSend_sound (hdue : Due s [.terminate])
    (hactive : s.activeRequest = some .terminate) (hcount : s.subrequestCount = 0)
    (hawaited : s.awaited = []) : (Outcome.keep (mrcpServerSessionTerminateSend s)).Sound s := by
  refine .keep ⟨⟨?_, ?_⟩, .ended hawaited ?_ hactive ?_, .of_active hactive⟩ rfl rfl
  · exact hcount.trans (congrArg List.length hawaited).symm
  · rw [show (mrcpServerSessionTerminateSend s).awaited = [] from hawaited]
    exact Keyed.nil
  · simp only [Due, mrcpServerSessionTerminateSend, unanswered_append, hawaited]
    rw [show unanswered s.log = _ from hdue]
    rfl
  · simp [mrcpServerSessionTerminateSend, hawaited]

/-- The end of both phases of an offer. -/
theorem Sending.offer_sound {descriptor : Offer} (h : Sending s0 c d t s)
    (hs : s0.subrequestCount = s0.awaited.length) (hdue : Due s0 [.offer])
    (hactive : s0.activeRequest = some (.offer descriptor))
    (hstate : s0.state = .generatingAnswer ∧ s0.offer.isSome ∨ s0.state = .initializing) :
    (if s.subrequestCount = 0 then mrcpServerSessionAnswerSend s else .keep s).Sound s0 := by
  by_cases hcount : s.subrequestCount = 0
  · simp only [hcount]
    exact (mrcpServerSessionAnswerSend_sound (hdue.congr h.issues.log h.issues.queue) hcount
      ((h.counted hs).awaited_nil hcount)).trans h.issues.active h.issues.queue
  · simp only [hcount]
    exact .keep (h.busy hs hcount (.offer descriptor hdue hactive hstate)) h.issues.active
      h.issues.queue

theorem mrcpServerEngineChannelsUpdate_sound (profile : Profile) (plugin : Plugin)
    {descriptor : Offer} (hdue : Due s [.offer])
    (hactive : s.activeRequest = some (.offer descriptor)) (hoffer : s.offer.isSome)
    (hawaited : s.awaited = []) : (mrcpServerEngineChannelsUpdate profile plugin s).Sound s := by
  obtain ⟨offer, hoffer⟩ := Option.isSome_iff_exists.mp hoffer
  have hstart : Sending (s.stateSet .initializing) 0 0 0 (s.stateSet .initializing) :=
    Sending.start hawaited
  have hend : ∀ s', Sending (s.stateSet .initializing) 0 0 0 s' →
      (if s'.subrequestCount = 0 then mrcpServerSessionAnswerSend s' else .keep s').Sound s :=
    fun _ hsent => (hsent.offer_sound (congrArg List.length hawaited).symm hdue hactive
      (.inr rfl)).trans rfl rfl
  unfold mrcpServerEngineChannelsUpdate
  simp only [hoffer]
  apply hend
  split
  · split
    · exact hstart
    · split
      · exact hstart
      · exact engineChannelOpen_sending plugin hstart _ _
  · exact forLoop_invariant (P := fun _ => Sending (s.stateSet .initializing) 0 0 0)
      (Nat.zero_le _) hstart
      (fun i s' _ _ hs => engineChannelUpdate_sending plugin offer hs i)

theorem mrcpServerSessionOfferProcess_sound (profile : Profile) (offer : Offer)
    (hdue : Due s [.offer]) (hactive : s.activeRequest = some (.offer offer))
    (hawaited : s.awaited = []) : (mrcpServerSessionOfferProcess profile s offer).Sound s := by
  generalize hs0 : ({ s with
    context := true, offer := some offer,
    answer := some (mrcpSessionAnswerCreate offer) } : Session).stateSet .generatingAnswer = s0
  have hnil : s0.awaited = [] := by
    subst hs0
    exact hawaited
  have hstart : Sending s0 0 0 0 (s0.await .topology) := (Sending.start hnil).await_none rfl
  have hend : ∀ s', (∃ c d t, Sending s0 c d t s') →
      (if s'.subrequestCount = 0 then mrcpServerSessionAnswerSend s' else .keep s').Sound s := by
    rintro s' ⟨c, d, t, hsent⟩
    subst hs0
    exact (hsent.offer_sound (congrArg List.length hawaited).symm hdue hactive
      (.inl ⟨rfl, rfl⟩)).trans rfl rfl
  unfold mrcpServerSessionOfferProcess
  dsimp only
  rw [hs0]
  refine hend _ ?_
  cases profile.version with
  | v1 =>
    have hresource := mrcpServerResourceOfferProcess_sending profile offer hstart
    generalize mrcpServerResourceOfferProcess profile (s0.await .topology) offer = result
      at hresource ⊢
    obtain ⟨_ | _, s1⟩ := result
    · exact ⟨_, _, _, (hresource.modifyAnswer _).await_none rfl⟩
    · obtain ⟨t, hav⟩ := mrcpServerAvMediaOfferProcess_sending offer hresource
      exact ⟨_, _, t, hav.await_none rfl⟩
  | v2 | unknown =>
    have hcontrol := mrcpServerControlMediaOfferProcess_sending profile offer hstart
    obtain ⟨t, hav⟩ := mrcpServerAvMediaOfferProcess_sending offer hcontrol
    exact ⟨_, _, t, hav.await_none rfl⟩

section

variable (plugin : Plugin) (hdue : Due s [.terminate])
  (hactive : s.activeRequest = some .terminate) (hawaited : s.awaited = [])
include hdue hactive hawaited

theorem mrcpServerSessionTerminateProcess_sound :
    (Outcome.keep (mrcpServerSessionTerminateProcess plugin s)).Sound s := by
  have hstart : Sending (s.stateSet .terminating) 0 0 0 (s.stateSet .terminating) :=
    Sending.start hawaited
  have hzero : (s.stateSet .terminating).subrequestCount =
      (s.stateSet .terminating).awaited.length := (congrArg List.length hawaited).symm
  unfold mrcpServerSessionTerminateProcess
  dsimp only
  generalize hs1 : (if (s.stateSet .terminating).context = true then _ else _ : Session) = s1
  have hcontext : Sending (s.stateSet .terminating) 0 0 0 s1 := by
    subst hs1
    split
    · exact hstart.await_none rfl
    · exact hstart
  have hchannels := forLoop_invariant
    (P := fun i s' => Sending (s.stateSet .terminating) i i 0 s') (Nat.zero_le s1.channels.length)
    hcontext (fun i s' _ _ hs => channelTerminate_sending plugin hs)
  generalize forLoop 0 s1.channels.length (channelTerminate plugin) s1 = s2 at hchannels ⊢
  let Bound (j : Nat) (s' : Session) : Prop :=
    Sending (s.stateSet .terminating) s1.channels.length s1.channels.length j s' ∧
      s'.terminations.length = s2.terminations.length
  have hslots : Bound s2.terminations.length (forLoop 0 s2.terminations.length
      (fun s j => s.await (.slotSubtract j)) s2) :=
    forLoop_invariant (Nat.zero_le _) ⟨hchannels, rfl⟩
      (fun j s' _ hj hs => ⟨hs.1.await_some (k := .slot j) rfl (lt_of_lt_of_eq hj hs.2.symm)
        (lt_irrefl j) (Nat.lt_succ_self j) le_rfl le_rfl (Nat.le_succ j),
        (s'.await_terminations_length _).trans hs.2⟩)
  split
  · rename_i hcount
    exact (mrcpServerSessionTerminateSend_sound
      (hdue.congr hslots.1.issues.log hslots.1.issues.queue)
      (hslots.1.issues.active.trans hactive) hcount
      ((hslots.1.counted hzero).awaited_nil hcount)).trans hslots.1.issues.active
      hslots.1.issues.queue
  · rename_i hcount
    exact .keep (hslots.1.busy hzero hcount (.terminate hdue hactive (.inr rfl)))
      hslots.1.issues.active hslots.1.issues.queue

theorem mrcpServerSessionDeactivate_sound :
    (Outcome.keep (mrcpServerSessionDeactivate plugin s)).Sound s := by
  have hzero : (s.stateSet .deactivating).subrequestCount =
      (s.stateSet .deactivating).awaited.length := (congrArg List.length hawaited).symm
  have hloop := forLoop_invariant
    (P := fun _ => Sending (s.stateSet .deactivating) 0 0 0)
    (Nat.zero_le (s.stateSet .deactivating).channels.length) (Sending.start hawaited)
    (fun i s' _ _ hs => channelDeactivate_sending plugin hs i)
  unfold mrcpServerSessionDeactivate
  dsimp only
  generalize forLoop 0 _ (channelDeactivate plugin) _ = s1 at hloop ⊢
  by_cases hcount : s1.subrequestCount = 0
  · simp only [hcount, if_true]
    exact (mrcpServerSessionTerminateProcess_sound plugin
      (hdue.congr hloop.issues.log hloop.issues.queue) (hloop.issues.active.trans hactive)
      ((hloop.counted hzero).awaited_nil hcount)).trans hloop.issues.active hloop.issues.queue
  · simp only [hcount, if_false]
    exact .keep (hloop.busy hzero hcount (.terminate hdue hactive (.inl rfl)))
      hloop.issues.active hloop.issues.queue

end

/-- A response has arrived: it is no longer awaited, and it is still counted. -/
structure Arrived (s : Session) : Prop where
  count : s.subrequestCount = s.awaited.length + 1
  keyed : Keyed flagOf s.waiting s.awaited
  busy : Busy s

theorem mrcpServerSessionSubrequestRemove_sound (profile : Profile) (plugin : Plugin)
    (h : Arrived s) : (mrcpServerSessionSubrequestRemove profile plugin s).Sound s := by
  unfold mrcpServerSessionSubrequestRemove
  have hcount : s.subrequestCount - 1 = s.awaited.length := by rw [h.count]; rfl
  have hbusy : Busy { s with subrequestCount := s.subrequestCount - 1 } :=
    h.busy.congr rfl rfl rfl rfl rfl
  have hne : s.subrequestCount ≠ 0 := by rw [h.count]; exact Nat.succ_ne_zero _
  simp only [hne]
  by_cases hlast : s.subrequestCount - 1 = 0
  · have hawaited : s.awaited = [] := List.length_eq_zero_iff.mp (hcount.symm.trans hlast)
    simp only [hlast]
    refine Outcome.Sound.trans (s := { s with subrequestCount := 0 }) ?_ rfl rfl
    cases hbusy with
    | offer descriptor hdue hactive hstate =>
      rcases hstate with ⟨hstate, hoffer⟩ | hstate
      · rw [show s.state = .generatingAnswer from hstate]
        exact mrcpServerEngineChannelsUpdate_sound profile plugin hdue hactive hoffer hawaited
      · rw [show s.state = .initializing from hstate]
        exact mrcpServerSessionAnswerSend_sound hdue rfl hawaited
    | terminate hdue hactive hstate =>
      rcases hstate with hstate | hstate
      · rw [show s.state = .deactivating from hstate]
        exact mrcpServerSessionTerminateProcess_sound plugin hdue hactive hawaited
      · rw [show s.state = .terminating from hstate]
        exact mrcpServerSessionTerminateSend_sound hdue hactive rfl hawaited
  · simp only [hlast]
    refine .keep ⟨⟨hcount, ?_⟩, .busy (fun hnil => hlast ?_) hbusy, hbusy.queueTaken⟩ rfl rfl
    · exact h.keyed.mono (fun k _ hk => by cases k <;> exact hk)
    · rw [hcount, show s.awaited = [] from hnil, List.length_nil]

end Outcomes

/-! ## Messages to the task -/

section Steps

variable {s : Session} {profile : Profile} {plugin : Plugin}

/-- The response `r` has been taken from the awaited ones of `s`, and its flag
may have been cleared. -/
structure Taken (s : Session) (r : Awaited) (s' : Session) : Prop where
  awaited : s'.awaited = s.awaited.erase r
  waiting : ∀ k, flagOf r ≠ some k → s.waiting k = true → s'.waiting k = true
  count : s'.subrequestCount = s.subrequestCount
  log : s'.log = s.log
  active : s'.activeRequest = s.activeRequest
  queue : s'.requestQueue = s.requestQueue
  state : s'.state = s.state
  offer : s'.offer = s.offer

namespace Taken

variable {r : Awaited} {s' : Session}

theorem erase (s : Session) (r : Awaited) : Taken s r { s with awaited := s.awaited.erase r } :=
  ⟨rfl, fun k _ hk => by cases k <;> exact hk, rfl, rfl, rfl, rfl, rfl, rfl⟩

section

variable (h : Taken s r s')
include h

theorem modifyAnswer (f : Answer → Answer) : Taken s r (s'.modifyAnswer f) :=
  { h with waiting := fun k hr hk => by have := h.waiting k hr hk; cases k <;> exact this }

theorem clearChannel {i : Nat} (hr : flagOf r = some (.channel i)) :
    Taken s r (s'.modifyChannel i (fun channel =>
      { channel with waitingForChannel := false })) := by
  refine { h with waiting := fun k hk hset => ?_ }
  refine (s'.waiting_modifyChannel (.inl ?_) (.inr ?_)).trans (h.waiting k hk hset)
  · exact fun hki => hk (hki ▸ hr)
  · exact fun _ => rfl

theorem clearTermination {i : Nat} (hr : flagOf r = some (.termination i)) :
    Taken s r
      (s'.modifyChannel i (fun channel => { channel with waitingForTermination := false })) := by
  refine { h with waiting := fun k hk hset => ?_ }
  refine (s'.waiting_modifyChannel (.inr ?_) (.inl ?_)).trans (h.waiting k hk hset)
  · exact fun _ => rfl
  · exact fun hki => hk (hki ▸ hr)

theorem clearSlot {j : Nat} (hr : flagOf r = some (.slot j)) :
    Taken s r (s'.modifySlot j (fun slot => { slot with waiting := false })) := by
  refine { h with waiting := fun k hk hset => ?_ }
  refine (s'.waiting_modifySlot (.inl ?_)).trans (h.waiting k hk hset)
  exact fun hki => hk (hki ▸ hr)

/-- The response was counted, and one of a phase that goes on. -/
theorem arrived (hs : SessionInv s) (hr : r ∈ s.awaited) : Arrived s' := by
  have hpos := List.length_pos_of_mem hr
  refine ⟨?_, ?_, ?_⟩
  · rw [h.count, hs.counted.count, h.awaited, List.length_erase_of_mem hr]
    omega
  · rw [h.awaited]
    exact hs.counted.keyed.erase hr h.waiting
  · cases hs.phase with
    | busy _ hbusy => exact hbusy.congr h.log h.queue h.active h.state h.offer
    | idle hnil | ended hnil =>
      rw [hnil] at hr
      cases hr

end

end Taken

theorem responseProcess_sound (h : SessionInv s) {r : Awaited} (hr : r ∈ s.awaited)
    (data : ResponseData) (hdeactivation : ∀ i, r ≠ .deactivation i) :
    (responseProcess profile plugin { s with awaited := s.awaited.erase r } data r).Sound s := by
  have hremove : ∀ {s' : Session}, Taken s r s' →
      (mrcpServerSessionSubrequestRemove profile plugin s').Sound s := fun hs =>
    (mrcpServerSessionSubrequestRemove_sound profile plugin (hs.arrived h hr)).trans hs.active
      hs.queue
  have herase := Taken.erase s r
  -- the handlers find the flag set
  have hflag : ∀ k, flagOf r = some k → s.waiting k = true :=
    fun k => h.counted.keyed.waiting_of_mem hr
  cases r with
  | channelModify i =>
    obtain ⟨channel, hchannel, hwaiting⟩ := (Option.any_eq_true _ s.channels[i]?).mp
      (hflag (.channel i) rfl)
    simp only [responseProcess, mrcpServerOnChannelModify, hchannel, hwaiting]
    exact hremove ((herase.clearChannel rfl).modifyAnswer _)
  | channelRemove i =>
    obtain ⟨channel, hchannel, hwaiting⟩ := (Option.any_eq_true _ s.channels[i]?).mp
      (hflag (.channel i) rfl)
    simp only [responseProcess, mrcpServerOnChannelRemove, hchannel, hwaiting]
    exact hremove (herase.clearChannel rfl)
  | terminationAdd i | terminationSubtract i =>
    obtain ⟨channel, hchannel, hwaiting⟩ := (Option.any_eq_true _ s.channels[i]?).mp
      (hflag (.termination i) rfl)
    simp only [responseProcess, onEngineTermination, hchannel, hwaiting]
    exact hremove (herase.clearTermination rfl)
  | slotModify j =>
    obtain ⟨slot, hslot, hwaiting⟩ := (Option.any_eq_true _ s.terminations[j]?).mp
      (hflag (.slot j) rfl)
    simp only [responseProcess, onSlotModify, hslot, hwaiting]
    refine hremove ?_
    split
    · exact (herase.clearSlot rfl).modifyAnswer _
    · exact herase.clearSlot rfl
  | slotSubtract j =>
    obtain ⟨slot, hslot, hwaiting⟩ := (Option.any_eq_true _ s.terminations[j]?).mp
      (hflag (.slot j) rfl)
    simp only [responseProcess, onSlotSubtract, hslot, hwaiting]
    exact hremove (herase.clearSlot rfl)
  | engineOpen i =>
    refine hremove ?_
    split
    · exact herase
    · exact herase.modifyAnswer _
  | engineClose i => exact hremove herase
  | topology => exact hremove herase
  | deactivation i => exact absurd rfl (hdeactivation i)

/-- Nothing is awaited, and a message for a resource or none is active. -/
structure Resting (s : Session) : Prop where
  ready : Ready s
  active : s.activeRequest.all SignalingMessage.isControl = true
  queue : QueueTaken s

theorem Resting.quiet (h : Resting s) (hs : Quiet s s') : Resting s' :=
  ⟨h.ready.quiet hs, hs.issues.active.symm ▸ h.active, h.queue.quiet hs⟩

theorem Resting.inv (h : Resting s) : SessionInv s :=
  ⟨h.ready.counted, .idle h.ready.awaited h.ready.due h.active, h.queue⟩

/-- A session at rest stays so, whatever a state machine calls. -/
theorem callbackRun_resting (i : Nat) (h : Resting o.session) (callback : Callback) :
    Resting (callbackRun profile plugin i o callback).session := by
  cases callback with
  | onDispatch message =>
    exact h.quiet (Quiet.stateMachineOnMessageDispatch plugin o.session i message)
  | onDeactivate =>
    have hcount : o.session.subrequestCount = 0 := h.ready.count
    have hawaited : o.session.awaited.erase (.deactivation i) = [] := by
      rw [h.ready.awaited]
      rfl
    simp only [callbackRun, hcount]
    exact ⟨⟨rfl, hawaited, h.ready.due⟩, h.active, h.queue⟩

/-- The calls of a state machine in a session at rest. -/
theorem callbacks_resting (i : Nat) (callbacks : List Callback) (h : Resting o.session) :
    (callbacks.foldl (callbackRun profile plugin i) o).Sound o.session := by
  suffices hrun : ∀ {o' : Outcome}, Resting o'.session →
      o'.session.activeRequest = o.session.activeRequest →
      o'.session.requestQueue = o.session.requestQueue →
      (callbacks.foldl (callbackRun profile plugin i) o').Sound o.session from hrun h rfl rfl
  clear h
  induction callbacks with
  | nil => exact fun h hactive hqueue => ⟨hactive, hqueue, fun _ => h.ready, fun _ => h.inv⟩
  | cons callback callbacks ih =>
    intro o' h hactive hqueue
    have hcalled : (callbackRun profile plugin i o' callback).session.activeRequest =
          o'.session.activeRequest ∧
        (callbackRun profile plugin i o' callback).session.requestQueue =
          o'.session.requestQueue := by
      cases callback with
      | onDispatch message =>
        have hissues := (Quiet.stateMachineOnMessageDispatch plugin o'.session i message).issues
        exact ⟨hissues.active, hissues.queue⟩
      | onDeactivate =>
        simp [callbackRun, mrcpServerSessionSubrequestRemove, h.ready.count, Outcome.keep]
    exact ih (callbackRun_resting i h callback) (hcalled.1.trans hactive) (hcalled.2.trans hqueue)

/-- The response of a resource. -/
def Callback.isResponse : Callback → Bool
  | .onDispatch message => message.startLine.messageType == .response
  | .onDeactivate => false

theorem stateMachineOnMessageDispatch_released {message : MrcpMessage} (i : Nat)
    (h : Callback.isResponse (.onDispatch message) = false) :
    (stateMachineOnMessageDispatch plugin s i message).2 = false := by
  simp only [Callback.isResponse, beq_eq_false_iff_ne] at h
  unfold stateMachineOnMessageDispatch
  cases htype : message.startLine.messageType with
  | response => exact absurd htype h
  | request | event | unknown => rfl

/-- Responses are awaited when the last of a phase has not been taken. -/
theorem mrcpServerSessionSubrequestRemove_awaited (profile : Profile) (plugin : Plugin)
    (h : Arrived s) (hawaited : s.awaited ≠ []) :
    mrcpServerSessionSubrequestRemove profile plugin s =
      .keep { s with subrequestCount := s.subrequestCount - 1 } := by
  have hpos : 0 < s.awaited.length := List.length_pos_iff.mpr hawaited
  have hcount := h.count
  have hne : s.subrequestCount ≠ 0 := by omega
  have hmore : s.subrequestCount - 1 ≠ 0 := by omega
  simp [mrcpServerSessionSubrequestRemove, hne, hmore]

/-- What the calls of a state machine do during an offer or a termination: it
passes on no response, and calls back no more often than it has been
deactivated. -/
theorem callbacks_sound (i : Nat) (callbacks : List Callback) (h : o.Sound s)
    (hresponse : callbacks.any Callback.isResponse = false)
    (hdeactivate : callbacks.count .onDeactivate ≤ o.session.awaited.count (.deactivation i)) :
    (callbacks.foldl (callbackRun profile plugin i) o).Sound s := by
  induction callbacks generalizing o with
  | nil => exact h
  | cons callback callbacks ih =>
    rw [List.any_cons, Bool.or_eq_false_iff] at hresponse
    cases callback with
    | onDispatch message =>
      have hquiet := Quiet.stateMachineOnMessageDispatch plugin o.session i message
      have hreleased : (callbackRun profile plugin i o (.onDispatch message)).released =
          o.released := by
        simp [callbackRun, stateMachineOnMessageDispatch_released i hresponse.1]
      refine ih ⟨hquiet.issues.active.trans h.active, hquiet.issues.queue.trans h.queue, ?_, ?_⟩
        hresponse.2 ?_
      · rw [hreleased]
        exact fun hr => (h.released hr).quiet hquiet
      · rw [hreleased]
        exact fun hr => (h.kept hr).quiet hquiet
      · rw [show (callbackRun profile plugin i o (.onDispatch message)).session.awaited =
          o.session.awaited from hquiet.awaited]
        simpa using hdeactivate
    | onDeactivate =>
      rw [List.count_cons_self] at hdeactivate
      have hmem : .deactivation i ∈ o.session.awaited :=
        List.count_pos_iff.mp (lt_of_lt_of_le (Nat.succ_pos _) hdeactivate)
      -- an outcome that has ended its request has nothing awaited
      have hreleased : o.released = false := by
        by_contra hr
        rw [(h.released (Bool.of_not_eq_false hr)).awaited] at hmem
        cases hmem
      have harrived := (Taken.erase o.session (.deactivation i)).arrived (h.kept hreleased) hmem
      have hsound := mrcpServerSessionSubrequestRemove_sound profile plugin harrived
      refine ih ?_ hresponse.2 ?_
      · refine ⟨hsound.active.trans h.active, hsound.queue.trans h.queue, ?_, ?_⟩
        · simpa [callbackRun, hreleased] using hsound.released
        · simpa [callbackRun, hreleased] using hsound.kept
      · by_cases hnil : o.session.awaited.erase (.deactivation i) = []
        · have hlength := List.length_erase_of_mem hmem
          have hcount := List.count_le_length (a := .deactivation i) (l := o.session.awaited)
          rw [hnil, List.length_nil] at hlength
          omega
        · have hkeep := mrcpServerSessionSubrequestRemove_awaited profile plugin harrived hnil
          simp only [callbackRun, hkeep, Outcome.keep]
          rw [List.count_erase_self]
          omega

/-- The state machine of a channel is updated by a session at rest. -/
theorem stateMachineUpdate_resting (h : Resting s) (i : Nat) (machine : Machine)
    (message : MrcpMessage) (ho : stateMachineUpdate profile plugin s i machine message = .ok o) :
    o.Sound s := by
  obtain ⟨reaction, -, ho⟩ := Checked.bind_eq_ok.mp ho
  cases ho
  exact (callbacks_resting i reaction.callbacks
    (h.quiet (Quiet.modifyChannel s i (fun _ => some reaction.machine)))).trans rfl rfl

/-- A message is dispatched when it is the oldest without an answer. -/
theorem mrcpServerSignalingMessageDispatch_sound (message : SignalingMessage)
    (hcount : s.subrequestCount = 0) (hawaited : s.awaited = []) (hdue : Due s message.notes)
    (hactive : s.activeRequest = some message)
    (ho : mrcpServerSignalingMessageDispatch profile plugin s message = .ok o) : o.Sound s := by
  cases message with
  | offer descriptor =>
    cases ho
    exact mrcpServerSessionOfferProcess_sound profile descriptor hdue hactive hawaited
  | terminate =>
    cases ho
    exact mrcpServerSessionDeactivate_sound plugin hdue hactive hawaited
  | control channel message =>
    have hresting : Resting s :=
      ⟨⟨hcount, hawaited, hdue⟩, by rw [hactive]; rfl, .of_active hactive⟩
    simp only [mrcpServerSignalingMessageDispatch, mrcpServerOnMessageReceive] at ho
    split at ho
    · cases ho
      exact .keep hresting.inv rfl rfl
    · split at ho
      · cases ho
        exact .keep hresting.inv rfl rfl
      · exact stateMachineUpdate_resting hresting _ _ message ho

/-- The requests of the queue, one after the other. -/
theorem nextRequest_inv (queue : List SignalingMessage) (s : Session) (h : Ready s)
    (hqueue : s.requestQueue = queue) (hs : nextRequest profile plugin queue s = .ok s') :
    SessionInv s' := by
  induction queue generalizing s s' with
  | nil =>
    cases hs
    exact Resting.inv ⟨⟨h.count, h.awaited, h.due.congr rfl hqueue.symm⟩, rfl, fun _ => rfl⟩
  | cons message queue ih =>
    obtain ⟨o, s1, hdispatch, hs1, rfl⟩ := nextRequest_cons hs
    refine SessionInv.quiet ?_ (Quiet.dispatchPending plugin s1 o.pending)
    have hdue : Due { s with activeRequest := some message, requestQueue := queue }
        message.notes := by
      simpa [Due, hqueue] using h.due
    have hsound := mrcpServerSignalingMessageDispatch_sound message
      (s := { s with activeRequest := some message, requestQueue := queue }) h.count h.awaited
      hdue rfl hdispatch
    rcases hs1 with ⟨hreleased, rfl⟩ | ⟨hreleased, hnext⟩
    · exact hsound.kept hreleased
    · exact ih o.session (hsound.released hreleased) hsound.queue hnext

theorem Outcome.Sound.finish (h : o.Sound s) (hs : o.finish profile plugin = .ok s') :
    SessionInv s' := by
  obtain ⟨s1, hs1, rfl⟩ := Outcome.finish_cases hs
  refine SessionInv.quiet ?_ (Quiet.dispatchPending plugin s1 o.pending)
  rcases hs1 with ⟨hreleased, rfl⟩ | ⟨hreleased, hnext⟩
  · exact h.kept hreleased
  · exact nextRequest_inv _ _ (h.released hreleased) rfl hnext

end Steps

/-! ## Runs -/

/-- What the state machine of a channel makes of a message of its engine. -/
def engineReaction (s : Session) (plugin : Plugin) (i : Nat) (message : MrcpMessage) :
    Option Reaction :=
  ((s.channels[i]?).bind Channel.stateMachine).bind (fun machine =>
    (machine.update plugin.memory message).toOption)

/-- The messages of the engines.  One that makes a resource answer comes while
a message for a resource is active, or none, and a state machine calls back no
more often than it has been deactivated. -/
def Orderly (s : Session) (input : Plugin × Input) : Prop :=
  match input.2 with
  | .engineMessage i message => ∀ reaction ∈ engineReaction s input.1 i message,
      (reaction.callbacks.any Callback.isResponse = true →
        s.activeRequest.all SignalingMessage.isControl = true) ∧
      reaction.callbacks.count .onDeactivate ≤ s.awaited.count (.deactivation i)
  | .signal _ | .response _ _ => True

instance decidableOrderly (s : Session) : (input : Plugin × Input) → Decidable (Orderly s input)
  | (plugin, .engineMessage i message) =>
    inferInstanceAs (Decidable (∀ reaction ∈ engineReaction s plugin i message, _ ∧ _))
  | (_, .signal _) | (_, .response _ _) => isTrue trivial

section Runs

variable {s s' : Session} {profile : Profile} {plugin : Plugin}

theorem toOption_eq_some {α : Type} {x : Checked α} {a : α} :
    x.toOption = some a ↔ x = .ok a := by
  cases x <;> simp [Except.toOption]

section

variable (h : SessionInv s)
include h

/-- A session that works on a message for a resource, or on nothing. -/
theorem SessionInv.resting (hactive : s.activeRequest.all SignalingMessage.isControl = true) :
    Resting s := by
  cases h.phase with
  | idle hawaited hdue _ =>
    exact ⟨⟨h.counted.count.trans (congrArg List.length hawaited), hawaited, hdue⟩, hactive,
      h.queue⟩
  | busy _ hbusy =>
    cases hbusy with
    | offer _ _ hsome => rw [hsome] at hactive; cases hactive
    | terminate _ hsome => rw [hsome] at hactive; cases hactive
  | ended _ _ hsome => rw [hsome] at hactive; cases hactive

theorem signal_inv (message : SignalingMessage)
    (hs : mrcpServerSignalingMessageProcess profile plugin s message = .ok s') :
    SessionInv s' := by
  unfold mrcpServerSignalingMessageProcess at hs
  cases hactive : s.activeRequest with
  | some active =>
    simp only [hactive] at hs
    cases hs
    refine ⟨⟨h.counted.count, h.counted.keyed.mono (fun k _ hk => by cases k <;> exact hk)⟩, ?_,
      .of_active rfl⟩
    cases h.phase with
    | idle hawaited hdue hcontrol =>
      exact .idle hawaited ((hdue.push message).congr rfl rfl) (hactive ▸ hcontrol)
    | busy hawaited hbusy =>
      refine .busy hawaited ?_
      cases hbusy with
      | offer descriptor hdue hoffer hstate =>
        exact .offer descriptor ((hdue.push message).congr rfl rfl) (hactive ▸ hoffer) hstate
      | terminate hdue hterminate hstate =>
        exact .terminate ((hdue.push message).congr rfl rfl) (hactive ▸ hterminate) hstate
    | ended hawaited hdue hterminate hended =>
      exact .ended hawaited ((hdue.push message).congr rfl rfl) (hactive ▸ hterminate)
        (List.mem_append_left _ hended)
  | none =>
    have hready := (h.resting (by rw [hactive]; rfl)).ready
    have hdue : Due { s with log := s.log ++ message.notes, activeRequest := some message }
        message.notes := by
      have hpush := hready.due.push message
      simpa [Due, h.queue hactive] using hpush
    simp only [hactive] at hs
    obtain ⟨o, hdispatch, hs⟩ := Checked.bind_eq_ok.mp hs
    exact (mrcpServerSignalingMessageDispatch_sound message
      (s := { s with log := s.log ++ message.notes, activeRequest := some message })
      hready.count hready.awaited hdue rfl hdispatch).finish hs

theorem engineMessage_inv (i : Nat) (message : MrcpMessage)
    (horderly : Orderly s (plugin, .engineMessage i message))
    (ho : mrcpServerOnEngineChannelMessage profile plugin (engineAnswer s i message) i message =
      .ok o) :
    o.Sound s := by
  have hquiet := Quiet.engineAnswer s i message
  have hchannels : (engineAnswer s i message).channels = s.channels := by
    unfold engineAnswer
    split <;> rfl
  simp only [mrcpServerOnEngineChannelMessage, hchannels] at ho
  cases hmachine : (s.channels[i]?).bind Channel.stateMachine with
  | none =>
    simp only [hmachine] at ho
    cases ho
    exact .keep (h.quiet hquiet) hquiet.issues.active hquiet.issues.queue
  | some machine =>
    simp only [hmachine] at ho
    by_cases hcontrol : s.activeRequest.all SignalingMessage.isControl = true
    · exact (stateMachineUpdate_resting ((h.resting hcontrol).quiet hquiet) i machine message
        ho).trans hquiet.issues.active hquiet.issues.queue
    · obtain ⟨reaction, hreaction, ho⟩ := Checked.bind_eq_ok.mp ho
      cases ho
      have hmem : reaction ∈ engineReaction s plugin i message := by
        simp only [engineReaction, hmachine, Option.bind_some, hreaction]
        rfl
      obtain ⟨hresponse, hdeactivate⟩ := horderly reaction hmem
      have hupdated := hquiet.trans (Quiet.modifyChannel _ i (fun _ => some reaction.machine))
      refine callbacks_sound i reaction.callbacks
        ⟨hupdated.issues.active, hupdated.issues.queue, nofun, fun _ => h.quiet hupdated⟩ ?_ ?_
      · exact Bool.of_not_eq_true (fun hany => hcontrol (hresponse hany))
      · rw [show _ = s.awaited from hupdated.awaited]
        exact hdeactivate

/-- Every message to the task keeps the invariant. -/
theorem step_inv {input : Plugin × Input} (horderly : Orderly s input)
    (hs : step profile s input = some s') : SessionInv s' := by
  obtain ⟨plugin, input⟩ := input
  cases input with
  | signal message => exact signal_inv h message (toOption_eq_some.mp hs)
  | response r data =>
    have hdeactivation : ∀ i, r ≠ .deactivation i := by
      rintro i rfl
      cases hs
    by_cases hr : r ∈ s.awaited
    · have hs : ((responseProcess profile plugin { s with awaited := s.awaited.erase r } data
          r).finish profile plugin).toOption = some s' := by
        cases r <;> first | exact absurd rfl (hdeactivation _) | simpa [step, hr] using hs
      exact (responseProcess_sound h hr data hdeactivation).finish (toOption_eq_some.mp hs)
    · cases r <;> first | exact absurd rfl (hdeactivation _) | simp [step, hr] at hs
  | engineMessage i message =>
    obtain ⟨o, ho, hs⟩ := Checked.bind_eq_ok.mp (toOption_eq_some.mp hs)
    exact (engineMessage_inv h i message horderly ho).finish hs

end

theorem mrcpServerSessionCreate_inv : SessionInv mrcpServerSessionCreate :=
  Resting.inv ⟨⟨rfl, rfl, rfl⟩, rfl, fun _ => rfl⟩

/-- A session is set up, gets a RECOGNIZE request and is terminated while this
is in progress; the responses of a phase come in another order than they were
asked for. -/
def setupAndTermination : List (Plugin × Input) :=
  [.signal (.offer recognizerOffer),
    .response .topology ⟨true, 0, false⟩, .response (.slotModify 0) ⟨true, 0, true⟩,
    .response .topology ⟨true, 0, false⟩, .response (.channelModify 0) ⟨true, 1544, false⟩,
    .response .topology ⟨true, 0, false⟩, .response (.terminationAdd 0) ⟨true, 0, false⟩,
    .response (.engineOpen 0) ⟨true, 0, false⟩,
    .signal (.control (some 0) (recogRequest 3 1)), .signal .terminate,
    .engineMessage 0 (inProgress (recogRequest 3 1)),
    .engineMessage 0 (mrcpResponseCreate (recogRequest 7 2)),
    .response (.slotSubtract 0) ⟨true, 0, false⟩, .response (.engineClose 0) ⟨true, 0, false⟩,
    .response (.terminationSubtract 0) ⟨true, 0, false⟩,
    .response (.channelRemove 0) ⟨true, 0, false⟩, .response .topology ⟨true, 0, false⟩].map
    (fun input => (willingPlugin, input))

/-- The invariant holds in every state of a run. -/
theorem always_inv (inputs : List (Plugin × Input))
    (h : Along (step profile) Orderly mrcpServerSessionCreate inputs) :
    Always (step profile) SessionInv mrcpServerSessionCreate inputs :=
  always_of_along (fun _ _ _ hs ho hstep => step_inv hs ho hstep) inputs mrcpServerSessionCreate
    mrcpServerSessionCreate_inv h

/-- In every run the count of a session and its flags tell the responses that
are awaited, and these belong to the offer or the termination in progress. -/
theorem subrequests_counted (profile : Profile) (inputs : List (Plugin × Input))
    (h : Along (step profile) Orderly mrcpServerSessionCreate inputs) :
    Always (step profile) (fun s => Counted s ∧ (s.awaited ≠ [] → Busy s))
      mrcpServerSessionCreate inputs := by
  refine (always_inv inputs h).mono (fun s hs => ⟨hs.counted, fun hne => ?_⟩)
  cases hs.phase with
  | idle hnil | ended hnil => exact absurd hnil hne
  | busy _ hbusy => exact hbusy

theorem subrequests_counted_setup :
    Always (step recognizerProfile) (fun s => Counted s ∧ (s.awaited ≠ [] → Busy s))
      mrcpServerSessionCreate setupAndTermination :=
  subrequests_counted _ _ (by decide +kernel)

/-- The offers and terminations that have arrived are answered in their order,
each when nothing was awaited.  One without its answer waits for responses that
are awaited, unless a message for a resource is active, or the session has
ended. -/
def Accounted (s : Session) : Prop :=
  ∃ pending, unanswered s.log = some pending ∧ (pending ≠ [] → s.awaited ≠ [] ∨
    s.activeRequest.any SignalingMessage.isControl = true ∨ .terminated [] ∈ s.log)

theorem SessionInv.accounted (h : SessionInv s) : Accounted s := by
  cases h.phase with
  | busy hawaited hbusy =>
    cases hbusy with
    | offer _ hdue => exact ⟨_, hdue, fun _ => .inl hawaited⟩
    | terminate hdue => exact ⟨_, hdue, fun _ => .inl hawaited⟩
  | ended _ hdue _ hended => exact ⟨_, hdue, fun _ => .inr (.inr hended)⟩
  | idle _ hdue hcontrol =>
    refine ⟨_, hdue, fun hpending => .inr (.inl ?_)⟩
    cases hactive : s.activeRequest with
    | none => exact absurd (by simp [h.queue hactive]) hpending
    | some message => simpa [hactive] using hcontrol

end Runs

end UniMrcp.Server
