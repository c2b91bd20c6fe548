import UniMrcp.Lib.Awaiting
import UniMrcp.Server.Session

/-!
# What the phases of a session request

The session counts the requests of a phase in `subrequestCount` and tells most
responses by a waiting flag.  `Issues` says what a phase may do while it sends
requests.  `Sending` adds where the flags of the awaited responses are: a loop
over channels or termination slots sends for one position after the other, so
the flag of the next request is beyond all that are set.  `Quiet` is for
everything that sends nothing.
-/

namespace UniMrcp.Server

open UniMrcp.Lib UniMrcp.Apt UniMrcp.Mrcp UniMrcp.Engine

/-! ## Counts and flags -/

/-- The waiting flags of a session. -/
inductive Flag where
  | channel (i : Nat)
  | termination (i : Nat)
  | slot (j : Nat)
  deriving DecidableEq

/-- The flag belongs to one of the first `c` channels, the first `d` engine
terminations or the first `t` slots. -/
def Flag.Below (c d t : Nat) : Flag → Prop
  | .channel i => i < c
  | .termination i => i < d
  | .slot j => j < t

/-- The flag of a response. -/
def flagOf : Awaited → Option Flag
  | .channelModify i | .channelRemove i => some (.channel i)
  | .terminationAdd i | .terminationSubtract i => some (.termination i)
  | .slotModify j | .slotSubtract j => some (.slot j)
  | .engineOpen _ | .engineClose _ | .deactivation _ | .topology => none

namespace Session

def waiting (s : Session) : Flag → Bool
  | .channel i => (s.channels[i]?).any Channel.waitingForChannel
  | .termination i => (s.channels[i]?).any Channel.waitingForTermination
  | .slot j => (s.terminations[j]?).any TerminationSlot.waiting

/-- The session has the flag. -/
def has (s : Session) : Flag → Prop :=
  Flag.Below s.channels.length s.channels.length s.terminations.length

/-- The flags of the awaited responses. -/
def flags (s : Session) : List Flag := s.awaited.filterMap flagOf

/-- The flags of the awaited responses are set, and lie below the bounds. -/
structure Flagged (s : Session) (c d t : Nat) : Prop where
  keyed : Keyed flagOf s.waiting s.awaited
  below : ∀ k ∈ s.flags, k.Below c d t

end Session

/-- What a phase may do when it sends requests: it adds awaited responses and
counts them. -/
structure Issues (s s' : Session) : Prop where
  log : s'.log = s.log
  active : s'.activeRequest = s.activeRequest
  queue : s'.requestQueue = s.requestQueue
  state : s'.state = s.state
  offer : s'.offer = s.offer
  awaited : ∃ items, s'.awaited = s.awaited ++ items ∧
    s'.subrequestCount = s.subrequestCount + items.length

namespace Issues

variable {s s' s'' : Session}

theorem refl (s : Session) : Issues s s := ⟨rfl, rfl, rfl, rfl, rfl, [], by simp, by simp⟩

theorem trans (h : Issues s s') (h' : Issues s' s'') : Issues s s'' := by
  obtain ⟨items, hawaited, hcount⟩ := h.awaited
  obtain ⟨items', hawaited', hcount'⟩ := h'.awaited
  refine ⟨h'.log.trans h.log, h'.active.trans h.active, h'.queue.trans h.queue,
    h'.state.trans h.state, h'.offer.trans h.offer, items ++ items', ?_, ?_⟩
  · rw [hawaited', hawaited, List.append_assoc]
  · rw [hcount', hcount, List.length_append, Nat.add_assoc]

/-- The count of a phase that started with nothing awaited. -/
theorem count (h : Issues s s') (hs : s.subrequestCount = s.awaited.length) :
    s'.subrequestCount = s'.awaited.length := by
  obtain ⟨items, hawaited, hcount⟩ := h.awaited
  rw [hawaited, hcount, List.length_append, hs]

end Issues

/-! ## Requests -/

section Primitives

variable {s s0 : Session} {c d t : Nat}

theorem Session.waiting_modifyChannel (s : Session) {i : Nat} {f : Channel → Channel} {k : Flag}
    (hchannel : k ≠ .channel i ∨
      ∀ channel, (f channel).waitingForChannel = channel.waitingForChannel)
    (htermination : k ≠ .termination i ∨
      ∀ channel, (f channel).waitingForTermination = channel.waitingForTermination) :
    (s.modifyChannel i f).waiting k = s.waiting k := by
  cases k with
  | channel j =>
    exact any_modify_keep (hchannel.imp_left fun hk hij => hk (hij ▸ rfl)) s.channels
  | termination j =>
    exact any_modify_keep (htermination.imp_left fun hk hij => hk (hij ▸ rfl)) s.channels
  | slot j => rfl

theorem Session.waiting_modifySlot (s : Session) {j : Nat} {f : TerminationSlot → TerminationSlot}
    {k : Flag} (hslot : k ≠ .slot j ∨ ∀ slot, (f slot).waiting = slot.waiting) :
    (s.modifySlot j f).waiting k = s.waiting k := by
  cases k with
  | channel i | termination i => rfl
  | slot l => exact any_modify_keep (hslot.imp_left fun hk hjl => hk (hjl ▸ rfl)) s.terminations

section

variable (s : Session) (r : Awaited)

/-- Setting a flag clears no other. -/
theorem Session.waiting_setWaiting (k : Flag)
    (h : s.waiting k = true ∨ flagOf r = some k ∧ s.has k) :
    (s.setWaiting r).waiting k = true := by
  by_cases hr : flagOf r = some k
  · replace h := h.imp_right And.right
    cases r <;> cases hr <;> exact any_modify_set (fun _ => rfl) h
  · have hk := h.resolve_right (fun h => hr h.1)
    cases r with
    | channelModify i | channelRemove i =>
      refine (s.waiting_modifyChannel (.inl ?_) (.inr ?_)).trans hk
      · rintro rfl
        exact hr rfl
      · exact fun _ => rfl
    | terminationAdd i | terminationSubtract i =>
      refine (s.waiting_modifyChannel (.inr ?_) (.inl ?_)).trans hk
      · exact fun _ => rfl
      · rintro rfl
        exact hr rfl
    | slotModify j | slotSubtract j =>
      refine (s.waiting_modifySlot (.inl ?_)).trans hk
      rintro rfl
      exact hr rfl
    | engineOpen i | engineClose i | deactivation i | topology => exact hk

@[simp] theorem Session.await_awaited : (s.await r).awaited = s.awaited ++ [r] := by
  cases r <;> rfl

@[simp] theorem Session.await_channels_length :
    (s.await r).channels.length = s.channels.length := by
  cases r <;> simp [Session.await, Session.setWaiting, Session.modifyChannel, Session.modifySlot]

@[simp] theorem Session.await_terminations_length :
    (s.await r).terminations.length = s.terminations.length := by
  cases r <;> simp [Session.await, Session.setWaiting, Session.modifyChannel, Session.modifySlot]

theorem Issues.await : Issues s (s.await r) := by
  refine ⟨?_, ?_, ?_, ?_, ?_, [r], ?_, ?_⟩ <;> cases r <;> rfl

end

theorem Issues.modifyChannel (s : Session) (i : Nat) (f : Channel → Channel) :
    Issues s (s.modifyChannel i f) := ⟨rfl, rfl, rfl, rfl, rfl, [], by simp [Session.modifyChannel],
  rfl⟩

theorem Issues.modifySlot (s : Session) (j : Nat) (f : TerminationSlot → TerminationSlot) :
    Issues s (s.modifySlot j f) := ⟨rfl, rfl, rfl, rfl, rfl, [], by simp [Session.modifySlot], rfl⟩

theorem Issues.modifyAnswer (s : Session) (f : Answer → Answer) :
    Issues s (s.modifyAnswer f) :=
  ⟨rfl, rfl, rfl, rfl, rfl, [], by simp [Session.modifyAnswer], rfl⟩

theorem Flag.Below.mono {k : Flag} (h : k.Below c d t) {c' d' t' : Nat} (hc : c ≤ c')
    (hd : d ≤ d') (ht : t ≤ t') : k.Below c' d' t' := by
  cases k with
  | channel i => exact lt_of_lt_of_le h hc
  | termination i => exact lt_of_lt_of_le h hd
  | slot j => exact lt_of_lt_of_le h ht

/-- A phase that sends requests: what it has done since `s0`, and where the
flags of the awaited responses are. -/
structure Sending (s0 : Session) (c d t : Nat) (s : Session) : Prop where
  issues : Issues s0 s
  flagged : s.Flagged c d t

namespace Sending

variable (h : Sending s0 c d t s)
include h

theorem mono {c' d' t' : Nat} (hc : c ≤ c') (hd : d ≤ d') (ht : t ≤ t') :
    Sending s0 c' d' t' s :=
  ⟨h.issues, h.flagged.keyed, fun k hk => (h.flagged.below k hk).mono hc hd ht⟩

/-- A request without a flag. -/
theorem await_none {r : Awaited} (hr : flagOf r = none) : Sending s0 c d t (s.await r) := by
  have hwaiting : (s.await r).waiting = s.waiting := by
    cases r <;> first | rfl | cases hr
  refine ⟨h.issues.trans (Issues.await s r), ?_, ?_⟩
  · rw [Session.await_awaited, hwaiting]
    exact h.flagged.keyed.append_none hr
  · intro k hk
    rw [Session.flags, Session.await_awaited, List.filterMap_append] at hk
    simp only [List.filterMap_cons, hr, List.filterMap_nil, List.append_nil] at hk
    exact h.flagged.below k hk

/-- A request with a flag beyond the bounds. -/
theorem await_some {r : Awaited} {k : Flag} (hr : flagOf r = some k) (hhas : s.has k)
    (hnew : ¬ k.Below c d t) {c' d' t' : Nat} (hbelow : k.Below c' d' t') (hc : c ≤ c')
    (hd : d ≤ d') (ht : t ≤ t') : Sending s0 c' d' t' (s.await r) := by
  refine ⟨h.issues.trans (Issues.await s r), ?_, ?_⟩
  · rw [Session.await_awaited]
    exact h.flagged.keyed.append_some hr (fun hk => hnew (h.flagged.below k hk))
      (s.waiting_setWaiting r k (.inr ⟨hr, hhas⟩)) (fun j hj => s.waiting_setWaiting r j (.inl hj))
  · intro j hj
    rw [Session.flags, Session.await_awaited, List.filterMap_append] at hj
    rcases List.mem_append.mp hj with hj | hj
    · exact (h.flagged.below j hj).mono hc hd ht
    · simp only [List.filterMap_cons, hr, List.filterMap_nil, List.mem_singleton] at hj
      subst hj
      exact hbelow

/-- Nothing is sent, and the flags within the bounds stay. -/
theorem congr {s' : Session} (hissues : Issues s s') (hawaited : s'.awaited = s.awaited)
    (hwaiting : ∀ k, k.Below c d t → s.waiting k = true → s'.waiting k = true) :
    Sending s0 c d t s' := by
  refine ⟨h.issues.trans hissues, ?_, ?_⟩
  · rw [hawaited]
    exact h.flagged.keyed.mono (fun k hk => hwaiting k (h.flagged.below k hk))
  · intro k hk
    rw [Session.flags, hawaited] at hk
    exact h.flagged.below k hk

theorem modifyAnswer (f : Answer → Answer) : Sending s0 c d t (s.modifyAnswer f) :=
  h.congr (Issues.modifyAnswer s f) rfl (fun k _ hk => by cases k <;> exact hk)

theorem modifyChannel (i : Nat) {f : Channel → Channel}
    (hchannel : ∀ channel, (f channel).waitingForChannel = channel.waitingForChannel)
    (htermination : ∀ channel,
      (f channel).waitingForTermination = channel.waitingForTermination) :
    Sending s0 c d t (s.modifyChannel i f) := by
  refine h.congr (Issues.modifyChannel s i f) rfl (fun k _ hk => ?_)
  exact (s.waiting_modifyChannel (.inr hchannel) (.inr htermination)).trans hk

theorem modifySlot (j : Nat) {f : TerminationSlot → TerminationSlot}
    (hwaiting : ∀ slot, (f slot).waiting = slot.waiting) :
    Sending s0 c d t (s.modifySlot j f) := by
  refine h.congr (Issues.modifySlot s j f) rfl (fun k _ hk => ?_)
  exact (s.waiting_modifySlot (.inr hwaiting)).trans hk

theorem pushChannel (channel : Channel) :
    Sending s0 c d t { s with channels := s.channels ++ [channel] } := by
  refine h.congr ⟨rfl, rfl, rfl, rfl, rfl, [], by simp, rfl⟩ rfl (fun k _ hk => ?_)
  cases k with
  | channel i | termination i => exact any_append hk _
  | slot j => exact hk

theorem pushSlot (slot : TerminationSlot) :
    Sending s0 c d t { s with terminations := s.terminations ++ [slot] } := by
  refine h.congr ⟨rfl, rfl, rfl, rfl, rfl, [], by simp, rfl⟩ rfl (fun k _ hk => ?_)
  cases k with
  | channel i | termination i => exact hk
  | slot j => exact any_append hk _

/-- The flag of a channel beyond the bound is cleared. -/
theorem clearChannel {i : Nat} (hi : c ≤ i) : Sending s0 c d t
    (s.modifyChannel i (fun channel => { channel with waitingForChannel := false })) := by
  refine h.congr (Issues.modifyChannel s i _) rfl (fun k hbelow hk => ?_)
  refine (s.waiting_modifyChannel (.inl ?_) (.inr ?_)).trans hk
  · rintro rfl
    exact absurd hbelow (Nat.not_lt.mpr hi)
  · exact fun _ => rfl

end Sending

end Primitives

/-! ## The offer -/

section Phases

variable {s s0 : Session} {c d t : Nat}

theorem controlMediaModify_sending (offer : Offer) {i : Nat} (h : Sending s0 i d t s) :
    Sending s0 (i + 1) d t (controlMediaModify offer s i) := by
  unfold controlMediaModify
  cases hchannel : s.channels[i]? with
  | none => exact h.mono (Nat.le_succ i) le_rfl le_rfl
  | some channel =>
    have hcleared := h.clearChannel (le_refl i)
    have hi : i < s.channels.length := (List.getElem?_eq_some_iff.mp hchannel).1
    cases offer.controlMediaGet i with
    | none => exact hcleared.mono (Nat.le_succ i) le_rfl le_rfl
    | some media =>
      by_cases hcontrol : channel.controlChannel = true
      · simp only [hcontrol]
        refine hcleared.await_some (k := .channel i) rfl ?_ (lt_irrefl i) (Nat.lt_succ_self i)
          (Nat.le_succ i) le_rfl le_rfl
        exact lt_of_lt_of_eq hi (List.length_modify _ _ _).symm
      · simp only [hcontrol]
        exact (hcleared.modifyAnswer _).mono (Nat.le_succ i) le_rfl le_rfl

theorem controlMediaModify_channels (offer : Offer) (s : Session) (i : Nat) :
    (controlMediaModify offer s i).channels.length = s.channels.length := by
  unfold controlMediaModify
  cases s.channels[i]? with
  | none => rfl
  | some channel =>
    cases offer.controlMediaGet i with
    | none => exact List.length_modify _ _ _
    | some media =>
      by_cases hcontrol : channel.controlChannel = true
      · simp [hcontrol, Session.modifyChannel]
      · simp [hcontrol, Session.modifyChannel, controlMediaDisable, Session.modifyAnswer]

theorem terminationAdd_sending {i : Nat} (h : Sending s0 c i t s) (hi : i < s.channels.length)
    (channel : Channel) : Sending s0 c (i + 1) t (terminationAdd s i channel) := by
  unfold terminationAdd
  split
  · exact h.await_some (k := .termination i) rfl hi (lt_irrefl i) (Nat.lt_succ_self i) le_rfl
      (Nat.le_succ i) le_rfl
  · exact h.mono le_rfl (Nat.le_succ i) le_rfl

theorem terminationAdd_channels (s : Session) (i : Nat) (channel : Channel) :
    (terminationAdd s i channel).channels.length = s.channels.length := by
  unfold terminationAdd
  split
  · exact s.await_channels_length _
  · rfl

theorem mrcpServerChannelCreate_session (profile : Profile) (s : Session) (name : Bytes) (id : Nat)
    (cmids : Option (List Nat)) :
    ∃ f, (mrcpServerChannelCreate profile s name id cmids).1 = s.modifyAnswer f := by
  have hsame : s = s.modifyAnswer (fun answer => answer) := by simp [Session.modifyAnswer]
  unfold mrcpServerChannelCreate
  cases mrcpResourceFind profile.resourceFactory name with
  | none => exact ⟨_, rfl⟩
  | some resource =>
    dsimp only
    split
    · exact ⟨_, hsame⟩
    · exact ⟨_, rfl⟩

/-- A new channel at the end, with its two requests. -/
theorem newChannel_sending (h : Sending s0 s.channels.length s.channels.length t s)
    (channel : Channel) :
    let s1 := { s with channels := s.channels ++ [channel] }
    let s2 := if channel.controlChannel then s1.await (.channelModify s.channels.length)
      else controlMediaDisable s1 channel.id
    let s' := terminationAdd s2 s.channels.length channel
    Sending s0 s'.channels.length s'.channels.length t s' := by
  intro s1 s2 s'
  have hpush : Sending s0 s.channels.length s.channels.length t s1 := h.pushChannel channel
  have hlength1 : s1.channels.length = s.channels.length + 1 := by simp [s1]
  have hlength2 : s2.channels.length = s.channels.length + 1 := by
    refine Eq.trans ?_ hlength1
    by_cases hcontrol : channel.controlChannel = true
    · simp [s2, hcontrol]
    · simp [s2, hcontrol, controlMediaDisable, Session.modifyAnswer]
  have hsend : Sending s0 (s.channels.length + 1) s.channels.length t s2 := by
    by_cases hcontrol : channel.controlChannel = true
    · simp only [s2, hcontrol]
      exact hpush.await_some (k := .channel s.channels.length) rfl
        (lt_of_lt_of_eq (Nat.lt_succ_self _) hlength1.symm) (lt_irrefl _)
        (Nat.lt_succ_self _) (Nat.le_succ _) le_rfl le_rfl
    · simp only [s2, hcontrol]
      exact (hpush.modifyAnswer _).mono (Nat.le_succ _) le_rfl le_rfl
  have hadd := terminationAdd_sending hsend
    (lt_of_lt_of_eq (Nat.lt_succ_self _) hlength2.symm) channel
  have hlength : s'.channels.length = s.channels.length + 1 :=
    (terminationAdd_channels s2 s.channels.length channel).trans hlength2
  rw [hlength]
  exact hadd

section

variable (profile : Profile) (offer : Offer)

theorem controlMediaAdd_sending (i : Nat) (h : Sending s0 s.channels.length s.channels.length t s) :
    let s' := controlMediaAdd profile offer s i
    Sending s0 s'.channels.length s'.channels.length t s' := by
  unfold controlMediaAdd
  cases offer.controlMediaGet i with
  | none => exact h
  | some media =>
    obtain ⟨f, hf⟩ := mrcpServerChannelCreate_session profile s media.resourceName i media.cmids
    dsimp only
    generalize mrcpServerChannelCreate profile s media.resourceName i media.cmids = created
      at hf ⊢
    have hanswer := h.modifyAnswer f
    rw [← hf] at hanswer
    have hlength : created.1.channels.length = s.channels.length := by rw [hf]; rfl
    rw [← hlength] at hanswer
    obtain ⟨s1, _ | channel⟩ := created
    · exact hanswer
    · exact newChannel_sending hanswer channel

theorem mrcpServerControlMediaOfferProcess_sending (h : Sending s0 0 0 0 s) :
    let s' := mrcpServerControlMediaOfferProcess profile s offer
    Sending s0 s'.channels.length s'.channels.length 0 s' := by
  have hmodify := forLoop_invariant
    (P := fun i s' => Sending s0 i 0 0 s' ∧ s'.channels.length = s.channels.length)
    (Nat.zero_le (min s.channels.length offer.controlMedia.length)) ⟨h, rfl⟩
    (fun i s' _ _ hs => ⟨controlMediaModify_sending offer hs.1,
      (controlMediaModify_channels offer s' i).trans hs.2⟩)
  refine forLoop_invariant
    (P := fun _ s' => Sending s0 s'.channels.length s'.channels.length 0 s')
    (Nat.min_le_right _ _) ?_
    (fun i s' _ _ hs => controlMediaAdd_sending profile offer i hs)
  exact hmodify.1.mono (le_of_le_of_eq (Nat.min_le_left _ _) hmodify.2.symm) (Nat.zero_le _) le_rfl

theorem mrcpServerResourceOfferProcess_sending (h : Sending s0 0 0 0 s) :
    let s' := (mrcpServerResourceOfferProcess profile s offer).2
    Sending s0 s'.channels.length s'.channels.length 0 s' := by
  have hwide := h.mono (Nat.zero_le s.channels.length) (Nat.zero_le s.channels.length) le_rfl
  unfold mrcpServerResourceOfferProcess
  by_cases hstate : offer.resourceState = true
  · simp only [hstate, if_true]
    cases mrcpServerChannelFind s offer.resourceName with
    | some i => exact hwide
    | none =>
      obtain ⟨f, hf⟩ := mrcpServerChannelCreate_session profile s offer.resourceName
        s.channels.length none
      generalize mrcpServerChannelCreate profile s offer.resourceName s.channels.length none =
        created at hf ⊢
      have hanswer := hwide.modifyAnswer f
      rw [← hf] at hanswer
      have hlength : created.1.channels.length = s.channels.length := by rw [hf]; rfl
      obtain ⟨s1, _ | channel⟩ := created
      · exact hlength ▸ hanswer
      · have hpush := hanswer.pushChannel channel
        have hlength1 : ({ s1 with channels := s1.channels ++ [channel] } : Session).channels.length
            = s.channels.length + 1 := by
          rw [List.length_append, hlength, List.length_singleton]
        have hadd := terminationAdd_sending hpush
          (lt_of_lt_of_eq (Nat.lt_succ_self _) hlength1.symm) channel
        rw [terminationAdd_channels, hlength1]
        exact hadd.mono (Nat.le_succ _) le_rfl le_rfl
  · simp only [hstate]
    exact hwide

end

theorem mrcpServerAssociationsSet_sending (h : Sending s0 c d t s) (j : Nat) :
    Sending s0 c d t (mrcpServerAssociationsSet s j) ∧
      (mrcpServerAssociationsSet s j).terminations.length = s.terminations.length := by
  unfold mrcpServerAssociationsSet
  cases s.terminations[j]? with
  | none => exact ⟨h, rfl⟩
  | some slot =>
    refine List.foldlRecOn (motive := fun s' : Session =>
      Sending s0 c d t s' ∧ s'.terminations.length = s.terminations.length)
      slot.channels _ ⟨h, rfl⟩ (fun s' hs i _ => ?_)
    split
    · exact ⟨hs.1.await_none rfl, (s'.await_terminations_length _).trans hs.2⟩
    · exact hs

theorem audioMediaOffer_sending (offer : Offer) {j : Nat} (h : Sending s0 c d j s) :
    Sending s0 c d (j + 1) (audioMediaOffer offer s j) ∧
      (audioMediaOffer offer s j).terminations.length = s.terminations.length := by
  unfold audioMediaOffer mrcpServerAssociationsBuild
  cases hslot : s.terminations[j]? with
  | none => exact ⟨h.mono le_rfl le_rfl (Nat.le_succ j), rfl⟩
  | some slot =>
    have hj : j < s.terminations.length := (List.getElem?_eq_some_iff.mp hslot).1
    dsimp only
    cases offer.audioMediaGet slot.id with
    | none => exact ⟨h.mono le_rfl le_rfl (Nat.le_succ j), rfl⟩
    | some media =>
      have hbuilt := h.modifySlot j (f := fun slot =>
        { slot with mid := media.mid, channels := associatedChannels s media.mid }) (fun _ => rfl)
      have hlength := List.length_modify (fun slot : TerminationSlot =>
        { slot with mid := media.mid, channels := associatedChannels s media.mid })
        s.terminations j
      have hsent := hbuilt.await_some (r := .slotModify j) rfl
        (lt_of_lt_of_eq hj hlength.symm) (lt_irrefl j) (Nat.lt_succ_self j) le_rfl le_rfl
        (Nat.le_succ j)
      have hset := mrcpServerAssociationsSet_sending hsent j
      refine ⟨hset.1, hset.2.trans ?_⟩
      rw [Session.await_terminations_length]
      exact hlength

theorem mrcpServerAvMediaOfferProcess_sending (offer : Offer) (h : Sending s0 c d 0 s) :
    ∃ t, Sending s0 c d t (mrcpServerAvMediaOfferProcess s offer) := by
  unfold mrcpServerAvMediaOfferProcess
  split
  · exact ⟨0, h⟩
  · have hmodify := forLoop_invariant
      (P := fun j s' => Sending s0 c d j s' ∧ s'.terminations.length = s.terminations.length)
      (Nat.zero_le (min s.terminations.length offer.audioMedia.length)) ⟨h, rfl⟩
      (fun j s' _ _ hs => ⟨(audioMediaOffer_sending offer hs.1).1,
        (audioMediaOffer_sending offer hs.1).2.trans hs.2⟩)
    refine ⟨_, forLoop_invariant
      (P := fun _ s' => Sending s0 c d s'.terminations.length s')
      (Nat.min_le_right s.terminations.length offer.audioMedia.length) ?_
      (fun j s' _ _ hs => ?_)⟩
    · exact hmodify.1.mono le_rfl le_rfl (le_of_le_of_eq (Nat.min_le_left _ _) hmodify.2.symm)
    · obtain ⟨hsent, hlength⟩ :=
        audioMediaOffer_sending offer (hs.pushSlot ⟨j, 0, [], false⟩)
      have hadd : (audioMediaAdd offer s' j).terminations.length = s'.terminations.length + 1 :=
        hlength.trans (List.length_append.trans rfl)
      rw [hadd]
      exact hsent

/-- A phase begins when nothing is awaited. -/
theorem Sending.start (h : s.awaited = []) : Sending s 0 0 0 s := by
  refine ⟨Issues.refl s, ?_, ?_⟩
  · rw [h]
    exact Keyed.nil
  · intro k hk
    rw [Session.flags, h] at hk
    cases hk

/-! ## The other phases -/

section

variable (plugin : Plugin) (h : Sending s0 c d t s) (i : Nat) (engine : EngineChannel)
include h

theorem engineChannelOpen_sending : Sending s0 c d t (engineChannelOpen plugin s i engine) := by
  unfold engineChannelOpen
  have hset := h.modifyChannel i (f := fun channel =>
    { channel with engineChannel := some { engine with isOpen := plugin.openStatus i } })
    (fun _ => rfl) (fun _ => rfl)
  split
  · exact h
  · split
    · exact hset.await_none rfl
    · exact hset

theorem engineChannelClose_sending : Sending s0 c d t (engineChannelClose plugin s i engine) := by
  unfold engineChannelClose
  have hset := h.modifyChannel i (f := fun channel =>
    { channel with engineChannel := some { engine with isOpen := false } })
    (fun _ => rfl) (fun _ => rfl)
  split
  · split
    · exact hset.await_none rfl
    · exact hset
  · exact h

end

theorem engineChannelUpdate_sending (plugin : Plugin) (offer : Offer) (h : Sending s0 c d t s)
    (i : Nat) : Sending s0 c d t (engineChannelUpdate plugin offer s i) := by
  unfold engineChannelUpdate
  split
  · split
    · exact engineChannelOpen_sending plugin h i _
    · exact engineChannelClose_sending plugin h i _
  · exact h

theorem channelTerminate_sending (plugin : Plugin) {i : Nat} (h : Sending s0 i i t s) :
    Sending s0 (i + 1) (i + 1) t (channelTerminate plugin s i) := by
  unfold channelTerminate
  cases hchannel : s.channels[i]? with
  | none => exact h.mono (Nat.le_succ i) (Nat.le_succ i) le_rfl
  | some channel =>
    have hi : i < s.channels.length := (List.getElem?_eq_some_iff.mp hchannel).1
    dsimp only
    generalize hs1 : (if channel.controlChannel = true then _ else _ : Session) = s1
    have hremove : Sending s0 (i + 1) i t s1 ∧ i < s1.channels.length := by
      subst hs1
      split
      · exact ⟨h.await_some (k := .channel i) rfl hi (lt_irrefl i) (Nat.lt_succ_self i)
          (Nat.le_succ i) le_rfl le_rfl, by simpa using hi⟩
      · exact ⟨h.mono (Nat.le_succ i) le_rfl le_rfl, hi⟩
    cases channel.engineChannel with
    | none => exact hremove.1.mono le_rfl (Nat.le_succ i) le_rfl
    | some engine =>
      refine engineChannelClose_sending plugin ?_ i engine
      split
      · exact hremove.1.await_some (k := .termination i) rfl hremove.2 (lt_irrefl i)
          (Nat.lt_succ_self i) le_rfl (Nat.le_succ i) le_rfl
      · exact hremove.1.mono le_rfl (Nat.le_succ i) le_rfl

end Phases

/-! ## State machines -/

/-- Nothing that the accounting looks at has changed. -/
structure Quiet (s s' : Session) : Prop where
  issues : Issues s s'
  awaited : s'.awaited = s.awaited
  waiting : s'.waiting = s.waiting

namespace Quiet

variable {s s' s'' : Session}

theorem refl (s : Session) : Quiet s s := ⟨Issues.refl s, rfl, rfl⟩

theorem trans (h : Quiet s s') (h' : Quiet s' s'') : Quiet s s'' :=
  ⟨h.issues.trans h'.issues, h'.awaited.trans h.awaited, h'.waiting.trans h.waiting⟩

theorem count (h : Quiet s s') : s'.subrequestCount = s.subrequestCount := by
  obtain ⟨items, hawaited, hcount⟩ := h.issues.awaited
  rw [h.awaited] at hawaited
  rw [hcount, List.self_eq_append_right.mp hawaited, List.length_nil, Nat.add_zero]

theorem sending {s0 : Session} {c d t : Nat} (h : Quiet s s') (hs : Sending s0 c d t s) :
    Sending s0 c d t s' :=
  hs.congr h.issues h.awaited (fun k _ hk => by rw [h.waiting]; exact hk)

theorem modifyChannel (s : Session) (i : Nat) (f : Option Machine → Option Machine) :
    Quiet s (s.modifyChannel i (fun channel =>
      { channel with stateMachine := f channel.stateMachine })) :=
  ⟨Issues.modifyChannel s i _, rfl,
    funext fun _ => s.waiting_modifyChannel (.inr fun _ => rfl) (.inr fun _ => rfl)⟩

theorem engineRequests (s : Session) (requests : List (Nat × MrcpMessage)) :
    Quiet s { s with engineRequests := requests } := by
  refine ⟨⟨rfl, rfl, rfl, rfl, rfl, [], by simp, rfl⟩, rfl, ?_⟩
  funext k
  cases k <;> rfl

theorem engineRequest (plugin : Plugin) (s : Session) (i : Nat) (message : MrcpMessage) :
    Quiet s (engineRequest plugin s i message) := by
  unfold Server.engineRequest
  split
  · exact engineRequests s _
  · exact refl s

theorem engineAnswer (s : Session) (i : Nat) (message : MrcpMessage) :
    Quiet s (engineAnswer s i message) := by
  unfold Server.engineAnswer
  split
  · exact engineRequests s _
  · exact refl s

theorem stateMachineOnMessageDispatch (plugin : Plugin) (s : Session) (i : Nat)
    (message : MrcpMessage) : Quiet s (stateMachineOnMessageDispatch plugin s i message).1 := by
  unfold Server.stateMachineOnMessageDispatch
  cases message.startLine.messageType with
  | request => exact engineRequest plugin s i message
  | response | event | unknown => exact refl s

theorem dispatchPending (plugin : Plugin) (s : Session) (pending : Option (Nat × MrcpMessage)) :
    Quiet s (dispatchPending plugin s pending) := by
  cases pending with
  | none => exact refl s
  | some pending =>
    exact (modifyChannel s pending.1 _).trans (engineRequest plugin _ pending.1 pending.2)

end Quiet

theorem channelDeactivate_sending {s s0 : Session} {c d t : Nat} (plugin : Plugin)
    (h : Sending s0 c d t s) (i : Nat) :
    Sending s0 c d t (channelDeactivate plugin s i) := by
  unfold channelDeactivate
  cases (s.channels[i]?).bind Channel.stateMachine with
  | none => exact h
  | some machine =>
    have hset := (Quiet.modifyChannel s i (fun _ => some machine.deactivate.1)).sending h
    have hend : ∀ s', Sending s0 c d t s' → Sending s0 c d t
        (if machine.deactivate.2.2 then s'.await (.deactivation i) else s') := by
      intro s' hs'
      split
      · exact hs'.await_none rfl
      · exact hs'
    refine hend _ (List.foldlRecOn _ _ hset ?_)
    intro s' hs' callback _
    cases callback with
    | onDispatch message =>
      exact (Quiet.stateMachineOnMessageDispatch plugin s' i message).sending hs'
    | onDeactivate => exact hs'

end UniMrcp.Server
