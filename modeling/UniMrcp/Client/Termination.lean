import UniMrcp.Lib.Awaiting
import UniMrcp.Client.Queue

/-!
# The termination of a session

SESSION_TERMINATE asks the connection agent to remove every control channel,
the media engine to destroy the topology and to subtract every termination, and
the signaling agent to end the session.  The three answer on their own, and all
responses count down `subrequestCount`.  The last of them removes the session
from the table of the client and raises the response.

The handlers are not alike.  The last response for the termination of a channel
would raise the response and leave the session in the table, and the last
response for the topology would do nothing.  Neither of them is ever the last:
the media engine answers in order, and every channel with a termination has an
RTP termination, which is subtracted later.
-/

namespace UniMrcp.Client

open UniMrcp.Lib UniMrcp.Lib.Runs UniMrcp.Apt UniMrcp.Mrcp

/-! ## The requests of a termination -/

/-- What is requested for a channel. -/
def Channel.requests (channel : Channel) (i : Nat) : List Awaited :=
  (if channel.controlChannel then [.channelRemove i] else []) ++
    (if channel.hasTermination then [.terminationSubtract i] else [])

def channelRequests (s : Session) (i : Nat) : List Awaited :=
  ((s.channels[i]?).map (Channel.requests · i)).getD []

/-- What is requested for a slot. -/
def slotRequests (s : Session) (j : Nat) : List Awaited :=
  if (s.terminations[j]?).any TerminationSlot.termination then [.slotSubtract j] else []

/-- What is requested of the connection agent and of the media engine. -/
def subrequests (s : Session) : List Awaited :=
  (if s.context then [.topology] else []) ++
    (List.range s.channels.length).flatMap (channelRequests s) ++
    (if s.context then (List.range s.terminations.length).flatMap (slotRequests s) else [])

/-- All responses a termination waits for. -/
def terminationRequests (s : Session) : List Awaited := subrequests s ++ [.terminate]

/-- The two sessions have the same channels and terminations. -/
structure SameParts (s s' : Session) : Prop where
  context : s'.context = s.context
  channels : s'.channels.map Channel.requests = s.channels.map Channel.requests
  slots : s'.terminations.map TerminationSlot.termination =
    s.terminations.map TerminationSlot.termination

namespace SameParts

variable {s s' s'' : Session}

theorem refl (s : Session) : SameParts s s := ⟨rfl, rfl, rfl⟩

theorem trans (h : SameParts s s') (h' : SameParts s' s'') : SameParts s s'' :=
  ⟨h'.context.trans h.context, h'.channels.trans h.channels, h'.slots.trans h.slots⟩

theorem await (s : Session) (r : Awaited) : SameParts s (s.await r) where
  context := (Steady.await s r).context
  channels := by
    cases r with
    | channelAdd i | channelModify i | channelRemove i | terminationAdd i | terminationSubtract i =>
      refine map_modify_keep Channel.requests ?_ s.channels i
      exact fun _ => rfl
    | slotAdd | slotModify | slotSubtract | topology | answer | terminate | discover | control
      => rfl
  slots := (Steady.await s r).slots

section

variable (h : SameParts s s')
include h

theorem channels_length : s'.channels.length = s.channels.length := by
  simpa using congrArg List.length h.channels

theorem terminations_length : s'.terminations.length = s.terminations.length := by
  simpa using congrArg List.length h.slots

theorem channelRequests_eq (i : Nat) : channelRequests s' i = channelRequests s i := by
  have hi := congrArg (fun l => ((l[i]?).map (· i)).getD []) h.channels
  simpa [channelRequests, Function.comp_def] using hi

theorem slotRequests_eq (j : Nat) : slotRequests s' j = slotRequests s j := by
  have hj := congrArg (fun l => (l[j]?).any id) h.slots
  have hany : (s'.terminations[j]?).any TerminationSlot.termination =
      (s.terminations[j]?).any TerminationSlot.termination := by
    simpa [Option.any_map] using hj
  rw [slotRequests, slotRequests, hany]

theorem subrequests_eq : subrequests s' = subrequests s := by
  have hchannels : channelRequests s' = channelRequests s := funext h.channelRequests_eq
  have hslots : slotRequests s' = slotRequests s := funext h.slotRequests_eq
  rw [subrequests, subrequests, h.context, h.channels_length, h.terminations_length, hchannels,
    hslots]

end

end SameParts

/-- Requests that are sent one after the other. -/
def Session.awaitAll (s : Session) (requests : List Awaited) : Session :=
  requests.foldl Session.await s

theorem awaitAll_append (s : Session) (requests more : List Awaited) :
    s.awaitAll (requests ++ more) = (s.awaitAll requests).awaitAll more := List.foldl_append

theorem awaitAll_sameParts (s : Session) (requests : List Awaited) :
    SameParts s (s.awaitAll requests) := foldl_related .refl .trans SameParts.await requests s

variable {s0 s : Session} {r : Awaited} {awaited : List Awaited}

/-- A loop that sends requests for each index. -/
theorem foldl_awaitAll {g : Nat → List Awaited} {body : Session → Nat → Session}
    (hbody : ∀ s i, SameParts s0 s → body s i = s.awaitAll (g i)) (l : List Nat) (s : Session)
    (hs : SameParts s0 s) : l.foldl body s = s.awaitAll (l.flatMap g) := by
  induction l generalizing s with
  | nil => rfl
  | cons i l ih =>
    rw [List.foldl_cons, List.flatMap_cons, awaitAll_append, hbody s i hs,
      ih _ (hs.trans (awaitAll_sameParts s (g i)))]

theorem awaitIf_eq (s : Session) (sent : Bool) (r : Awaited) :
    s.awaitIf sent r = s.awaitAll (if sent then [r] else []) := by
  cases sent <;> rfl

theorem channelTerminate_eq (s : Session) (i : Nat) :
    channelTerminate s i = s.awaitAll (channelRequests s i) := by
  unfold channelTerminate channelRequests
  cases s.channels[i]? with
  | none => rfl
  | some channel =>
    dsimp only [Option.map_some, Option.getD_some]
    rw [Channel.requests, awaitAll_append, ← awaitIf_eq, ← awaitIf_eq]
    rfl

theorem channelsTerminate_eq (s : Session) :
    channelsTerminate s =
      s.awaitAll ((List.range s.channels.length).flatMap (channelRequests s)) := by
  unfold channelsTerminate forLoop
  rw [← List.range_eq_range']
  exact foldl_awaitAll (fun s' i h => by rw [channelTerminate_eq, h.channelRequests_eq]) _ s
    (.refl s)

theorem slotsTerminate_eq (s : Session) :
    slotsTerminate s = s.awaitAll
      (if s.context then (List.range s.terminations.length).flatMap (slotRequests s) else []) := by
  unfold slotsTerminate forLoop
  split
  · rw [← List.range_eq_range']
    refine foldl_awaitAll (fun s' j h => ?_) _ s (.refl s)
    rw [← h.slotRequests_eq, slotTerminate, awaitIf_eq]
    rfl
  · rfl

/-- A termination sends its requests one after the other. -/
theorem sessionTerminate_eq (agents : Agents) (s : Session) :
    mrcpClientSessionTerminate agents s =
      terminateRequest agents ((s.stateSet .terminating).awaitAll (subrequests s)) := by
  unfold mrcpClientSessionTerminate
  dsimp only
  rw [awaitIf_eq, channelsTerminate_eq, slotsTerminate_eq]
  -- the loops find the channels and terminations as they were
  have hs := awaitAll_sameParts (s.stateSet .terminating)
    (if (s.stateSet .terminating).context then [.topology] else [])
  generalize hs1 : (s.stateSet .terminating).awaitAll
    (if (s.stateSet .terminating).context then [.topology] else []) = s1 at hs ⊢
  have hs' := hs.trans (awaitAll_sameParts s1
    ((List.range s1.channels.length).flatMap (channelRequests s1)))
  rw [hs'.context, hs'.terminations_length, funext hs'.slotRequests_eq, hs.channels_length,
    funext hs.channelRequests_eq, ← hs1, ← awaitAll_append, ← awaitAll_append, ← List.append_assoc]
  rfl

/-! ## Waiting for the responses -/

/-- The flag of a response. -/
inductive Flag where
  | channel (i : Nat)
  | termination (i : Nat)
  | slot (j : Nat)
  deriving DecidableEq

variable {k : Flag}

def flagOf : Awaited → Option Flag
  | .channelAdd i | .channelModify i | .channelRemove i => some (.channel i)
  | .terminationAdd i | .terminationSubtract i => some (.termination i)
  | .slotAdd j | .slotModify j | .slotSubtract j => some (.slot j)
  | _ => none

def Session.waiting (s : Session) : Flag → Bool
  | .channel i => s.channelWaiting i
  | .termination i => s.terminationWaiting i
  | .slot j => s.slotWaiting j

/-- There is such a channel or slot. -/
def Session.has (s : Session) : Flag → Prop
  | .channel i | .termination i => i < s.channels.length
  | .slot j => j < s.terminations.length

theorem SameParts.has {s' : Session} (h : SameParts s s') (hk : s.has k) : s'.has k := by
  cases k with
  | channel i | termination i =>
    exact (h.channels_length.symm ▸ hk : i < s'.channels.length)
  | slot j => exact (h.terminations_length.symm ▸ hk : j < s'.terminations.length)

/-- The flags of the other responses stay. -/
theorem setWaiting_other (s : Session) (waiting : Bool) (hr : flagOf r ≠ some k) :
    (s.setWaiting waiting r).waiting k = s.waiting k := by
  cases r with
  | channelAdd i | channelModify i | channelRemove i =>
    cases k with
    | channel l =>
      refine any_modify_keep (.inl ?_) s.channels
      rintro rfl
      exact hr rfl
    | termination l =>
      refine any_modify_keep (.inr ?_) s.channels
      exact fun _ => rfl
    | slot l => rfl
  | terminationAdd i | terminationSubtract i =>
    cases k with
    | channel l =>
      refine any_modify_keep (.inr ?_) s.channels
      exact fun _ => rfl
    | termination l =>
      refine any_modify_keep (.inl ?_) s.channels
      rintro rfl
      exact hr rfl
    | slot l => rfl
  | slotAdd j | slotModify j | slotSubtract j =>
    cases k with
    | channel l | termination l => rfl
    | slot l =>
      refine any_modify_keep (.inl ?_) s.terminations
      rintro rfl
      exact hr rfl
  | topology | answer | terminate | discover | control => rfl

/-- A request sets its flag and leaves the others set. -/
theorem setWaiting_true (s : Session) (r : Awaited)
    (h : s.waiting k = true ∨ flagOf r = some k ∧ s.has k) :
    (s.setWaiting true r).waiting k = true := by
  by_cases hr : flagOf r = some k
  · replace h := h.imp_right And.right
    cases r <;> cases hr <;> exact any_modify_set (fun _ => rfl) h
  · rw [setWaiting_other s true hr]
    exact h.resolve_right (fun h => hr h.1)

theorem awaitAll_waiting (requests : List Awaited) (s : Session)
    (h : s.waiting k = true ∨ k ∈ requests.filterMap flagOf ∧ s.has k) :
    (s.awaitAll requests).waiting k = true := by
  induction requests generalizing s with
  | nil => simpa [Session.awaitAll] using h
  | cons r requests ih =>
    refine ih (s.await r) ?_
    rcases h with h | ⟨hk, hhas⟩
    · exact .inl (setWaiting_true s r (.inl h))
    · rw [List.filterMap_cons] at hk
      cases hr : flagOf r with
      | none =>
        rw [hr] at hk
        exact .inr ⟨hk, (SameParts.await s r).has hhas⟩
      | some l =>
        rw [hr] at hk
        rcases List.mem_cons.mp hk with rfl | hk
        · exact .inl (setWaiting_true s r (.inr ⟨hr, hhas⟩))
        · exact .inr ⟨hk, (SameParts.await s r).has hhas⟩

/-! ## The requests and their flags -/

/-- The responses to the requests of a termination. -/
def Awaited.isTermination : Awaited → Bool
  | .channelRemove _ | .terminationSubtract _ | .slotSubtract _ | .topology | .terminate => true
  | _ => false

theorem Awaited.counted_of_isTermination (h : r.isTermination = true) : r.counted = true := by
  cases r <;> first | rfl | cases h

theorem mem_channelRequests {i : Nat} (h : r ∈ channelRequests s i) :
    r = .channelRemove i ∨
      r = .terminationSubtract i ∧ (s.channels[i]?).any Channel.hasTermination = true := by
  unfold channelRequests at h
  cases hi : s.channels[i]? with
  | none => rw [hi] at h; cases h
  | some channel =>
    rw [hi] at h
    simp only [Option.map_some, Option.getD_some, Channel.requests, List.mem_append] at h
    rcases h with h | h
    · split at h
      · exact .inl (List.mem_singleton.mp h)
      · cases h
    · split at h
      · rename_i htermination
        exact .inr ⟨List.mem_singleton.mp h, htermination⟩
      · cases h

theorem mem_slotRequests {j : Nat} (h : r ∈ slotRequests s j) : r = .slotSubtract j := by
  unfold slotRequests at h
  split at h
  · exact List.mem_singleton.mp h
  · cases h

theorem mem_terminationRequests (h : r ∈ terminationRequests s) :
    r = .topology ∧ s.context = true ∨ (∃ i < s.channels.length, r ∈ channelRequests s i) ∨
      (∃ j < s.terminations.length, r = .slotSubtract j) ∨ r = .terminate := by
  simp only [terminationRequests, subrequests, List.mem_append, List.mem_flatMap, List.mem_range,
    List.mem_singleton] at h
  rcases h with ((h | h) | h) | h
  · split at h
    · rename_i hcontext
      exact .inl ⟨List.mem_singleton.mp h, hcontext⟩
    · cases h
  · exact .inr (.inl h)
  · split at h
    · obtain ⟨j, hj, h⟩ := List.mem_flatMap.mp h
      exact .inr (.inr (.inl ⟨j, List.mem_range.mp hj, mem_slotRequests h⟩))
    · cases h
  · exact .inr (.inr (.inr h))

theorem isTermination_of_mem (h : r ∈ terminationRequests s) : r.isTermination = true := by
  rcases mem_terminationRequests h with ⟨rfl, -⟩ | ⟨i, -, h⟩ | ⟨j, -, rfl⟩ | rfl
  · rfl
  · rcases mem_channelRequests h with rfl | ⟨rfl, -⟩ <;> rfl
  · rfl
  · rfl

theorem has_of_mem (h : k ∈ (terminationRequests s).filterMap flagOf) : s.has k := by
  obtain ⟨r, hr, hk⟩ := List.mem_filterMap.mp h
  rcases mem_terminationRequests hr with ⟨rfl, -⟩ | ⟨i, hi, h⟩ | ⟨j, hj, rfl⟩ | rfl
  · cases hk
  · rcases mem_channelRequests h with rfl | ⟨rfl, -⟩ <;> cases hk <;> exact hi
  · cases hk
    exact hj
  · cases hk

theorem mem_channelFlags {i : Nat} (h : k ∈ (channelRequests s i).filterMap flagOf) :
    k = .channel i ∨ k = .termination i := by
  obtain ⟨r, hr, hk⟩ := List.mem_filterMap.mp h
  rcases mem_channelRequests hr with rfl | ⟨rfl, -⟩
  · exact .inl (Option.some.inj hk).symm
  · exact .inr (Option.some.inj hk).symm

theorem mem_slotFlags {j : Nat} (h : k ∈ (slotRequests s j).filterMap flagOf) : k = .slot j := by
  obtain ⟨r, hr, hk⟩ := List.mem_filterMap.mp h
  obtain rfl := mem_slotRequests hr
  exact (Option.some.inj hk).symm

/-- The responses of a termination have flags of their own. -/
theorem flags_nodup (s : Session) : ((terminationRequests s).filterMap flagOf).Nodup := by
  have hchannels : ((List.range s.channels.length).flatMap
      (fun i => (channelRequests s i).filterMap flagOf)).Nodup := by
    rw [List.nodup_flatMap]
    refine ⟨fun i _ => ?_, List.nodup_range.imp (fun {i l} hil k hi hl => hil ?_)⟩
    · unfold channelRequests
      cases s.channels[i]? with
      | none => exact List.nodup_nil
      | some channel =>
        simp only [Option.map_some, Channel.requests]
        split <;> split <;> simp [flagOf]
    · rcases mem_channelFlags hi with rfl | rfl <;>
        rcases mem_channelFlags hl with h | h <;> cases h <;> rfl
  have hslots : ((List.range s.terminations.length).flatMap
      (fun j => (slotRequests s j).filterMap flagOf)).Nodup := by
    rw [List.nodup_flatMap]
    refine ⟨fun j _ => ?_, List.nodup_range.imp (fun {j l} hjl k hj hl => hjl ?_)⟩
    · unfold slotRequests
      split <;> simp [flagOf]
    · rw [mem_slotFlags hj] at hl
      exact Flag.slot.inj (mem_slotFlags hl)
  -- the topology and the signaling agent have no flag
  have hflags : (terminationRequests s).filterMap flagOf = (List.range s.channels.length).flatMap
      (fun i => (channelRequests s i).filterMap flagOf) ++ if s.context then
        (List.range s.terminations.length).flatMap
          (fun j => (slotRequests s j).filterMap flagOf) else [] := by
    cases hcontext : s.context <;>
      simp [terminationRequests, subrequests, List.filterMap_cons, List.filterMap_flatMap, flagOf,
        hcontext]
  rw [hflags, List.nodup_append]
  refine ⟨hchannels, ?_, fun a ha b hb hab => ?_⟩
  · split
    · exact hslots
    · exact List.nodup_nil
  · obtain ⟨i, -, hi⟩ := List.mem_flatMap.mp ha
    split at hb
    · obtain ⟨j, -, hj⟩ := List.mem_flatMap.mp hb
      rw [hab, mem_slotFlags hj] at hi
      rcases mem_channelFlags hi with h | h <;> cases h
    · cases hb

/-- A channel with a termination needs the media context. -/
theorem Built.context_of_channel (hs : Built s) {i : Nat}
    (hi : (s.channels[i]?).any Channel.hasTermination = true) : s.context = true := by
  obtain ⟨channel, hchannel, htermination⟩ := (Option.any_eq_true _ _).mp hi
  have hmem : true ∈ s.channels.map Channel.hasTermination :=
    List.mem_map.mpr ⟨channel, List.mem_of_getElem? hchannel, htermination⟩
  rw [hs.context, any_termination, hs.paired]
  exact List.any_eq_true.mpr ⟨true, hmem, rfl⟩

/-- The last response of the media engine is for an RTP termination. -/
theorem terminationRequests_last (hs : Built s)
    (h : ((terminationRequests s).filter Awaited.isMedia).getLast? = some r) :
    ∃ j, r = .slotSubtract j := by
  cases hcontext : s.context with
  | false =>
    -- there are no terminations
    obtain ⟨hmem, hmedia⟩ := List.mem_filter.mp (List.mem_of_getLast? h)
    rcases mem_terminationRequests hmem with ⟨-, h⟩ | ⟨i, -, h⟩ | ⟨j, -, rfl⟩ | rfl
    · rw [hcontext] at h
      cases h
    · rcases mem_channelRequests h with rfl | ⟨-, h⟩
      · cases hmedia
      · have := hs.context_of_channel h
        rw [hcontext] at this
        cases this
    · exact ⟨j, rfl⟩
    · cases hmedia
  | true =>
    have hslot : ∀ x ∈ (List.range s.terminations.length).flatMap (slotRequests s),
        ∃ j, x = .slotSubtract j := by
      intro x hx
      obtain ⟨j, -, hx⟩ := List.mem_flatMap.mp hx
      exact ⟨j, mem_slotRequests hx⟩
    have hne : (List.range s.terminations.length).flatMap (slotRequests s) ≠ [] := by
      obtain ⟨slot, hslot, htermination⟩ := List.any_eq_true.mp (hs.context.symm.trans hcontext)
      obtain ⟨j, hj, hget⟩ := List.getElem_of_mem hslot
      have hmem : Awaited.slotSubtract j ∈
          (List.range s.terminations.length).flatMap (slotRequests s) := by
        refine List.mem_flatMap.mpr ⟨j, List.mem_range.mpr hj, ?_⟩
        simp [slotRequests, List.getElem?_eq_getElem hj, hget, htermination]
      exact List.ne_nil_of_mem hmem
    have hfilter : ((List.range s.terminations.length).flatMap (slotRequests s)).filter
        Awaited.isMedia = (List.range s.terminations.length).flatMap (slotRequests s) := by
      refine List.filter_eq_self.mpr (fun x hx => ?_)
      obtain ⟨j, rfl⟩ := hslot x hx
      rfl
    rw [terminationRequests, subrequests, hcontext, if_pos rfl, if_pos rfl, List.filter_append,
      List.filter_append, hfilter] at h
    have hterminate : [Awaited.terminate].filter Awaited.isMedia = [] := rfl
    rw [hterminate, List.append_nil, List.getLast?_append, List.getLast?_eq_some_getLast hne] at h
    exact hslot r (Option.some.inj h ▸ List.getLast_mem hne)

theorem awaitAll_subrequestCount {requests : List Awaited} (s : Session)
    (hcounted : ∀ r ∈ requests, r.counted = true) :
    (s.awaitAll requests).subrequestCount = s.subrequestCount + requests.length := by
  induction requests generalizing s with
  | nil => rfl
  | cons r requests ih =>
    refine (ih (s.await r) (fun x hx => hcounted x (List.mem_cons_of_mem r hx))).trans ?_
    rw [await_subrequestCount, hcounted r List.mem_cons_self, if_pos rfl, List.length_cons]
    omega

/-! ## The responses -/

/-- The session waits for the responses `awaited` to its termination, and
nothing has been told to the application since `s0`. -/
structure Terminating (s0 : Session) (awaited : List Awaited) (s : Session) : Prop where
  active : s.activeRequest = some .sessionTerminate
  log : s.log = s0.log
  count : s.subrequestCount = awaited.length
  keyed : Keyed flagOf s.waiting awaited
  kind : ∀ r ∈ awaited, r.isTermination = true
  last : ∀ r, (awaited.filter Awaited.isMedia).getLast? = some r → ∃ j, r = .slotSubtract j

theorem reply_of_answers {input : Input} (h : input.answers = some r) :
    input.reply s = some r := by
  cases input <;> first | exact h | cases h

/-- The handler of a response: it finds its flag set, and counts down.  What it
does at the end ends the session, unless the response is for the topology or
for the termination of a channel. -/
theorem handle_termination (profile : Profile) (agents : Agents) {input : Input}
    (hs : Terminating s0 awaited s) (hr : r ∈ awaited) (h : input.answers = some r) :
    ∃ last, handle profile agents (s.replied (some r)) input =
        some (subrequestRemove ((s.replied (some r)).setWaiting false r) last) ∧
      (r.isMedia = false ∨ (∃ j, r = .slotSubtract j) →
        ∃ status, last = (mrcpAppSessionTerminateRaise · status)) := by
  have hkind := hs.kind r hr
  have hwaiting : ∀ k, flagOf r = some k → s.waiting k = true := fun k hk =>
    hs.keyed.waiting_of_mem hr hk
  cases input with
  | terminateResponse =>
    cases h
    exact ⟨_, rfl, fun _ => ⟨_, rfl⟩⟩
  | channelRemove i status =>
    cases h
    refine ⟨_, congrArg some (if_pos (hwaiting (.channel i) rfl)), fun _ => ⟨_, rfl⟩⟩
  | terminationSubtract termination status =>
    cases termination with
    | channel i =>
      cases h
      refine ⟨_, congrArg some (if_pos (hwaiting (.termination i) rfl)), ?_⟩
      rintro (h | ⟨j, h⟩) <;> cases h
    | rtp j =>
      cases h
      exact ⟨_, congrArg some (if_pos (hwaiting (.slot j) rfl)), fun _ => ⟨_, rfl⟩⟩
  | topology status =>
    cases h
    refine ⟨_, rfl, ?_⟩
    rintro (h | ⟨j, h⟩) <;> cases h
  | answer | discoverResponse | channelAdd | channelModify =>
    cases h
    cases hkind
  | terminationAdd termination status descriptor
  | terminationModify termination status descriptor =>
    cases termination <;> cases h <;> cases hkind
  | app | sessionId | terminateEvent | controlResponse | messageReceive | disconnect => cases h

/-- The end of the session. -/
theorem terminateRaise_log (hactive : s.activeRequest = some .sessionTerminate)
    (status : SigStatus) :
    (mrcpAppSessionTerminateRaise s status).next = false ∧
      ∃ status', (mrcpAppSessionTerminateRaise s status).session.log =
        s.log ++ [.removed, .response ⟨.sessionTerminate, status', none, none⟩] := by
  unfold mrcpAppSessionTerminateRaise mrcpAppSigResponseRaise
  simp only [Session.note, hactive]
  exact ⟨trivial, _, List.append_assoc _ _ _⟩

/-- A response arrives: it is one less to wait for, and the last one ends the
session. -/
theorem step_termination (profile : Profile) (agents : Agents) {input : Input}
    (hs : Terminating s0 awaited s) (hr : r ∈ awaited) (h : input.answers = some r)
    (horder : r.isMedia = true → (awaited.filter Awaited.isMedia).head? = some r) :
    ∃ s', step profile s (agents, input) = some s' ∧
      (awaited.erase r ≠ [] → Terminating s0 (awaited.erase r) s') ∧
      (awaited.erase r = [] → ∃ status, s'.log =
        s0.log ++ [.removed, .response ⟨.sessionTerminate, status, none, none⟩]) := by
  obtain ⟨last, hhandle, hlast⟩ := handle_termination profile agents hs hr h
  have hsteady := (Steady.replied s (some r)).trans (.setWaiting _ false r)
  have hlength : awaited.length = (awaited.erase r).length + 1 := by
    have hpos := List.length_pos_of_mem hr
    rw [List.length_erase_of_mem hr]
    omega
  have hcount : ((s.replied (some r)).setWaiting false r).subrequestCount =
      (awaited.erase r).length + 1 := by
    rw [setWaiting_subrequestCount, ← hlength, ← hs.count]
    rfl
  refine ⟨_, by rw [step, reply_of_answers h, hhandle]; rfl, fun hne => ?_, fun hnil => ?_⟩
  · have hpos : (awaited.erase r).length ≠ 0 := fun h0 => hne (List.length_eq_zero_iff.mp h0)
    rw [subrequestRemove, if_neg (by omega)]
    dsimp only
    rw [if_neg (by omega), hcount]
    exact {
      active := hsteady.active.trans hs.active
      log := hsteady.log.trans hs.log
      count := rfl
      keyed := by
        refine hs.keyed.erase hr (fun k hk hwaiting => ?_)
        have := setWaiting_other (s.replied (some r)) false hk
        cases k <;> exact this.trans hwaiting
      kind := fun x hx => hs.kind x (List.mem_of_mem_erase hx)
      last := fun x hx => hs.last x (getLast_filter_erase horder hx) }
  · rw [hnil, List.length_nil] at hcount
    rw [subrequestRemove, if_neg (by omega)]
    dsimp only
    rw [if_pos (by omega)]
    -- it is not one for the topology or for the termination of a channel
    have hkind : r.isMedia = false ∨ ∃ j, r = .slotSubtract j := by
      cases hmedia : r.isMedia with
      | false => exact .inl rfl
      | true =>
        refine .inr (hs.last r ?_)
        have hone : awaited = [r] := by
          have hperm := List.perm_cons_erase hr
          rw [hnil] at hperm
          exact List.perm_singleton.mp hperm
        rw [hone, List.filter_cons, hmedia]
        rfl
    obtain ⟨status, rfl⟩ := hlast hkind
    have hactive : ({ (s.replied (some r)).setWaiting false r with
        subrequestCount := ((s.replied (some r)).setWaiting false r).subrequestCount - 1 } :
        Session).activeRequest = some .sessionTerminate := hsteady.active.trans hs.active
    obtain ⟨hnext, status', hlog⟩ := terminateRaise_log hactive status
    refine ⟨status', ?_⟩
    rw [Outcome.finish, if_neg (by rw [hnext]; simp), hlog]
    exact congrArg (· ++ _) (hsteady.log.trans hs.log)

/-- The responses arrive in any order: nothing is told before the last, and the
last one ends the session. -/
theorem run_termination {profile : Profile} (run : List (Agents × Input))
    (hs : Terminating s0 awaited s) (hne : awaited ≠ [])
    (hrun : Delivers (fun input : Agents × Input => input.2.answers) Awaited.isMedia awaited run) :
    (∃ s' status, after (step profile) s run = some s' ∧ s'.log =
      s0.log ++ [.removed, .response ⟨.sessionTerminate, status, none, none⟩]) ∧
    ∀ before rest, run = before ++ rest → rest ≠ [] →
      ∃ s', after (step profile) s before = some s' ∧ s'.log = s0.log := by
  induction run generalizing awaited s with
  | nil => exact absurd hrun hne
  | cons input run ih =>
    obtain ⟨r, hanswers, hr, horder, hrun⟩ := hrun
    obtain ⟨s', hstep, hmore, hlast⟩ :=
      step_termination profile input.1 hs hr hanswers horder
    have hafter : ∀ inputs, after (step profile) s (input :: inputs) =
        after (step profile) s' inputs := fun inputs => by rw [after, hstep]; rfl
    by_cases hnil : awaited.erase r = []
    · obtain ⟨status, hlog⟩ := hlast hnil
      have hdone : run = [] := by
        rw [hnil] at hrun
        cases run with
        | nil => rfl
        | cons input' run =>
          obtain ⟨r', -, hr', -⟩ := hrun
          cases hr'
      subst hdone
      refine ⟨⟨s', status, hafter [], hlog⟩, fun before rest hsplit hrest => ?_⟩
      cases before with
      | nil => exact ⟨s, rfl, hs.log⟩
      | cons b before =>
        have hrest' : before ++ rest = [] := (List.cons.inj hsplit).2.symm
        exact absurd (List.append_eq_nil_iff.mp hrest').2 hrest
    · obtain ⟨⟨s1, status, hs1, hlog⟩, hbefore⟩ := ih (hmore hnil) hnil hrun
      refine ⟨⟨s1, status, (hafter run).trans hs1, hlog⟩, fun before rest hsplit hrest => ?_⟩
      cases before with
      | nil => exact ⟨s, rfl, hs.log⟩
      | cons b before =>
        obtain ⟨rfl, htail⟩ := List.cons.inj hsplit
        obtain ⟨s2, hs2, hlog2⟩ := hbefore before rest htail hrest
        exact ⟨s2, (hafter before).trans hs2, hlog2⟩

/-! ## The start of a termination -/

section

variable (agents : Agents) (s : Session)

theorem terminateRequest_sameParts : SameParts s (terminateRequest agents s) := by
  unfold terminateRequest
  split
  · exact .await s _
  · exact ⟨rfl, rfl, rfl⟩

theorem terminateRequest_subrequestCount :
    (terminateRequest agents s).subrequestCount = s.subrequestCount + 1 := by
  unfold terminateRequest
  split <;> rfl

theorem terminateRequest_waiting (k : Flag) :
    (terminateRequest agents s).waiting k = s.waiting k := by
  unfold terminateRequest
  split <;> cases k <;> rfl

end

theorem Built.sessionTerminate (hs : Built s) (agents : Agents) :
    Built (mrcpClientSessionTerminate agents s) := by
  have hstate : Built (s.stateSet .terminating) := ⟨hs.paired, hs.context⟩
  exact hstate.steady (.sessionTerminate agents s)

/-- After its dispatch the termination waits for all its responses. -/
theorem sessionTerminate_terminating (agents : Agents) (hs : Built s)
    (hactive : s.activeRequest = some .sessionTerminate) :
    Terminating (mrcpClientSessionTerminate agents s)
      (terminationRequests (mrcpClientSessionTerminate agents s))
      (mrcpClientSessionTerminate agents s) := by
  have hsteady := Steady.sessionTerminate agents s
  have hbuilt := hs.sessionTerminate agents
  have hparts : SameParts s (mrcpClientSessionTerminate agents s) := by
    have hstate : SameParts s (s.stateSet .terminating) := ⟨rfl, rfl, rfl⟩
    rw [sessionTerminate_eq]
    exact (hstate.trans (awaitAll_sameParts _ _)).trans (terminateRequest_sameParts agents _)
  have hrequests : terminationRequests (mrcpClientSessionTerminate agents s) =
      terminationRequests s := by
    rw [terminationRequests, terminationRequests, hparts.subrequests_eq]
  refine ⟨hsteady.active.trans hactive, rfl, ?_, ⟨?_, ?_⟩, fun r => isTermination_of_mem,
    fun r => terminationRequests_last hbuilt⟩
  · rw [hrequests, sessionTerminate_eq, terminateRequest_subrequestCount, awaitAll_subrequestCount,
      terminationRequests]
    · simp [Session.stateSet]
    · intro r hr
      exact Awaited.counted_of_isTermination (isTermination_of_mem (List.mem_append_left _ hr))
  · exact flags_nodup _
  · intro k hk
    rw [hrequests] at hk
    have hhas := has_of_mem hk
    rw [sessionTerminate_eq, terminateRequest_waiting]
    refine awaitAll_waiting _ _ (.inr ⟨?_, ?_⟩)
    · simpa [terminationRequests, flagOf] using hk
    · cases k <;> exact hhas

/-- The session has just dispatched SESSION_TERMINATE. -/
def Started (agents : Agents) (s : Session) : Prop :=
  ∃ s0, Built s0 ∧ s0.activeRequest = some .sessionTerminate ∧
    s = mrcpClientSessionTerminate agents s0

section

variable {agents : Agents} {request : AppRequest} {o : Outcome} (h : Dispatched agents s request o)
  (hs : Built s)
include h hs

theorem Dispatched.built : Built o.session := by
  cases h with
  | ignored => exact hs
  | failed status =>
    unfold mrcpAppFailureMessageRaise
    split <;> exact ⟨hs.paired, hs.context⟩
  | unregistered =>
    unfold mrcpAppSigResponseRaise
    split <;> exact ⟨hs.paired, hs.context⟩
  | processed _ _ h =>
    have hs' : Built { s with registered := true, status := .success } := ⟨hs.paired, hs.context⟩
    cases h with
    | sent h hbuilt => exact hbuilt hs'
    | terminating => exact hs'.sessionTerminate agents
    | ended h => exact h.built hs'

/-- A dispatch leads to the state TERMINATING only as a termination. -/
theorem Dispatched.started (hactive : s.activeRequest = some request)
    (hbefore : s.state ≠ .terminating) (hafter : o.session.state = .terminating) :
    o.next = false ∧ Started agents o.session := by
  cases h with
  | ignored h => exact absurd h hbefore
  | failed status =>
    unfold mrcpAppFailureMessageRaise at hafter
    split at hafter <;> exact absurd hafter hbefore
  | unregistered =>
    unfold mrcpAppSigResponseRaise at hafter
    split at hafter <;> exact absurd hafter hbefore
  | processed _ _ h =>
    cases h with
    | sent h => exact absurd (h.state hafter) hbefore
    | terminating hrequest =>
      exact ⟨rfl, { s with registered := true, status := .success }, ⟨hs.paired, hs.context⟩,
        hactive.trans (congrArg some hrequest), rfl⟩
    | ended h => exact absurd (h.state hafter) hbefore

end

/-- The same for what is taken from the queue. -/
theorem nextRequest_built (profile : Profile) (agents : Agents) (queue : List AppRequest)
    (hs : Built s) :
    Built (nextRequest profile agents queue s) ∧
      (s.state ≠ .terminating → (nextRequest profile agents queue s).state = .terminating →
        Started agents (nextRequest profile agents queue s)) := by
  induction queue generalizing s with
  | nil => exact ⟨⟨hs.paired, hs.context⟩, fun hbefore hafter => absurd hafter hbefore⟩
  | cons request queue ih =>
    have hdispatched := dispatch_dispatched profile agents
      (s := { s with activeRequest := some request, requestQueue := queue }) rfl
    have hs' : Built { s with activeRequest := some request, requestQueue := queue } :=
      ⟨hs.paired, hs.context⟩
    rw [nextRequest]
    generalize mrcpAppRequestDispatch profile agents _ request = o at hdispatched ⊢
    have hbuilt := hdispatched.built hs'
    cases hnext : o.next with
    | false =>
      refine ⟨hbuilt, fun hbefore hafter => ?_⟩
      exact (hdispatched.started hs' rfl hbefore hafter).2
    | true =>
      obtain ⟨hb, hstarted⟩ := ih hbuilt
      refine ⟨hb, fun hbefore hafter => hstarted (fun hstate => ?_) hafter⟩
      have := (hdispatched.started hs' rfl hbefore hstate).1
      rw [hnext] at this
      cases this

/-- The same for a step. -/
theorem step_built {profile : Profile} {s' : Session} {input : Agents × Input} (hs : Built s)
    (h : step profile s input = some s') :
    Built s' ∧ (s.state ≠ .terminating → s'.state = .terminating → Started input.1 s') := by
  obtain ⟨o, ho, rfl⟩ := Option.map_eq_some_iff.mp h
  have hreplied := Steady.replied s (input.2.reply s)
  have hs0 := hs.steady hreplied
  -- the handler, and then what is taken from the queue
  have hhandler : Built o.session ∧ (s.state ≠ .terminating → o.session.state = .terminating →
      o.next = false ∧ Started input.1 o.session) := by
    by_cases hinput : ∃ request, input.2 = .app request
    · obtain ⟨request, hrequest⟩ := hinput
      rw [hrequest] at ho hs0 hreplied
      cases ho
      unfold mrcpClientAppMessageProcess
      split
      · exact ⟨⟨hs0.paired, hs0.context⟩, fun hbefore hafter =>
          absurd (hreplied.state hafter) hbefore⟩
      · have hdispatched := dispatch_dispatched profile input.1
          (s := { s.replied (Input.reply s (.app request)) with activeRequest := some request }) rfl
        have hs1 : Built { s.replied (Input.reply s (.app request)) with
            activeRequest := some request } := ⟨hs0.paired, hs0.context⟩
        exact ⟨hdispatched.built hs1, fun hbefore hafter =>
          hdispatched.started hs1 rfl (fun hstate => hbefore (hreplied.state hstate)) hafter⟩
    · have hhandled := handle_handled (fun request hr => hinput ⟨request, hr⟩) ho
      exact ⟨hhandled.built hs0, fun hbefore hafter =>
        absurd (hreplied.state (hhandled.state hafter)) hbefore⟩
  obtain ⟨hbuilt, hstarted⟩ := hhandler
  unfold Outcome.finish
  cases hnext : o.next with
  | false => exact ⟨hbuilt, fun hbefore hafter => (hstarted hbefore hafter).2⟩
  | true =>
    obtain ⟨hb, hnextStarted⟩ := nextRequest_built profile input.1 o.session.requestQueue hbuilt
    refine ⟨hb, fun hbefore hafter => hnextStarted (fun hstate => ?_) hafter⟩
    have := (hstarted hbefore hstate).1
    rw [hnext] at this
    cases this

theorem mrcpClientSessionCreate_built : Built mrcpClientSessionCreate := ⟨rfl, rfl⟩

/-- In every session that has come to its termination, and for every order in
which the responses to it arrive, the last one removes the session and raises
the one response to SESSION_TERMINATE, and none before it does either. -/
theorem termination_responded_once (profile : Profile) (history : List (Agents × Input))
    (input : Agents × Input) (s s0 : Session)
    (hhistory : after (step profile) mrcpClientSessionCreate history = some s)
    (hstep : step profile s input = some s0) (hbefore : s.state ≠ .terminating)
    (hafter : s0.state = .terminating) (run : List (Agents × Input))
    (hrun : Delivers (fun input : Agents × Input => input.2.answers) Awaited.isMedia
      (terminationRequests s0) run) :
    (∃ s' status, after (step profile) s0 run = some s' ∧ s'.log =
      s0.log ++ [.removed, .response ⟨.sessionTerminate, status, none, none⟩]) ∧
    ∀ before rest, run = before ++ rest → rest ≠ [] →
      ∃ s', after (step profile) s0 before = some s' ∧ s'.log = s0.log := by
  have hbuilt : Built s :=
    (always_of_along (fun s a s' hs _ h => (step_built hs h).1) history _
      mrcpClientSessionCreate_built (Along.true history _)).after hhistory
  obtain ⟨s1, hs1, hactive, rfl⟩ := (step_built hbuilt hstep).2 hbefore hafter
  exact run_termination run (sessionTerminate_terminating input.1 hs1 hactive)
    (by simp [terminationRequests]) hrun

/-- The responses to the termination of a session with a recognizer. -/
def recognizerTermination : List (Agents × Input) :=
  [.topology true, .terminateResponse, .terminationSubtract (.channel 0) true,
    .channelRemove 0 true, .terminationSubtract (.rtp 0) true].map
      (fun input => (willingAgents, input))

theorem termination_responded_once_recognizer :
    ∃ s s0 s' status, after (step (clientProfile .v2)) mrcpClientSessionCreate recognizerSetup =
        some s ∧
      step (clientProfile .v2) s (willingAgents, .app .sessionTerminate) = some s0 ∧
      after (step (clientProfile .v2)) s0 recognizerTermination = some s' ∧
      s'.log = s0.log ++ [.removed, .response ⟨.sessionTerminate, status, none, none⟩] := by
  obtain ⟨⟨s', status, hs', hlog⟩, -⟩ := termination_responded_once (clientProfile .v2)
    recognizerSetup (willingAgents, .app .sessionTerminate) _ _ rfl rfl (by decide +kernel)
    (by decide +kernel) recognizerTermination (by decide +kernel)
  exact ⟨_, _, s', status, rfl, rfl, hs', hlog⟩

end UniMrcp.Client
