import UniMrcp.Engine.Synth
import UniMrcp.Engine.SharedEffects

/-!
# The effects of the synthesizer

`synthesizer_refines`: every update of the synthesizer state machine is an
effect.
-/

namespace UniMrcp.Engine

open UniMrcp.Lib UniMrcp.Mrcp Resource

/-- What the dispatching knows of the synthesizer. -/
def synthMethods : Methods where
  main := synthesizerSpeak
  stop := synthesizerStop
  bargeIn := [synthesizerBargeInOccurred]
  follows := [synthesizerStop, synthesizerPause, synthesizerResume,
    synthesizerBargeInOccurred, synthesizerControl]
  count := synthesizerMethodCount
  marker := synthesizerSpeechMarker
  completion := synthesizerSpeakComplete
  eventCount := synthesizerEventCount
  keeps := false
  announces := true
  main_lt := by decide
  main_ne_stop := by decide
  main_not_bargeIn := by decide
  main_not_follows := by decide
  marker_ne := by decide

/-- The synthesizer state machine. -/
def synthesizer : Resource SynthState where
  methods := synthMethods
  busy := fun _ inProgress => inProgress.isSome
  Consistent := fun state inProgress => state = .idle ↔ inProgress = none
  update := synthStateUpdate
  create := mrcpSynthStateMachineCreate

/-- The id of a method of the arrays. -/
theorem synthMethod_id (id : Nat) :
    match synthMethod id with
    | some .setParams => id = 0
    | some .getParams => id = 1
    | some .speak => id = 2
    | some .stop => id = 3
    | some .pause => id = 4
    | some .resume => id = 5
    | some .bargeInOccurred => id = 6
    | some .control => id = 7
    | some .defineLexicon => id = 8
    | none => 9 ≤ id :=
  match id with
  | 0 | 1 | 2 | 3 | 4 | 5 | 6 | 7 | 8 => rfl
  | n + 9 => Nat.le_add_left 9 n

theorem synthEvent_id (id : Nat) :
    match synthEvent id with
    | some .speechMarker => id = 0
    | some .speakComplete => id = 1
    | none => 2 ≤ id :=
  match id with
  | 0 | 1 => rfl
  | n + 2 => Nat.le_add_left 2 n

theorem mem_synthFollows_iff (id : Nat) :
    id ∈ synthesizer.methods.follows ↔ 3 ≤ id ∧ id ≤ 7 := by
  simp only [synthesizer, synthMethods, synthesizerStop, synthesizerPause, synthesizerResume,
    synthesizerBargeInOccurred, synthesizerControl, List.mem_cons, List.not_mem_nil, or_false]
  omega

section Cases

variable {machine : SynthStateMachine} {message : MrcpMessage}

theorem speaking_isSome (hlive : synthesizer.Live machine) (hstate : machine.state ≠ .idle) :
    machine.inProgress.isSome = true := by
  have h := hlive.consistent
  exact Option.isSome_iff_ne_none.mpr (fun hnone => hstate (h.mpr hnone))

theorem admits_synthRequest (memory : Nat → UInt8) (hlive : synthesizer.Live machine)
    (htype : message.startLine.messageType = .request) :
    synthesizer.Admits machine message (synthRequestStateUpdate memory machine message) := by
  have hmethod := synthMethod_id message.startLine.methodId
  -- the methods that need no speaker
  have hdispatch : ∀ machine' message', synthesizer.Kept machine machine' →
      message'.startLine = message.startLine →
      message.startLine.methodId < 9 ∧ message.startLine.methodId ≠ 2 →
      (3 ≤ message.startLine.methodId ∧ message.startLine.methodId ≤ 7 →
        machine'.inProgress.isSome = true) →
      synthesizer.Admits machine message (.ok (requestDispatch machine' message')) := by
    intro machine' message' hkept hline ⟨hcount, hmain⟩ hfollows
    apply admits_requestDispatch hlive htype hkept hline hcount
    · intro h
      exact absurd h hmain
    · intro h
      exact hfollows ((mem_synthFollows_iff _).mp h)
  have hreply : message.startLine.methodId ≠ 2 → synthesizer.Admits machine message
      (.ok (responseDispatch machine (mrcpResponseCreate message))) := fun hmain =>
    admits_responseDispatch hlive htype hmain (mrcpResponseCreate_request message)
  have hinvalid : message.startLine.methodId ≠ 2 → synthesizer.Admits machine message
      (.ok (responseDispatch machine (methodNotValid message))) := fun hmain =>
    admits_responseDispatch hlive htype hmain (methodNotValid_request message)
  have htoggle : ∀ source, 4 ≤ message.startLine.methodId → message.startLine.methodId ≤ 5 →
      synthesizer.Admits machine message (.ok (synthRequestToggle source machine message)) := by
    intro source hlow hhigh
    unfold synthRequestToggle
    split
    · exact hinvalid (by omega)
    · next speaker hspeaker =>
      split
      · exact hdispatch _ _ (.refl hlive) rfl (by omega)
          (fun _ => by rw [hspeaker]; rfl)
      · exact hreply (by omega)
  unfold synthRequestStateUpdate
  revert hmethod
  cases synthMethod message.startLine.methodId with
  | none =>
    intro (hid : 9 ≤ _)
    exact .ok (signalOf_request htype) hlive rfl rfl (.ignoredRequest _ _ hid)
  | some method =>
    cases method with
    | setParams =>
      intro (hid : _ = 0)
      exact hdispatch _ _ (kept_properties hlive _) rfl (by omega) (by omega)
    | getParams =>
      intro (hid : _ = 1)
      exact hdispatch _ _ (.refl hlive) rfl (by omega) (by omega)
    | speak =>
      intro (hid : _ = 2)
      unfold synthRequestSpeak
      dsimp only
      split
      · next hbusy => exact admits_queueUp hlive htype hid hbusy rfl
      · next hbusy =>
        refine admits_requestDispatch hlive htype (.refl hlive) ?_ ?_ ?_ ?_
        · rfl
        · rw [hid]
          decide
        · intro _
          exact Bool.eq_false_iff.mpr hbusy
        · intro h
          rw [hid] at h
          exact absurd h (by decide)
    | stop =>
      intro (hid : _ = 3)
      have hstop : synthesizer.Admits machine message (stopReply memory machine message) :=
        admits_stopReply hlive htype memory (.refl hlive) (by rw [hid]; decide)
      show synthesizer.Admits _ _ (synthRequestStop memory machine message)
      unfold synthRequestStop
      split
      · exact hstop
      · next speaker hspeaker =>
        split
        · exact hdispatch _ _ (.refl hlive) rfl (by omega)
            (fun _ => by rw [hspeaker]; rfl)
        · exact hstop
    | pause =>
      intro (hid : _ = 4)
      exact htoggle .speaking (by omega) (by omega)
    | resume =>
      intro (hid : _ = 5)
      exact htoggle .paused (by omega) (by omega)
    | bargeInOccurred =>
      intro (hid : _ = 6)
      show synthesizer.Admits _ _ (.ok (synthRequestBargeInOccurred machine message))
      unfold synthRequestBargeInOccurred
      split
      · next hkill =>
        exact hdispatch _ _ (.refl hlive) rfl (by omega)
          (fun _ => (Bool.and_eq_true_iff.mp hkill).1)
      · exact hreply (by omega)
    | control =>
      intro (hid : _ = 7)
      show synthesizer.Admits _ _ (.ok (synthRequestControl machine message))
      unfold synthRequestControl
      split
      · next hstate =>
        exact hdispatch _ _ (.refl hlive) rfl (by omega)
          (fun _ => speaking_isSome hlive (by rw [hstate]; decide))
      · exact hreply (by omega)
    | defineLexicon =>
      intro (hid : _ = 8)
      show synthesizer.Admits _ _ (.ok (synthRequestDefineLexicon machine message))
      unfold synthRequestDefineLexicon
      split
      · exact hdispatch _ _ (.refl hlive) rfl (by omega) (by omega)
      · exact hinvalid (by omega)

/-- The speaker stays when the synthesizer pauses or resumes. -/
theorem kept_toggle (hsome : machine.inProgress.isSome = true) {target : SynthState}
    (htarget : target ≠ .idle) :
    synthesizer.Kept machine (synthStateChange machine target) ∧
      (synthStateChange machine target).inProgress = machine.inProgress := by
  have hsame : (synthStateChange machine target).inProgress = machine.inProgress := by
    simp [synthStateChange, stateChange, htarget]
  refine ⟨⟨rfl, rfl, rfl, ?_, ?_, .inl ?_⟩, hsame⟩
  · obtain ⟨speaker, hspeaker⟩ := Option.isSome_iff_exists.mp hsome
    simp [synthesizer, synthStateChange, stateChange, hspeaker]
  · rw [hsame]
    rfl
  · rw [hsame]
    rfl

theorem admits_synthResponse (memory : Nat → UInt8) (hlive : synthesizer.Live machine)
    (htype : message.startLine.messageType = .response) :
    synthesizer.Admits machine message (synthResponseStateUpdate memory machine message) := by
  refine admits_awaited hlive htype fun active hactive hid => ?_
  have hmethod := synthMethod_id message.startLine.methodId
  have hanswer : ∀ machine' message', synthesizer.Kept machine machine' →
      machine'.inProgress = machine.inProgress →
      message'.startLine = message.startLine →
      message.startLine.methodId < 9 ∧ message.startLine.methodId ≠ 2 ∧
        message.startLine.methodId ≠ 3 ∧ message.startLine.methodId ≠ 6 →
      synthesizer.Admits machine message (.ok (responseDispatch machine' message')) := by
    intro machine' message' hkept hsame hline ⟨hcount, hmain, hstop, hbarge⟩
    exact admits_answer hlive htype hactive hid hkept hsame hcount hmain hstop
      (fun h => hbarge (List.mem_singleton.mp h)) hline
  have htoggle : ∀ target, target ≠ SynthState.idle → 4 ≤ message.startLine.methodId →
      message.startLine.methodId ≤ 5 →
      synthesizer.Admits machine message
        (synthResponseToggle target memory machine message) := by
    intro target htarget hlow hhigh
    unfold synthResponseToggle
    split
    · apply admits_follow memory htype hactive hid
      · rw [mem_synthFollows_iff]
        omega
      · intro message' hline _ hsome
        obtain ⟨hkept, hsame⟩ := kept_toggle hsome htarget
        exact hanswer _ message' hkept hsame hline (by omega)
    · exact hanswer _ _ (.refl hlive) rfl rfl (by omega)
  revert hmethod
  cases synthMethod message.startLine.methodId with
  | none =>
    intro (hcount : 9 ≤ _)
    exact admits_ignoredResponse hlive htype (.inr hcount)
  | some method =>
    cases method with
    | setParams | getParams | defineLexicon =>
      intro hid'
      dsimp only at hid'
      exact hanswer _ _ (.refl hlive) rfl rfl (by omega)
    | speak =>
      intro (hid' : _ = 2)
      obtain ⟨hevent, hrequest, hmarker⟩ := mrcpEventCreate_spec active synthesizerSpeechMarker
      refine admits_begun .idle .speaking (by decide) (by simp [synthesizer])
        (by simp [synthesizer]) hlive htype hactive hid hid' fun machine' hon =>
          ⟨_, true, if_pos hon, ?_⟩
      simp only [setRequestState, hevent, hrequest, hmarker]
      rfl
    | stop =>
      intro (hid' : _ = 3)
      refine admits_report memory htype hactive hid ?_ (fun queue message =>
        processPending (responseDispatch
          (synthStateChange { machine with queue := queue } .idle) message)) ?_
      · rw [hid']
        decide
      · intro message' hline
        exact admits_stopped .idle (by simp [synthesizer]) (by simp [synthesizer])
          hlive htype hactive hid hid' hline
    | pause =>
      intro (hid' : _ = 4)
      exact htoggle .paused (by decide) (by omega) (by omega)
    | resume =>
      intro (hid' : _ = 5)
      exact htoggle .speaking (by decide) (by omega) (by omega)
    | bargeInOccurred =>
      intro (hid' : _ = 6)
      refine admits_report memory htype hactive hid ?_ (fun queue message =>
        responseDispatch (synthStateChange { machine with queue := queue } .idle)
          message) ?_
      · rw [hid']
        decide
      · intro message' hline
        refine admits_barged .idle (by simp [synthesizer]) (by simp [synthesizer])
          hlive htype hactive hid ?_ hline
        rw [hid']
        decide
    | control =>
      intro (hid' : _ = 7)
      apply admits_follow memory htype hactive hid
      · rw [hid']
        decide
      · intro message' hline _ _
        exact hanswer _ message' (.refl hlive) rfl hline (by omega)

theorem admits_synthEvent (hlive : synthesizer.Live machine)
    (htype : message.startLine.messageType = .event) :
    synthesizer.Admits machine message (synthEventStateUpdate machine message) := by
  have hmethod := synthEvent_id message.startLine.methodId
  unfold synthEventStateUpdate
  revert hmethod
  cases synthEvent message.startLine.methodId with
  | none =>
    intro (hid : 2 ≤ _)
    exact admits_ignoredEvent hlive htype (.inl hid)
  | some event =>
    cases event with
    | speechMarker =>
      intro (hid : _ = 0)
      exact admits_marker hlive htype hid
    | speakComplete =>
      intro (hid : _ = 1)
      refine admits_completion hlive htype rfl hid fun speaker _ =>
        ⟨⟨hlive.active, ?_, hlive.queue⟩, ?_⟩
      · simp [synthesizer, synthStateChange, stateChange]
      · simp [Resource.view, synthesizer, synthStateChange, stateChange, synthMethods]

end Cases

/-- What BARGE-IN-OCCURRED leaves in the queue when the engine has answered it. -/
theorem synthResponse_barge {memory : Nat → UInt8} {machine : SynthStateMachine}
    {active message : MrcpMessage} {update : Update SynthState}
    (hactive : machine.activeRequest = some active)
    (hid : active.requestId = message.requestId)
    (hmethod : message.startLine.methodId = synthesizerBargeInOccurred)
    (h : synthResponseStateUpdate memory machine message = .ok update) :
    update.machine.queue = remaining active machine.queue := by
  have hbarge : synthResponseStateUpdate memory machine message =
      synthResponseBargeInOccurred memory machine active message := by
    simp only [synthResponseStateUpdate, hactive, hid, ne_eq,
      hmethod]
    rfl
  rw [hbarge] at h
  unfold synthResponseBargeInOccurred synthPendingRequestsRemove at h
  rcases reportInProgress_cases memory machine message with
    ⟨message', hreport, -⟩ | ⟨hreport, -⟩ | ⟨hreport, -⟩
  · rcases pendingRequestsRemove_cases memory machine.queue active message' with
      ⟨message'', hremove, -⟩ | ⟨hremove, -⟩
    · simp only [hreport, hremove, bind, Except.bind] at h
      cases h
      rfl
    · simp only [hreport, hremove, bind, Except.bind] at h
      cases h
  · simp only [hreport] at h
    cases h
  · simp only [hreport] at h
    cases h

/-- The synthesizer refines the dispatcher. -/
theorem synthesizer_refines : synthesizer.Refines where
  create version := by
    refine ⟨rfl, ?_, ?_⟩
    · simp [synthesizer, mrcpSynthStateMachineCreate]
    · intro pending hmem
      cases hmem
  update memory machine message hlive := by
    show synthesizer.Admits machine message (synthStateUpdate memory machine message)
    unfold synthStateUpdate
    split
    · next htype => exact admits_synthRequest memory hlive htype
    · next htype => exact admits_synthResponse memory hlive htype
    · next htype => exact admits_synthEvent hlive htype
    · next htype =>
      refine ⟨hlive, ?_⟩
      rw [signalOf, htype]
      exact Effect.unknown _

end UniMrcp.Engine
