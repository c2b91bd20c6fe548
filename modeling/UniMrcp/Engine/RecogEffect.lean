import UniMrcp.Engine.Recog
import UniMrcp.Engine.SharedEffects

/-!
# The effects of the recognizer

`recognizer_refines`: every update of the recognizer state machine is an
effect.
-/

namespace UniMrcp.Engine

open UniMrcp.Lib UniMrcp.Mrcp Resource

/-- What the dispatching knows of the recognizer. -/
def recogMethods : Methods where
  main := recognizerRecognize
  stop := recognizerStop
  bargeIn := []
  follows := [recognizerStop]
  count := recognizerMethodCount
  marker := recognizerStartOfInput
  completion := recognizerRecognitionComplete
  eventCount := recognizerEventCount
  keeps := true
  announces := false
  main_lt := by decide
  main_ne_stop := by decide
  main_not_bargeIn := by decide
  main_not_follows := by decide
  marker_ne := by decide

/-- The recognizer state machine. -/
def recognizer : Resource RecogState where
  methods := recogMethods
  busy := fun state _ => state = .recognizing
  Consistent := fun state inProgress => state = .idle ↔ inProgress = none
  update := recogStateUpdate
  create := mrcpRecogStateMachineCreate

/-- The id of a method of the arrays. -/
theorem recogMethod_id (id : Nat) :
    match recogMethod id with
    | .setParams => id = 0
    | .getParams => id = 1
    | .defineGrammar => id = 2
    | .recognize => id = 3
    | .interpret => id = 4
    | .getResult => id = 5
    | .startInputTimers => id = 6
    | .stop => id = 7
    | .other => 8 ≤ id :=
  match id with
  | 0 | 1 | 2 | 3 | 4 | 5 | 6 | 7 => rfl
  | n + 8 => Nat.le_add_left 8 n

theorem recogEvent_id (id : Nat) :
    match recogEvent id with
    | some .startOfInput => id = 0
    | some .recognitionComplete => id = 1
    | some .interpretationComplete => id = 2
    | none => 3 ≤ id :=
  match id with
  | 0 | 1 | 2 => rfl
  | n + 3 => Nat.le_add_left 3 n

section Cases

variable {machine : RecogStateMachine} {message : MrcpMessage}

/-- A completed request is given up. -/
theorem kept_recognized (hstate : machine.state = .recognized) :
    recognizer.Kept machine (recogStateChange machine .idle) := by
  refine ⟨rfl, rfl, rfl, ?_, ?_, .inr ⟨?_, rfl⟩⟩
  · simp [recognizer, recogStateChange, stateChange]
  · simp [recognizer, recogStateChange, stateChange, hstate]
  · simp [recognizer, Resource.view, hstate]

theorem recognizing_isSome (hlive : recognizer.Live machine)
    (hstate : machine.state = .recognizing) : machine.inProgress.isSome = true := by
  have h := hlive.consistent
  simp only [recognizer, hstate, reduceCtorEq, false_iff] at h
  exact Option.isSome_iff_ne_none.mpr h

section

variable (memory : Nat → UInt8) (hlive : recognizer.Live machine)
include hlive

theorem admits_recogRequestStop (htype : message.startLine.messageType = .request)
    (hid : message.startLine.methodId = 7) :
    recognizer.Admits machine message (recogRequestStop memory machine message) := by
  have hmain : message.startLine.methodId ≠ recognizer.methods.main := by rw [hid]; decide
  have hcount : message.startLine.methodId < recognizer.methods.count := by rw [hid]; decide
  have hreply := admits_stopReply hlive htype memory (.refl hlive) hmain
  unfold recogRequestStop
  split
  · next hstate =>
    have hsome := recognizing_isSome hlive hstate
    have hdispatch : recognizer.Admits machine message
        (.ok (requestDispatch machine message)) :=
      admits_requestDispatch hlive htype (.refl hlive) rfl hcount
        (fun h => absurd h hmain) (fun _ => hsome)
    split
    · exact hdispatch
    · split
      · next hnone =>
        rw [hnone] at hsome
        cases hsome
      · split
        · exact hdispatch
        · exact hreply
  · next hstate => exact admits_stopReply hlive htype memory (kept_recognized hstate) hmain
  · exact hreply

theorem admits_recogRequest (htype : message.startLine.messageType = .request) :
    recognizer.Admits machine message (recogRequestStateUpdate memory machine message) := by
  unfold recogRequestStateUpdate
  split
  · next hcount =>
    exact .ok (signalOf_request htype) hlive rfl rfl (.ignoredRequest _ _ hcount)
  · next hcount =>
    have hcount : message.startLine.methodId < recognizer.methods.count := Nat.not_le.mp hcount
    have hmethod := recogMethod_id message.startLine.methodId
    -- the methods other than RECOGNIZE and STOP go to the engine in any state
    have hdispatch : ∀ machine' message', recognizer.Kept machine machine' →
        message'.startLine = message.startLine →
        message.startLine.methodId ≠ 3 ∧ message.startLine.methodId ≠ 7 →
        recognizer.Admits machine message (.ok (requestDispatch machine' message')) := by
      intro machine' message' hkept hline ⟨hmain, hstop⟩
      apply admits_requestDispatch hlive htype hkept hline hcount
      · intro h
        exact absurd h hmain
      · intro h
        exact absurd (List.mem_singleton.mp h) hstop
    have hinvalid : message.startLine.methodId ≠ 3 → recognizer.Admits machine message
        (.ok (responseDispatch machine (methodNotValid message))) := fun hmain =>
      admits_responseDispatch hlive htype hmain (methodNotValid_request message)
    revert hmethod
    cases recogMethod message.startLine.methodId with
    | setParams =>
      intro (hid : _ = 0)
      exact hdispatch _ _ (kept_properties hlive _) rfl (by omega)
    | defineGrammar =>
      intro (hid : _ = 2)
      show recognizer.Admits _ _ (.ok (recogRequestDefineGrammar machine message))
      unfold recogRequestDefineGrammar
      split
      · exact hinvalid (by omega)
      · next hstate => exact hdispatch _ _ (kept_recognized hstate) rfl (by omega)
      · exact hdispatch _ _ (.refl hlive) rfl (by omega)
    | recognize =>
      intro (hid : _ = 3)
      unfold recogRequestRecognize
      dsimp only
      split
      · next hstate =>
        exact admits_queueUp hlive htype hid (by simp [recognizer, hstate]) rfl
      · next hstate =>
        refine admits_requestDispatch hlive htype (.refl hlive) ?_ hcount ?_ ?_
        · rfl
        · intro _
          simp [recognizer, hstate]
        · intro h
          rw [hid] at h
          exact absurd h (by decide)
    | getParams | interpret | other =>
      intro hid
      dsimp only at hid
      exact hdispatch _ _ (.refl hlive) rfl (by omega)
    | getResult =>
      intro (hid : _ = 5)
      show recognizer.Admits _ _ (.ok (recogRequestGetResult machine message))
      unfold recogRequestGetResult
      split
      · exact hdispatch _ _ (.refl hlive) rfl (by omega)
      · exact hinvalid (by omega)
    | startInputTimers =>
      intro (hid : _ = 6)
      show recognizer.Admits _ _ (.ok (recogRequestRecognitionStartTimers machine message))
      unfold recogRequestRecognitionStartTimers
      split
      · exact hdispatch _ _ (.refl hlive) rfl (by omega)
      · exact hinvalid (by omega)
    | stop =>
      intro (hid : _ = 7)
      exact admits_recogRequestStop memory hlive htype hid

theorem admits_recogResponse (htype : message.startLine.messageType = .response) :
    recognizer.Admits machine message (recogResponseStateUpdate memory machine message) := by
  refine admits_awaited hlive htype fun active hactive hid => ?_
  split
  · next hcount => exact admits_ignoredResponse hlive htype (.inr hcount)
  · next hcount =>
    have hcount : message.startLine.methodId < recognizer.methods.count :=
      Nat.not_le.mp hcount
    have hmethod := recogMethod_id message.startLine.methodId
    have hanswer : ∀ message', message'.startLine = message.startLine →
        message.startLine.methodId ≠ 3 ∧ message.startLine.methodId ≠ 7 →
        recognizer.Admits machine message (.ok (responseDispatch machine message')) := by
      intro message' hline ⟨hmain, hstop⟩
      exact admits_answer hlive htype hactive hid (.refl hlive) rfl hcount hmain hstop
        (List.not_mem_nil) hline
    revert hmethod
    cases recogMethod message.startLine.methodId with
    | setParams | getParams | interpret | getResult | startInputTimers | other =>
      intro hid'
      dsimp only at hid'
      exact hanswer _ rfl (by omega)
    | defineGrammar =>
      intro (hid' : _ = 2)
      apply admits_cause
      intro message' hline
      exact hanswer message' hline (by omega)
    | recognize =>
      intro (hid' : _ = 3)
      exact admits_begun .idle .recognizing (by decide) (by simp [recognizer])
        (by simp [recognizer]) hlive htype hactive hid hid' fun _ _ => ⟨[], true, rfl, rfl⟩
    | stop =>
      intro (hid' : _ = 7)
      refine admits_report memory htype hactive hid ?_ (fun queue message =>
        processPending (responseDispatch
          (recogStateChange { machine with queue := queue } .idle) message)) ?_
      · rw [hid']
        decide
      · intro message' hline
        exact admits_stopped .idle (by simp [recognizer]) (by simp [recognizer])
          hlive htype hactive hid hid' hline

end

theorem admits_recogEvent (hlive : recognizer.Live machine)
    (htype : message.startLine.messageType = .event) :
    recognizer.Admits machine message (recogEventStateUpdate machine message) := by
  have hmethod := recogEvent_id message.startLine.methodId
  unfold recogEventStateUpdate
  revert hmethod
  cases recogEvent message.startLine.methodId with
  | none =>
    intro (hid : 3 ≤ _)
    exact admits_ignoredEvent hlive htype (.inl hid)
  | some event =>
    cases event with
    | startOfInput =>
      intro (hid : _ = 0)
      exact admits_marker hlive htype hid
    | recognitionComplete =>
      intro (hid : _ = 1)
      refine admits_completion hlive htype rfl hid fun recog hstored =>
        ⟨⟨hlive.active, ?_, hlive.queue⟩, ?_⟩
      · simp [recognizer, recogStateChange, stateChange, hstored]
      · simp [Resource.view, recognizer, recogStateChange, stateChange, hstored, recogMethods]
    | interpretationComplete =>
      intro (hid : _ = 2)
      apply admits_cause
      intro message' hline
      apply admits_forward hlive htype
      · rw [hid]
        decide
      · intro h
        rw [hid] at h
        exact absurd h (by decide)
      · rw [hline, htype]
      · exact requestOf_congr hline

end Cases

/-- The recognizer refines the dispatcher. -/
theorem recognizer_refines : recognizer.Refines where
  create version := by
    refine ⟨rfl, ?_, ?_⟩
    · simp [recognizer, mrcpRecogStateMachineCreate]
    · intro pending hmem
      cases hmem
  update memory machine message hlive := by
    show recognizer.Admits machine message (recogStateUpdate memory machine message)
    unfold recogStateUpdate
    split
    · next htype => exact admits_recogRequest memory hlive htype
    · next htype => exact admits_recogResponse memory hlive htype
    · next htype => exact admits_recogEvent hlive htype
    · next htype =>
      refine ⟨hlive, ?_⟩
      rw [signalOf, htype]
      exact Effect.unknown _

end UniMrcp.Engine
