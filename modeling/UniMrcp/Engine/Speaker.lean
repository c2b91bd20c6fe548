import UniMrcp.Engine.SynthEffect

/-!
# The speaker of the synthesizer

The pointer to the SPEAK in progress is set exactly in the states SPEAKING and
PAUSED.  The handlers of STOP, PAUSE, RESUME, BARGE-IN-OCCURRED and CONTROL
responses follow it without a test; the test was made when the request came.
`speaker_valid` says what has to hold in between: a SPEAK-COMPLETE may be
overtaken by STOP only, which `synth_event_speak_complete` looks for.
-/

namespace UniMrcp.Engine

open UniMrcp.Lib UniMrcp.Mrcp

/-- The speaker is set exactly when the synthesizer is speaking or paused, and
it has not been followed when it was NULL. -/
def SpeakerValid (w : World SynthState) : Prop :=
  (w.machine.inProgress.isSome = true ↔
      w.machine.state = .speaking ∨ w.machine.state = .paused) ∧
    w.fault ≠ some .inProgress

/-- A response handler that follows the speaker finds one. -/
def HandlerFindsSpeaker (w : World SynthState) (input : Received) : Prop :=
  synthesizer.Follows (synthesizer.view w.machine) (signalOf input.message) →
    w.machine.inProgress.isSome = true

instance (w : World SynthState) (input : Received) : Decidable (HandlerFindsSpeaker w input) :=
  inferInstanceAs (Decidable (synthesizer.Follows _ _ → _ = true))

/-- Between a request that needs the speaker and its response the speaker
stays: the completion event does not come while the active request is a PAUSE,
RESUME, BARGE-IN-OCCURRED or CONTROL, and a response of these methods or STOP
answers a request of them. -/
def SpeakerKept (v : View) : Signal → Prop
  | .event r => r.method = synthesizerSpeakComplete → v.Stores r → ¬ v.Stops synthMethods →
      ∀ a ∈ v.active, a.method ∉ synthMethods.follows
  | .response r _ => r.method ∈ synthMethods.follows →
      ∀ a ∈ v.active, a.id = r.id → a.method ∈ synthMethods.follows
  | .request _ | .unknown => True

instance (v : View) : (signal : Signal) → Decidable (SpeakerKept v signal)
  | .event r => inferInstanceAs (Decidable (r.method = synthesizerSpeakComplete →
      v.Stores r → ¬ v.Stops synthMethods → ∀ a ∈ v.active, a.method ∉ synthMethods.follows))
  | .response r _ => inferInstanceAs (Decidable (r.method ∈ synthMethods.follows →
      ∀ a ∈ v.active, a.id = r.id → a.method ∈ synthMethods.follows))
  | .request _ | .unknown => isTrue trivial

/-- The active request has the speaker it needs. -/
def ActiveHasSpeaker (v : View) : Prop :=
  ∀ a, v.active = some a → a.method ∈ synthMethods.follows → v.stored.isSome = true

theorem activeHasSpeaker_pop {v : View}
    (hmain : ∀ r ∈ v.queue, r.method = synthMethods.main)
    (hempty : v.queue = [] → ActiveHasSpeaker v) : ActiveHasSpeaker v.pop.1 := by
  rcases v.pop_cases with ⟨hqueue, hpop⟩ | ⟨r, queue, hqueue, hpop⟩
  · rw [hpop]
    exact hempty hqueue
  · rw [hpop]
    intro a ha hfollows
    cases ha
    rw [hmain r (by rw [hqueue]; exact List.mem_cons_self)] at hfollows
    exact absurd hfollows synthMethods.main_not_follows

theorem activeHasSpeaker_none {v : View} (hactive : v.active = none) : ActiveHasSpeaker v := by
  intro a ha
  rw [hactive] at ha
  cases ha

/-- One message. -/
theorem activeHasSpeaker_effect {v v' : View} {signal : Signal} {emissions : List Emission}
    (h : ActiveHasSpeaker v) (hmain : ∀ r ∈ v.queue, r.method = synthMethods.main)
    (hkept : SpeakerKept v signal) (heffect : Effect synthMethods v signal v' emissions) :
    ActiveHasSpeaker v' := by
  cases heffect with
  | unknown | ignoredRequest | ignoredResponse | ignoredEvent | forwarded => exact h
  | dispatched r stored hmethod hfree hstored hfollows =>
    intro a ha
    cases ha
    exact hfollows
  | enqueued | replied | mainAnswered | barged | answered => exact activeHasSpeaker_none rfl
  | pendingAnswered a r answer hactive hid hmain' hpending =>
    intro b hb hfollows
    unfold View.begin at hb ⊢
    split
    · rfl
    · next hprogress =>
      rw [if_neg hprogress] at hb
      exact h b hb hfollows
  | stopped a r answer queue hactive hid hstop hqueue =>
    apply activeHasSpeaker_pop
    · intro r hr
      exact hmain r (hqueue.subset hr)
    · intro _
      exact activeHasSpeaker_none rfl
  | completed s r hstored hid hcompletion hstop =>
    apply activeHasSpeaker_pop
    · exact hmain
    · intro _ a ha hfollows
      exact absurd hfollows (hkept hcompletion ⟨s, hstored, hid⟩ hstop a ha)

/-- The invariant of a synthesizer channel. -/
structure SpeakerInv (w : World SynthState) : Prop where
  live : synthesizer.Live w.machine
  active : ActiveHasSpeaker (synthesizer.view w.machine)
  fault : w.fault ≠ some .inProgress

theorem SpeakerInv.valid {w : World SynthState} (h : SpeakerInv w) : SpeakerValid w := by
  refine ⟨?_, h.fault⟩
  have hconsistent : w.machine.state = .idle ↔ w.machine.inProgress = none := h.live.consistent
  rw [Option.isSome_iff_ne_none, ne_eq, ← hconsistent]
  cases w.machine.state <;> simp

theorem SpeakerInv.step {w w' : World SynthState} {input : Received} (h : SpeakerInv w)
    (hkept : SpeakerKept (synthesizer.view w.machine) (signalOf input.message))
    (hstep : synthesizer.step w input = some w') :
    SpeakerInv w' ∧ HandlerFindsSpeaker w input := by
  have hfinds : HandlerFindsSpeaker w input := by
    rintro ⟨r, answer, hsignal, ⟨a, hactive, hid⟩, hfollows⟩
    rw [hsignal] at hkept
    have hsome := h.active a hactive (hkept hfollows a hactive hid)
    simpa [Resource.view] using hsome
  refine ⟨?_, hfinds⟩
  rcases Resource.step_cases synthesizer_refines h.live hstep with
    ⟨emissions, hfault, hlive, heffect, -, -⟩ | ⟨pointer, rfl, hadmits⟩
  · refine ⟨hlive, activeHasSpeaker_effect h.active h.live.queue_main hkept heffect, ?_⟩
    rw [hfault]
    simp
  · refine ⟨h.live, h.active, ?_⟩
    rcases hadmits with ⟨-, hfollows, hnone⟩ | ⟨hpointer, -⟩
    · have hsome := hfinds hfollows
      rw [hnone] at hsome
      cases hsome
    · intro heq
      exact hpointer (Option.some.inj heq)

/-- The speaker is set exactly when the synthesizer is speaking or paused, and
the response handlers that follow it find it set, in every run in which it is
kept for them. -/
theorem speaker_valid (version : MrcpVersion) (inputs : List Received)
    (h : Runs.Along synthesizer.step
      (fun w input => SpeakerKept (synthesizer.view w.machine) (signalOf input.message))
      (synthesizer.start version) inputs) :
    Runs.Always synthesizer.step SpeakerValid (synthesizer.start version) inputs ∧
      Runs.Along synthesizer.step HandlerFindsSpeaker (synthesizer.start version) inputs := by
  have hstart : SpeakerInv (synthesizer.start version) :=
    ⟨synthesizer_refines.create version, activeHasSpeaker_none rfl, by simp [Resource.start]⟩
  constructor
  · have hinv := Runs.always_of_along
      (fun w input w' hI hP hstep => (SpeakerInv.step hI hP hstep).1) inputs _ hstart h
    exact hinv.mono (fun w hw => hw.valid)
  · exact Runs.along_of_invariant (fun w input w' hI hP hstep => SpeakerInv.step hI hP hstep)
      inputs _ hstart h

/-- A SPEAK is paused and resumed. -/
def pausedSpeech : List Received :=
  [received (synthRequest 2 1), received (inProgress (synthRequest 2 1)),
   received (synthRequest 4 2), received (mrcpResponseCreate (synthRequest 4 2)),
   received (synthRequest 5 3), received (mrcpResponseCreate (synthRequest 5 3)),
   received (mrcpEventCreate (synthRequest 2 1) 1)]

theorem speaker_valid_pausedSpeech :
    Runs.Always synthesizer.step SpeakerValid (synthesizer.start .v2) pausedSpeech ∧
      Runs.Along synthesizer.step HandlerFindsSpeaker (synthesizer.start .v2) pausedSpeech :=
  speaker_valid .v2 pausedSpeech (by decide +kernel)

/-- The SPEAK completes while PAUSE is at the engine. -/
def overtakenPause : List Received :=
  [received (synthRequest 2 1), received (inProgress (synthRequest 2 1)),
   received (synthRequest 4 2), received (mrcpEventCreate (synthRequest 2 1) 1),
   received (mrcpResponseCreate (synthRequest 4 2))]

theorem pause_follows_null_speaker :
    ¬ Runs.Along synthesizer.step HandlerFindsSpeaker (synthesizer.start .v2) overtakenPause ∧
      ∃ w, Runs.after synthesizer.step (synthesizer.start .v2) overtakenPause = some w ∧
        w.fault = some .inProgress := by
  refine ⟨by decide +kernel, _, rfl, ?_⟩
  decide +kernel

end UniMrcp.Engine
