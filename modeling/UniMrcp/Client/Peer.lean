import UniMrcp.Client.Termination

/-!
# What the peer does to a client session

Whoever tells the session that the peer is gone, the signaling agent or a
channel, tells the application: nothing remembers that it has been told.
-/

namespace UniMrcp.Client

open UniMrcp.Lib UniMrcp.Lib.Runs UniMrcp.Apt UniMrcp.Mrcp

/-! ## Terminate events -/

/-- The session is told that the peer is gone. -/
def Input.isLoss : Input → Bool
  | .terminateEvent | .disconnect _ => true
  | _ => false

/-- How often the application has been told. -/
def Session.terminateEvents (s : Session) : Nat := s.log.count .terminateEvent

theorem step_loss (profile : Profile) (s : Session) {input : Agents × Input}
    (h : input.2.isLoss = true) :
    step profile s input = some (mrcpClientSessionTerminateEventProcess s) := by
  obtain ⟨agents, input⟩ := input
  cases input <;> first | rfl | cases h

/-- Every loss is told while the session has no request and is not
terminating. -/
theorem losses_told (profile : Profile) (s : Session) (inputs : List (Agents × Input))
    (hinputs : ∀ input ∈ inputs, input.2.isLoss = true) :
    ∃ s', after (step profile) s inputs = some s' ∧ s'.terminateEvents = s.terminateEvents +
      if s.state = .terminating ∨ s.activeRequest.isSome = true then 0 else inputs.length := by
  induction inputs generalizing s with
  | nil => exact ⟨s, rfl, by simp⟩
  | cons input inputs ih =>
    rw [List.forall_mem_cons] at hinputs
    obtain ⟨s', hs', hcount⟩ := ih (mrcpClientSessionTerminateEventProcess s) hinputs.2
    refine ⟨s', by rw [after, step_loss profile s hinputs.1]; exact hs', hcount.trans ?_⟩
    unfold mrcpClientSessionTerminateEventProcess
    by_cases hstate : s.state = .terminating
    · simp [hstate]
    · cases hactive : s.activeRequest with
      | some request => simp [hstate, Session.terminateEvents]
      | none =>
        simp [hstate, Session.note, Session.terminateEvents]
        omega

/-- The application is told at most once, whoever tells the session that the
peer is gone, exactly if the session is terminating, or has a request, whose
response tells it, or if it is told only once. -/
theorem one_terminate_event_iff (profile : Profile) (s : Session)
    (inputs : List (Agents × Input)) (hinputs : ∀ input ∈ inputs, input.2.isLoss = true) :
    (∃ s' ∈ after (step profile) s inputs, s'.terminateEvents ≤ s.terminateEvents + 1) ↔
      s.state = .terminating ∨ s.activeRequest.isSome = true ∨ inputs.length ≤ 1 := by
  obtain ⟨s', hs', hcount⟩ := losses_told profile s inputs hinputs
  rw [hs', ← or_assoc]
  simp only [Option.mem_def, Option.some.injEq, exists_eq_left', hcount]
  split_ifs with hquiet
  · simp [hquiet]
  · simp [hquiet]

/-- The session whose recognizer is in the offer. -/
def offeredRecognizer : Session :=
  (after (step (clientProfile .v2)) mrcpClientSessionCreate (recognizerSetup.take 4)).getD
    mrcpClientSessionCreate

/-- The connection of the channel is lost, and the signaling agent reports it
too. -/
def lostTwice : List (Agents × Input) :=
  [(willingAgents, .disconnect 0), (willingAgents, .terminateEvent)]

theorem one_terminate_event_offered :
    (∀ input ∈ lostTwice, input.2.isLoss = true) ∧
      ((∃ s' ∈ after (step (clientProfile .v2)) offeredRecognizer lostTwice,
          s'.terminateEvents ≤ offeredRecognizer.terminateEvents + 1) ↔
        offeredRecognizer.state = .terminating ∨
          offeredRecognizer.activeRequest.isSome = true ∨ lostTwice.length ≤ 1) :=
  ⟨by decide, one_terminate_event_iff _ _ _ (by decide)⟩

/-- The application of an idle session gets two events. -/
theorem terminate_event_twice :
    ∃ s ∈ after (step (clientProfile .v2)) mrcpClientSessionCreate recognizerSetup,
      s.activeRequest = none ∧ s.terminateEvents = 0 ∧
      ∃ s' ∈ after (step (clientProfile .v2)) s lostTwice,
        s'.disconnected = true ∧ s'.terminateEvents = 2 := by
  decide +kernel

end UniMrcp.Client
