import UniMrcp.Engine.StateMachine

/-!
# What the shared parts of the handlers do

The handlers write header fields into the messages they pass on and leave the
start line alone.  The lemmas here say so for each function the two machines
share, and say when the function follows a NULL pointer.
-/

namespace UniMrcp.Engine

open UniMrcp.Lib UniMrcp.Apt UniMrcp.Mrcp

/-! ## Messages -/

@[simp] theorem setGeneric_startLine (message : MrcpMessage) (generic : GenericHeader) :
    (message.setGeneric generic).startLine = message.startLine := rfl

@[simp] theorem setGeneric_data_isSome (message : MrcpMessage) (generic : GenericHeader) :
    (message.setGeneric generic).header.data.isSome = message.header.data.isSome := by
  simp [MrcpMessage.setGeneric]

@[simp] theorem headerFieldAdd_data (header : MessageHeader) (name value : Bytes) (id : Nat) :
    (headerFieldAdd header name value id).2.data = header.data := rfl

section

variable (memory : Nat → UInt8) (message : MrcpMessage) (id : Nat)

theorem mrcpGenericHeaderPropertyAdd_frame :
    (mrcpGenericHeaderPropertyAdd memory message id).2.startLine = message.startLine ∧
      (mrcpGenericHeaderPropertyAdd memory message id).2.header.data = message.header.data := by
  unfold mrcpGenericHeaderPropertyAdd
  split
  · exact ⟨rfl, rfl⟩
  · exact ⟨rfl, rfl⟩

@[simp] theorem mrcpGenericHeaderPropertyAdd_startLine :
    (mrcpGenericHeaderPropertyAdd memory message id).2.startLine = message.startLine :=
  (mrcpGenericHeaderPropertyAdd_frame memory message id).1

@[simp] theorem mrcpGenericHeaderPropertyAdd_data :
    (mrcpGenericHeaderPropertyAdd memory message id).2.header.data = message.header.data :=
  (mrcpGenericHeaderPropertyAdd_frame memory message id).2

end

@[simp] theorem completionCausePropertyAdd_startLine (message : MrcpMessage) :
    (completionCausePropertyAdd message).2.startLine = message.startLine := by
  unfold completionCausePropertyAdd
  split
  · rfl
  · split <;> rfl

theorem deactivateRequest_startLine (source : MrcpMessage) (stop : Nat) :
    (deactivateRequest source stop).startLine.messageType = .request ∧
      (deactivateRequest source stop).startLine.methodId = stop := by
  unfold deactivateRequest mrcpRequestCreate mrcpMessageResourceSetById
  cases source.resource with
  | none => exact ⟨rfl, rfl⟩
  | some resource =>
    dsimp only
    split <;> exact ⟨rfl, rfl⟩

/-- What a new event takes from the request. -/
theorem mrcpEventCreate_spec (request : MrcpMessage) (eventId : Nat) :
    (mrcpEventCreate request eventId).startLine.messageType = .event ∧
      (mrcpEventCreate request eventId).startLine.requestId = request.startLine.requestId ∧
      (mrcpEventCreate request eventId).startLine.methodId = eventId := by
  unfold mrcpEventCreate mrcpMessageResourceSetById
  cases request.resource with
  | none => exact ⟨rfl, rfl, rfl⟩
  | some resource =>
    dsimp only
    split <;> exact ⟨rfl, rfl, rfl⟩

/-! ## Following the header of a response -/

theorem mrcpGenericHeaderPrepare_error {message : MrcpMessage} {pointer : NullPointer}
    (h : mrcpGenericHeaderPrepare message = .error pointer) :
    pointer = .genericHeader ∧ message.header.data.isSome = false := by
  unfold mrcpGenericHeaderPrepare at h
  split at h
  · next hdata =>
    cases h
    exact ⟨rfl, by rw [hdata]; rfl⟩
  · cases h

/-- The two outcomes of `completionCauseDefault`. -/
theorem completionCauseDefault_cases (resource : MrcpResource) (message : MrcpMessage) :
    (∃ message', completionCauseDefault resource message = .ok message' ∧
        message'.startLine = message.startLine) ∨
      completionCauseDefault resource message = .error .resourceHeader ∧
        message.header.data.isSome = false := by
  unfold completionCauseDefault
  split
  · exact .inl ⟨message, rfl, rfl⟩
  · split
    · next hdata => exact .inr ⟨rfl, by rw [hdata]; rfl⟩
    · exact .inl ⟨_, rfl, by simp⟩

/-- The outcomes of `reportInProgress`. -/
theorem reportInProgress_cases {State : Type} (memory : Nat → UInt8)
    (machine : StateMachine State) (message : MrcpMessage) :
    (∃ message', reportInProgress memory machine message = .ok message' ∧
        message'.startLine = message.startLine ∧
        message'.header.data.isSome = message.header.data.isSome ∧
        machine.inProgress.isSome = true) ∨
      (reportInProgress memory machine message = .error .inProgress ∧
        machine.inProgress = none) ∨
      reportInProgress memory machine message = .error .genericHeader ∧
        message.header.data.isSome = false := by
  unfold reportInProgress
  cases machine.inProgress with
  | none => exact .inr (.inl ⟨rfl, rfl⟩)
  | some request =>
    cases hprepare : mrcpGenericHeaderPrepare message with
    | error pointer =>
      obtain ⟨rfl, hdata⟩ := mrcpGenericHeaderPrepare_error hprepare
      exact .inr (.inr ⟨rfl, hdata⟩)
    | ok generic => exact .inl ⟨_, rfl, by simp, by simp, rfl⟩

/-! ## Removing pending requests -/

/-- The pending requests that a STOP or a BARGE-IN-OCCURRED leaves in the
queue. -/
def remaining (request : MrcpMessage) (queue : List MrcpMessage) : List MrcpMessage :=
  queue.filter (fun pending => !selects (selectiveList request) pending.requestId)

theorem remaining_sublist (request : MrcpMessage) (queue : List MrcpMessage) :
    (remaining request queue).Sublist queue := List.filter_sublist

theorem pendingRequestsLoop_queue (list : Option RequestIdList) (queue : List MrcpMessage)
    (generic : GenericHeader) :
    (pendingRequestsLoop list queue generic).1 =
      queue.filter (fun pending => !selects list pending.requestId) := by
  induction queue generalizing generic with
  | nil => rfl
  | cons pending queue ih =>
    by_cases h : selects list pending.requestId = true
    · simp [pendingRequestsLoop, h, ih]
    · simp [pendingRequestsLoop, h, ih]

/-- The two outcomes of `pendingRequestsRemove`. -/
theorem pendingRequestsRemove_cases (memory : Nat → UInt8) (queue : List MrcpMessage)
    (request response : MrcpMessage) :
    (∃ response', pendingRequestsRemove memory queue request response =
        .ok (remaining request queue, response') ∧
        response'.startLine = response.startLine) ∨
      pendingRequestsRemove memory queue request response = .error .genericHeader ∧
        response.header.data.isSome = false := by
  unfold pendingRequestsRemove
  cases hprepare : mrcpGenericHeaderPrepare response with
  | error pointer =>
    obtain ⟨rfl, hdata⟩ := mrcpGenericHeaderPrepare_error hprepare
    exact .inr ⟨rfl, hdata⟩
  | ok generic =>
    refine .inl ?_
    rw [remaining, ← pendingRequestsLoop_queue (selectiveList request) queue generic]
    simp only [bind, Except.bind]
    split
    · exact ⟨_, rfl, rfl⟩
    · exact ⟨_, rfl, by simp⟩

end UniMrcp.Engine
