import UniMrcp.Lib.Runs
import UniMrcp.Mpf.Mixer

/-!
# Activity detector

A model of `mpf/src/mpf_activity_detector.c`: four states and the duration spent
in the current one.  `detector_events` says the same in terms of the frames since
the last event: what counts is the run of frames on the other side of the
threshold that the last frame ends.
-/

namespace UniMrcp.Mpf

open UniMrcp.Lib

/-- `mpf_detector_state_e` -/
inductive DetectorState where
  | inactivity
  | activityTransition
  | activity
  | inactivityTransition

/-- `mpf_detector_event_e` -/
inductive DetectorEvent where
  | none
  | activity
  | inactivity
  | noinput
  deriving DecidableEq

/-- `mpf_activity_detector_t`; the times are in milliseconds. -/
structure ActivityDetector where
  levelThreshold : Nat
  speechTimeout : Nat
  silenceTimeout : Nat
  noinputTimeout : Nat
  state : DetectorState
  duration : Nat

/-- A frame that is not empty. -/
abbrev VoiceFrame := { frame : LinearFrame // frame.buffer ≠ [] }

/-- The loop of `mpf_activity_detector_level_calculate`. -/
def levelLoop (samples : List Int16) (sum : Int) : Int :=
  samples.foldl (fun sum sample =>
    if sample.toInt < 0 then sum - sample.toInt else sum + sample.toInt) sum

/-- `mpf_activity_detector_level_calculate` -/
def mpfActivityDetectorLevelCalculate (frame : VoiceFrame) : Nat :=
  (levelLoop frame.1.buffer 0).toNat / frame.1.buffer.length

/-- The level of a frame, which is 0 without audio. -/
def frameLevel (frame : VoiceFrame) : Nat :=
  if hasFlag frame.1.type mediaFrameTypeAudio then mpfActivityDetectorLevelCalculate frame else 0

section

variable (d : ActivityDetector)

/-- `mpf_activity_detector_state_change` -/
def mpfActivityDetectorStateChange (state : DetectorState) : ActivityDetector :=
  { d with duration := 0, state := state }

/-- `mpf_activity_detector_reset` -/
def mpfActivityDetectorReset : ActivityDetector := { d with duration := 0, state := .inactivity }

/-- `mpf_activity_detector_process` -/
def mpfActivityDetectorProcess (frame : VoiceFrame) : DetectorEvent × ActivityDetector :=
  let longer := { d with duration := d.duration + codecFrameTimeBase.toNat }
  match d.state with
  | .inactivity =>
    if d.levelThreshold ≤ frameLevel frame then
      (.none, mpfActivityDetectorStateChange d .activityTransition)
    else (if d.noinputTimeout ≤ longer.duration then .noinput else .none, longer)
  | .activityTransition =>
    if d.levelThreshold ≤ frameLevel frame then
      if d.speechTimeout ≤ longer.duration then
        (.activity, mpfActivityDetectorStateChange longer .activity)
      else (.none, longer)
    else (.none, mpfActivityDetectorStateChange d .inactivity)
  | .activity =>
    if d.levelThreshold ≤ frameLevel frame then (.none, longer)
    else (.none, mpfActivityDetectorStateChange d .inactivityTransition)
  | .inactivityTransition =>
    if d.levelThreshold ≤ frameLevel frame then (.none, mpfActivityDetectorStateChange d .activity)
    else if d.silenceTimeout ≤ longer.duration then
      (.inactivity, mpfActivityDetectorStateChange longer .inactivity)
    else (.none, longer)

end

/-- The frame is heard: the mean of its absolute samples reaches the threshold.  A
frame without audio is silent. -/
def ActivityDetector.hears (d : ActivityDetector) (frame : VoiceFrame) : Bool :=
  d.levelThreshold * frame.1.buffer.length ≤
    if hasFlag frame.1.type mediaFrameTypeAudio then
      (frame.1.buffer.map (fun sample => sample.toInt.natAbs)).sum
    else 0

theorem levelLoop_eq (samples : List Int16) (sum : Int) :
    levelLoop samples sum = sum + (samples.map (fun sample => sample.toInt.natAbs)).sum := by
  induction samples generalizing sum with
  | nil => simp [levelLoop]
  | cons sample samples ih =>
    rw [levelLoop, List.foldl_cons, ← levelLoop, ih, List.map_cons, List.sum_cons]
    split <;> omega

theorem levelThreshold_le_iff (d : ActivityDetector) (frame : VoiceFrame) :
    d.levelThreshold ≤ frameLevel frame ↔ d.hears frame = true := by
  have hlength := List.length_pos_iff.mpr frame.2
  unfold frameLevel ActivityDetector.hears mpfActivityDetectorLevelCalculate
  split
  · rw [levelLoop_eq, Int.zero_add, Int.toNat_natCast, Nat.le_div_iff_mul_le hlength,
      decide_eq_true_iff]
  · rw [decide_eq_true_iff, Nat.le_zero, Nat.le_zero, Nat.mul_eq_zero, or_iff_left hlength.ne']

/-! ## Runs of frames -/

/-- A detector, whether ACTIVITY was the last event but NOINPUT, and which of the
frames behind that event were heard, the last of them first. -/
structure Detection where
  detector : ActivityDetector
  active : Bool
  since : List Bool

/-- What is known behind the event of a frame. -/
def Detection.next (w : Detection) (heard : Bool) : DetectorEvent × ActivityDetector → Detection
  | (.activity, detector) => ⟨detector, true, []⟩
  | (.inactivity, detector) => ⟨detector, false, []⟩
  | (_, detector) => ⟨detector, w.active, heard :: w.since⟩

def detectionStep (w : Detection) (frame : VoiceFrame) : Option Detection :=
  some (w.next (w.detector.hears frame) (mpfActivityDetectorProcess w.detector frame))

/-- How many of the last frames were heard, or not. -/
def lastRun (heard : Bool) (since : List Bool) : Nat := (since.takeWhile (· == heard)).length

/-- The number of frames that a timeout takes, with the one that starts it. -/
def neededFrames (timeout : Nat) : Nat := 1 + max 1 ((timeout + 9) / codecFrameTimeBase.toNat)

/-- The event is the one that the frames call for. -/
structure Reports (w : Detection) (heard : Bool) (event : DetectorEvent) : Prop where
  activity : event = .activity ↔ w.active = false ∧
    lastRun true (heard :: w.since) = neededFrames w.detector.speechTimeout
  inactivity : event = .inactivity ↔ w.active = true ∧
    lastRun false (heard :: w.since) = neededFrames w.detector.silenceTimeout
  noinput : event = .noinput → w.active = false

/-- A run that has not come to its end. -/
def Waits (run duration timeout : Nat) : Prop :=
  duration + codecFrameTimeBase.toNat = codecFrameTimeBase.toNat * run ∧ run < neededFrames timeout

/-- What the state and the duration say of the frames. -/
def Detection.Valid (w : Detection) : Prop :=
  match w.detector.state with
  | .inactivity => w.active = false ∧ lastRun true w.since = 0
  | .activityTransition => w.active = false ∧
      Waits (lastRun true w.since) w.detector.duration w.detector.speechTimeout
  | .activity => w.active = true ∧ lastRun false w.since = 0
  | .inactivityTransition => w.active = true ∧
      Waits (lastRun false w.since) w.detector.duration w.detector.silenceTimeout

theorem lastRun_nil (heard : Bool) : lastRun heard [] = 0 := rfl

theorem lastRun_cons (heard b : Bool) (since : List Bool) :
    lastRun heard (b :: since) = if b = heard then lastRun heard since + 1 else 0 := by
  unfold lastRun
  by_cases hb : b = heard <;> simp [hb]

theorem one_lt_neededFrames (timeout : Nat) : 1 < neededFrames timeout := by
  unfold neededFrames
  omega

theorem Waits.start (timeout : Nat) : Waits 1 0 timeout :=
  ⟨rfl, one_lt_neededFrames timeout⟩

/-- The timeout is not over. -/
theorem Waits.longer {run duration timeout : Nat} (h : Waits run duration timeout)
    (hshort : ¬ timeout ≤ duration + codecFrameTimeBase.toNat) :
    Waits (run + 1) (duration + codecFrameTimeBase.toNat) timeout := by
  unfold Waits neededFrames at *
  simp only [show codecFrameTimeBase.toNat = 10 from rfl] at *
  omega

/-- The timeout is over. -/
theorem Waits.over {run duration timeout : Nat} (h : Waits run duration timeout)
    (hlong : timeout ≤ duration + codecFrameTimeBase.toNat) : run + 1 = neededFrames timeout := by
  unfold Waits neededFrames at *
  simp only [show codecFrameTimeBase.toNat = 10 from rfl] at *
  omega

section

variable {w : Detection} {heard : Bool}

/-- Without ACTIVITY so far, no event calls for a run of heard frames that is not long
enough. -/
theorem Reports.inactive {event : DetectorEvent} (hactive : w.active = false)
    (hrun : lastRun true (heard :: w.since) < neededFrames w.detector.speechTimeout)
    (hevent : event = .none ∨ event = .noinput) : Reports w heard event := by
  rcases hevent with rfl | rfl <;> constructor <;> simp [hactive, hrun.ne]

/-- The same with ACTIVITY as the last event. -/
theorem Reports.active (hactive : w.active = true)
    (hrun : lastRun false (heard :: w.since) < neededFrames w.detector.silenceTimeout) :
    Reports w heard .none := by
  constructor <;> simp [hactive, hrun.ne]

end

/-- One frame. -/
theorem Detection.Valid.process {w : Detection} (h : w.Valid) (frame : VoiceFrame) :
    (w.next (w.detector.hears frame) (mpfActivityDetectorProcess w.detector frame)).Valid ∧
      Reports w (w.detector.hears frame) (mpfActivityDetectorProcess w.detector frame).1 := by
  unfold Valid at h
  unfold mpfActivityDetectorProcess
  simp only [levelThreshold_le_iff]
  cases hstate : w.detector.state <;> rw [hstate] at h <;> obtain ⟨hactive, hrun⟩ := h
  case inactivity =>
    cases w.detector.hears frame with
    | true =>
      have hone : lastRun true (true :: w.since) = 1 := by rw [lastRun_cons, if_pos rfl, hrun]
      refine ⟨⟨hactive, ?_⟩, .inactive hactive ?_ (.inl rfl)⟩
      · exact hone ▸ Waits.start _
      · exact hone ▸ one_lt_neededFrames _
    | false =>
      have hzero : lastRun true (false :: w.since) = 0 := lastRun_cons ..
      simp only [Bool.false_eq_true, if_false]
      refine ⟨?_, .inactive hactive (hzero ▸ Nat.zero_lt_of_lt (one_lt_neededFrames _)) ?_⟩
      · split <;> simp [next, Valid, hactive, hzero]
      · split <;> simp
  case activityTransition =>
    cases w.detector.hears frame with
    | true =>
      have hmore : lastRun true (true :: w.since) = lastRun true w.since + 1 := lastRun_cons ..
      simp only [if_true]
      split
      case isTrue hlong =>
        refine ⟨⟨rfl, rfl⟩, ?_, ?_, ?_⟩ <;> simp [hactive, hmore, hrun.over hlong]
      case isFalse hshort =>
        have hnext := hrun.longer hshort
        refine ⟨?_, .inactive hactive (hmore ▸ hnext.2) (.inl rfl)⟩
        simp only [next, Valid, hmore]
        exact ⟨hactive, hnext⟩
    | false =>
      have hzero : lastRun true (false :: w.since) = 0 := lastRun_cons ..
      exact ⟨⟨hactive, hzero⟩,
        .inactive hactive (hzero ▸ Nat.zero_lt_of_lt (one_lt_neededFrames _)) (.inl rfl)⟩
  case activity =>
    cases w.detector.hears frame with
    | true =>
      have hzero : lastRun false (true :: w.since) = 0 := lastRun_cons ..
      refine ⟨?_, .active hactive (hzero ▸ Nat.zero_lt_of_lt (one_lt_neededFrames _))⟩
      simp [next, Valid, hactive, hzero]
    | false =>
      have hone : lastRun false (false :: w.since) = 1 := by rw [lastRun_cons, if_pos rfl, hrun]
      refine ⟨⟨hactive, ?_⟩, .active hactive ?_⟩
      · exact hone ▸ Waits.start _
      · exact hone ▸ one_lt_neededFrames _
  case inactivityTransition =>
    cases w.detector.hears frame with
    | true =>
      have hzero : lastRun false (true :: w.since) = 0 := lastRun_cons ..
      exact ⟨⟨hactive, hzero⟩,
        .active hactive (hzero ▸ Nat.zero_lt_of_lt (one_lt_neededFrames _))⟩
    | false =>
      have hmore : lastRun false (false :: w.since) = lastRun false w.since + 1 := lastRun_cons ..
      simp only [Bool.false_eq_true, if_false]
      split
      case isTrue hlong =>
        refine ⟨⟨rfl, rfl⟩, ?_, ?_, ?_⟩ <;> simp [hactive, hmore, hrun.over hlong]
      case isFalse hshort =>
        have hnext := hrun.longer hshort
        refine ⟨?_, .active hactive (hmore ▸ hnext.2)⟩
        simp only [next, Valid, hmore]
        exact ⟨hactive, hnext⟩

/-- The events that a detector reports for frames behind a reset.  ACTIVITY and
INACTIVITY alternate, each is reported with the frame that ends a run as long as its
timeout, and NOINPUT is reported in front of an ACTIVITY only. -/
theorem detector_events (d : ActivityDetector) (frames : List VoiceFrame) :
    Runs.Along detectionStep
      (fun w frame => Reports w (w.detector.hears frame)
        (mpfActivityDetectorProcess w.detector frame).1)
      ⟨mpfActivityDetectorReset d, false, []⟩ frames := by
  refine Runs.along_of_invariant (I := Detection.Valid) (fun w frame w' h _ hstep => ?_) frames _
    ⟨rfl, rfl⟩ (Runs.Along.true frames _)
  obtain rfl := Option.some.inj hstep
  exact h.process frame

end UniMrcp.Mpf
