import Mathlib.Algebra.BigOperators.Group.List.Basic
import Mathlib.Algebra.Ring.Int.Defs
import Mathlib.Algebra.Ring.Nat
import Mathlib.Data.List.GetD
import UniMrcp.Mpf.Frame

/-!
# Mixer

A model of `mpf/src/mpf_mixer.c`: one processing tick reads a frame from each
source, adds its samples to the mixed frame and writes that to the sink.  The
markers of the frames play no part.

The samples are added in 16-bit storage, so a mixed sample is the sum modulo
2^16 (`sample_foldl_mix`), and not the sum clamped to 16 bits as soon as it
overflows (`mixes_iff`).
-/

namespace UniMrcp.Mpf

/-- A frame of linear audio: `size` is the number of bytes, and the buffer has
a sample for each two of them. -/
structure LinearFrame where
  type : Nat
  size : Nat
  buffer : List Int16
  sized : buffer.length = size / 2
  deriving DecidableEq

/-- Frames of one size have the same number of samples. -/
theorem LinearFrame.length_eq {mix frame : LinearFrame} (h : mix.size = frame.size) :
    mix.buffer.length = frame.buffer.length := by
  rw [mix.sized, frame.sized, h]

/-- `mpf_frames_mix` -/
def mpfFramesMix (mixFrame frame : LinearFrame) : Bool × LinearFrame :=
  if h : mixFrame.size = frame.size then
    if hasFlag frame.type mediaFrameTypeAudio then
      (true, { mixFrame with
        type := mixFrame.type ||| mediaFrameTypeAudio
        buffer := mixFrame.buffer.zipWith (· + ·) frame.buffer
        sized := by
          rw [List.length_zipWith, ← LinearFrame.length_eq h, Nat.min_self, mixFrame.sized] })
    else (true, mixFrame)
  else (false, mixFrame)

/-- `read_frame` of a source: it gets the frame of the mixer and fills it. -/
abbrev Source := LinearFrame → LinearFrame

/-- The loop of `mpf_mixer_process` over the sources: the frame that is read
into, and the mixed frame. -/
def mixerLoop : List (Option Source) → LinearFrame → LinearFrame → LinearFrame × LinearFrame
  | [], frame, mixFrame => (frame, mixFrame)
  | none :: sources, frame, mixFrame => mixerLoop sources frame mixFrame
  | some readFrame :: sources, frame, mixFrame =>
    let frame := readFrame { frame with type := mediaFrameTypeNone }
    mixerLoop sources frame (mpfFramesMix mixFrame frame).2

/-- A silent frame of the size. -/
def silence (size : Nat) : LinearFrame :=
  ⟨mediaFrameTypeNone, size, List.replicate (size / 2) 0, List.length_replicate⟩

/-- `mpf_mixer_process`: the frame that is written to the sink. -/
def mpfMixerProcess (frameSize : Nat) (sources : List (Option Source)) (frame : LinearFrame) :
    LinearFrame :=
  (mixerLoop sources frame (silence frameSize)).2

/-! ## What is delivered -/

/-- The frames that the sources deliver, one after the other. -/
def deliveredFrames : List (Option Source) → LinearFrame → List LinearFrame
  | [], _ => []
  | none :: sources, frame => deliveredFrames sources frame
  | some readFrame :: sources, frame =>
    let frame := readFrame { frame with type := mediaFrameTypeNone }
    frame :: deliveredFrames sources frame

/-- The frame has audio for a mixer with frames of the size. -/
def LinearFrame.IsAudio (size : Nat) (frame : LinearFrame) : Prop :=
  size = frame.size ∧ hasFlag frame.type mediaFrameTypeAudio = true

instance (size : Nat) (frame : LinearFrame) : Decidable (frame.IsAudio size) :=
  inferInstanceAs (Decidable (_ ∧ _))

/-- A sample of the frame. -/
def LinearFrame.sample (frame : LinearFrame) (i : Nat) : Int := (frame.buffer.getD i 0).toInt

/-- The sum of the corresponding samples of the frames that have audio. -/
def sampleSum (size : Nat) (frames : List LinearFrame) (i : Nat) : Int :=
  ((frames.filter (fun frame => frame.IsAudio size)).map (fun frame => frame.sample i)).sum

/-- A value clamped to the range of 16 bits. -/
def clamp16 (value : Int) : Int :=
  if value < -32768 then -32768 else if 32767 < value then 32767 else value

/-- Each sample that is written is the clamped sum of the samples delivered, and
the frame is marked as audio if there was audio. -/
def Mixes (frameSize : Nat) (sources : List (Option Source)) (frame : LinearFrame) : Prop :=
  (∀ i < frameSize / 2, (mpfMixerProcess frameSize sources frame).sample i =
    clamp16 (sampleSum frameSize (deliveredFrames sources frame) i)) ∧
  (hasFlag (mpfMixerProcess frameSize sources frame).type mediaFrameTypeAudio = true ↔
    ∃ delivered ∈ deliveredFrames sources frame, delivered.IsAudio frameSize)

instance (frameSize : Nat) (sources : List (Option Source)) (frame : LinearFrame) :
    Decidable (Mixes frameSize sources frame) := by
  unfold Mixes
  infer_instance

/-! ## Mixing -/

/-- The loop mixes the delivered frames. -/
theorem mixerLoop_eq (sources : List (Option Source)) (frame mixFrame : LinearFrame) :
    (mixerLoop sources frame mixFrame).2 =
      (deliveredFrames sources frame).foldl (fun mix frame => (mpfFramesMix mix frame).2)
        mixFrame := by
  induction sources generalizing frame mixFrame with
  | nil => rfl
  | cons source sources ih =>
    cases source with
    | none => exact ih frame mixFrame
    | some readFrame => exact ih _ _

/-- What mixing one frame does. -/
theorem mix_audio {mix frame : LinearFrame} (h : frame.IsAudio mix.size) :
    (mpfFramesMix mix frame).2.size = mix.size ∧
      (mpfFramesMix mix frame).2.type = mix.type ||| mediaFrameTypeAudio ∧
      ∀ i < mix.size / 2, (mpfFramesMix mix frame).2.sample i =
        (mix.sample i + frame.sample i).bmod (2 ^ 16) := by
  obtain ⟨hsize, haudio⟩ := h
  have hmix : mpfFramesMix mix frame = (true, { mix with
      type := mix.type ||| mediaFrameTypeAudio
      buffer := mix.buffer.zipWith (· + ·) frame.buffer
      sized := by
        rw [List.length_zipWith, ← LinearFrame.length_eq hsize, Nat.min_self, mix.sized] }) := by
    simp [mpfFramesMix, hsize, haudio]
  rw [hmix]
  refine ⟨rfl, rfl, fun i hi => ?_⟩
  have himix : i < mix.buffer.length := by rw [mix.sized]; exact hi
  have hiframe : i < frame.buffer.length := by rw [← LinearFrame.length_eq hsize]; exact himix
  have hizip : i < (mix.buffer.zipWith (· + ·) frame.buffer).length := by
    rw [List.length_zipWith]
    omega
  simp only [LinearFrame.sample]
  rw [List.getD_eq_getElem _ _ hizip, List.getD_eq_getElem _ _ himix,
    List.getD_eq_getElem _ _ hiframe, List.getElem_zipWith, Int16.toInt_add]

theorem mix_other {mix frame : LinearFrame} (h : ¬frame.IsAudio mix.size) :
    (mpfFramesMix mix frame).2 = mix := by
  unfold mpfFramesMix
  split
  · rename_i hsize
    rw [if_neg (fun haudio => h ⟨hsize, haudio⟩)]
  · rfl

theorem sampleSum_cons_audio {size : Nat} {frame : LinearFrame} (h : frame.IsAudio size)
    (frames : List LinearFrame) (i : Nat) :
    sampleSum size (frame :: frames) i = frame.sample i + sampleSum size frames i := by
  simp [sampleSum, h]

theorem sampleSum_cons_other {size : Nat} {frame : LinearFrame} (h : ¬frame.IsAudio size)
    (frames : List LinearFrame) (i : Nat) :
    sampleSum size (frame :: frames) i = sampleSum size frames i := by
  simp [sampleSum, h]

theorem LinearFrame.bmod_sample (frame : LinearFrame) (i : Nat) :
    (frame.sample i).bmod (2 ^ 16) = frame.sample i := by
  have hlow := (frame.buffer.getD i 0).le_toInt
  have hhigh := (frame.buffer.getD i 0).toInt_lt
  apply Int.bmod_eq_of_le <;> unfold LinearFrame.sample <;> omega

/-- A mixed sample is the sum modulo 2^16. -/
theorem sample_foldl_mix (frames : List LinearFrame) (mix : LinearFrame) {i : Nat}
    (hi : i < mix.size / 2) :
    (frames.foldl (fun mix frame => (mpfFramesMix mix frame).2) mix).sample i =
      (mix.sample i + sampleSum mix.size frames i).bmod (2 ^ 16) := by
  induction frames generalizing mix with
  | nil =>
    show mix.sample i = (mix.sample i + 0).bmod (2 ^ 16)
    rw [Int.add_zero, mix.bmod_sample]
  | cons frame frames ih =>
    rw [List.foldl_cons]
    by_cases haudio : frame.IsAudio mix.size
    · obtain ⟨hsize, -, hsample⟩ := mix_audio haudio
      rw [ih _ (by rw [hsize]; exact hi), hsize, hsample i hi, sampleSum_cons_audio haudio,
        Int.bmod_add_bmod, Int.add_assoc]
    · rw [mix_other haudio, sampleSum_cons_other haudio]
      exact ih mix hi

/-- The mixed frame is audio once it was, or some frame is. -/
theorem audio_foldl_mix (frames : List LinearFrame) (mix : LinearFrame) :
    hasFlag (frames.foldl (fun mix frame => (mpfFramesMix mix frame).2) mix).type
        mediaFrameTypeAudio = true ↔
      hasFlag mix.type mediaFrameTypeAudio = true ∨
        ∃ frame ∈ frames, frame.IsAudio mix.size := by
  induction frames generalizing mix with
  | nil => simp
  | cons frame frames ih =>
    rw [List.foldl_cons, ih]
    by_cases haudio : frame.IsAudio mix.size
    · obtain ⟨-, htype, -⟩ := mix_audio haudio
      rw [htype]
      exact iff_of_true (.inl (by simp [hasFlag, mediaFrameTypeAudio]))
        (.inr ⟨frame, List.mem_cons_self, haudio⟩)
    · rw [mix_other haudio]
      simp [haudio]

/-- The sum is clamped by the addition in 16 bits: it does not leave the range,
or it comes back to the bound that it has passed. -/
def SumFits (sum : Int) : Prop :=
  (-32768 ≤ sum ∧ sum ≤ 32767) ∨ (32767 < sum ∧ sum % 65536 = 32767) ∨
    (sum < -32768 ∧ sum % 65536 = 32768)

theorem bmod_eq_clamp16_iff (sum : Int) : sum.bmod (2 ^ 16) = clamp16 sum ↔ SumFits sum := by
  unfold clamp16 SumFits
  rw [Int.bmod_def]
  split <;> split <;> omega

/-- The mixer writes the clamped sums exactly if every sum fits. -/
theorem mixes_iff (frameSize : Nat) (sources : List (Option Source)) (frame : LinearFrame) :
    Mixes frameSize sources frame ↔
      ∀ i < frameSize / 2, SumFits (sampleSum frameSize (deliveredFrames sources frame) i) := by
  have hsilent : ∀ i, (silence frameSize).sample i = 0 := by
    intro i
    simp [LinearFrame.sample, silence]
  have hsample : ∀ i < frameSize / 2, (mpfMixerProcess frameSize sources frame).sample i =
      (sampleSum frameSize (deliveredFrames sources frame) i).bmod (2 ^ 16) := by
    intro i hi
    rw [mpfMixerProcess, mixerLoop_eq, sample_foldl_mix _ _ hi, hsilent, Int.zero_add]
    rfl
  have haudio : hasFlag (mpfMixerProcess frameSize sources frame).type mediaFrameTypeAudio =
      true ↔ ∃ delivered ∈ deliveredFrames sources frame, delivered.IsAudio frameSize := by
    rw [mpfMixerProcess, mixerLoop_eq, audio_foldl_mix]
    have hnone : ¬hasFlag mediaFrameTypeNone mediaFrameTypeAudio = true := by decide
    exact or_iff_right hnone
  constructor
  · rintro ⟨hmixed, -⟩ i hi
    rw [← bmod_eq_clamp16_iff, ← hsample i hi]
    exact hmixed i hi
  · intro hfits
    refine ⟨fun i hi => ?_, haudio⟩
    rw [hsample i hi, bmod_eq_clamp16_iff]
    exact hfits i hi

/-- A source that delivers one loud sample. -/
def loudSource : Source := fun _ => ⟨mediaFrameTypeAudio, 2, [20000], rfl⟩

/-- Two loud samples are mixed to a negative one. -/
theorem loud_sources_overflow :
    (mpfMixerProcess 2 [some loudSource, some loudSource] (silence 2)).sample 0 = -25536 ∧
      ¬Mixes 2 [some loudSource, some loudSource] (silence 2) := by
  decide

end UniMrcp.Mpf
