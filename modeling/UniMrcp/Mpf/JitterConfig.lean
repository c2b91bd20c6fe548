import UniMrcp.Mpf.JitterWindow

/-!
# The configurations that work

The capacity of the buffer is the maximum delay rounded down to frames, and the
first packet is put at the initial delay rounded up.  So a new buffer plays its
first packet exactly if the rounded initial delay lies inside the capacity:
`config_works_iff`.  A maximum delay right above the initial one is not enough,
and neither is one of less than a frame.
-/

namespace UniMrcp.Mpf

open UniMrcp.Lib.Traces

variable {β : Type} {jb : JitterBuffer β} {buffer : List β}

/-- The playout delay in frames: the number of reads before the one that comes
the playout delay later. -/
def delayFrames (jb : JitterBuffer β) : Nat := jb.playoutDelayTs.toNat / jb.format.frameTs.toNat

/-- A packet of at least a frame, whose timestamps do not wrap around once the
delay is added. -/
def AudioPacket (jb : JitterBuffer β) (buffer : List β) : Prop :=
  jb.format.frameSize ≤ buffer.length ∧
    jb.playoutDelayTs.toNat + buffer.length / jb.format.frameSize * jb.format.frameTs.toNat < 2 ^ 32

/-- The packet is accepted, and the read that comes the playout delay later
returns its first frame. -/
def PlaysPacket (jb : JitterBuffer β) (buffer : List β) (ts : UInt32) (marker : Bool) : Prop :=
  ∃ final outputs frame,
    run jbStep jb (.write buffer ts marker :: (List.replicate (delayFrames jb) .read ++ [.read])) =
      some (final, .result .ok :: (outputs ++ [.frame frame])) ∧
    frame.audio = some (buffer.take jb.format.frameSize)

/-- The buffer has slots, its delay is within the maximum, and it plays the
first packet. -/
def ConfigWorks (config : Option JbConfig) (format : FrameFormat) : Prop :=
  let jb := mpfJitterBufferCreate UInt8 config format
  0 < jb.frames.length ∧ jb.playoutDelayTs ≤ jb.maxPlayoutDelayTs ∧
    ∀ buffer ts marker, AudioPacket jb buffer → PlaysPacket jb buffer ts marker

/-- The initial delay of the validated configuration, rounded up to frames, is
below the maximum delay rounded down. -/
def PlayoutFits (config : Option JbConfig) (format : FrameFormat) : Prop :=
  let valid := jbConfigValidate (config.getD mpfJbConfigInit)
  let delay := format.frameTs * (jbConfigAllign valid).initialPlayoutDelay / codecFrameTimeBase
  delay.toNat / format.frameTs.toNat < (valid.maxPlayoutDelay / codecFrameTimeBase).toNat ∧
    delay ≤ format.frameTs * valid.maxPlayoutDelay / codecFrameTimeBase

/-! ## The first write -/

/-- A buffer that waits for its first packet. -/
structure Unwritten (jb : JitterBuffer β) : Prop where
  writeSync : jb.writeSync = true
  writeTs : jb.writeTs = 0
  readTs : jb.readTs = 0
  capacity : jb.frames.length < 2 ^ 32

theorem unwritten_create (config : Option JbConfig) (format : FrameFormat) :
    Unwritten (mpfJitterBufferCreate β config format) := by
  refine ⟨rfl, rfl, rfl, ?_⟩
  show (List.replicate _ _).length < 2 ^ 32
  rw [List.length_replicate]
  exact UInt32.toNat_lt _

/-- The position of the first packet. -/
def firstPosition (jb : JitterBuffer β) : UInt32 :=
  jb.playoutDelayTs - jb.playoutDelayTs % jb.format.frameTs

theorem toNat_firstPosition (jb : JitterBuffer β) :
    (firstPosition jb).toNat = delayFrames jb * jb.format.frameTs.toNat := by
  have hle : jb.playoutDelayTs % jb.format.frameTs ≤ jb.playoutDelayTs := by
    exact Nat.mod_le _ _
  have hdiv := Nat.div_add_mod jb.playoutDelayTs.toNat jb.format.frameTs.toNat
  unfold firstPosition delayFrames
  rw [UInt32.toNat_sub_of_le _ _ hle, UInt32.toNat_mod, Nat.mul_comm]
  omega

theorem write_first (h : Unwritten jb) (buffer : List β) (ts : UInt32) (marker : Bool) :
    mpfJitterBufferWrite jb buffer ts marker =
      writeFrames (writeSynchronize jb ts) buffer (firstPosition jb) := by
  have hmark : (if marker && jb.writeTs ≤ jb.readTs then { jb with writeSync := true } else jb) =
      jb := by
    split
    · rw [← h.writeSync]
    · rfl
  have hoffset : (writeSynchronize jb ts).writeTsOffset = ts := by
    simp only [writeSynchronize, h.writeSync, h.readTs, if_true]
    split <;> simp
  have hposition : frameAllign (writeSynchronize jb ts)
      (writePosition (writeSynchronize jb ts) ts) =
      firstPosition jb := by
    simp [writePosition, hoffset, frameAllign, firstPosition]
  simp only [mpfJitterBufferWrite, hmark, mpfJitterBufferWritePrepare, hposition]
  rw [if_pos]
  rw [writeSynchronize_readTs, h.readTs]
  exact UInt32.le_iff_toNat_le.mpr (Nat.zero_le _)

/-- A write and the reads behind it: the last one returns the slot of its
position. -/
theorem run_write_reads {jb jb' : JitterBuffer β} {ts : UInt32} {marker : Bool} {result : JbResult}
    (count : Nat) (hwrite : mpfJitterBufferWrite jb buffer ts marker = some (jb', result))
    (hread : jb'.readTs = 0) (hframes : 0 < jb'.frames.length)
    (hend : (count + 1) * jb'.format.frameTs.toNat < 2 ^ 32) :
    ∃ drained final outputs,
      run jbStep jb (.write buffer ts marker :: (List.replicate count .read ++ [.read])) =
        some (final, .result result :: (outputs ++ [.frame
          (if drained.writeTs > drained.readTs then slotAt drained.frames count else .empty)])) ∧
      ReadsFrom jb' drained 0 count := by
  have hreads : (0 + count) * jb'.format.frameTs.toNat < 2 ^ 32 :=
    Nat.lt_of_le_of_lt (Nat.mul_le_mul_right _ (by omega)) hend
  obtain ⟨drained, outputs, hrun, hfrom⟩ :=
    run_reads count jb' hframes (by rw [hread, Nat.zero_mul]; rfl) hreads
  obtain ⟨final, hlast, -⟩ := read_spec drained
    (by rw [hfrom.length]; exact hframes) (by rw [hfrom.readTs, hfrom.format, Nat.zero_add])
    (by rw [hfrom.format]; exact hend)
  refine ⟨drained, final, outputs, ?_, hfrom⟩
  simp [run, jbStep, hwrite, run_append, hrun, hlast]

/-- The buffer behind a first packet that was written at the position `p`. -/
structure FirstWritten (jb jb' : JitterBuffer β) (p : Nat) (bytes : List β) : Prop where
  format : jb'.format = jb.format
  readTs : jb'.readTs = 0
  length : jb'.frames.length = jb.frames.length
  ahead : (p + 1) * jb.format.frameTs.toNat ≤ jb'.writeTs.toNat
  slot : (slotAt jb'.frames p).audio = some bytes

section

variable (h : Unwritten jb) (hfits : delayFrames jb < jb.frames.length)
  (hpacket : AudioPacket jb buffer) (ts : UInt32) (marker : Bool)
include h hfits hpacket ts marker

/-- A first packet inside the capacity is written. -/
theorem write_first_fits :
    ∃ jb', mpfJitterBufferWrite jb buffer ts marker = some (jb', .ok) ∧
      FirstWritten jb jb' (delayFrames jb) (buffer.take jb.format.frameSize) := by
  obtain ⟨hsize, hwrap⟩ := hpacket
  have hwhole : 0 < buffer.length / jb.format.frameSize := Nat.div_pos hsize jb.format.sizePos
  have hdelay : delayFrames jb * jb.format.frameTs.toNat ≤ jb.playoutDelayTs.toNat :=
    Nat.div_mul_le_self _ _
  have hcount : 0 < min (0 + jb.frames.length - delayFrames jb)
      (buffer.length / jb.format.frameSize) := Nat.lt_min.mpr ⟨by omega, hwhole⟩
  have hend : (delayFrames jb + min (0 + jb.frames.length - delayFrames jb)
      (buffer.length / jb.format.frameSize)) * jb.format.frameTs.toNat < 2 ^ 32 := by
    have hmin := Nat.mul_le_mul_right jb.format.frameTs.toNat
      (Nat.min_le_right (0 + jb.frames.length - delayFrames jb)
        (buffer.length / jb.format.frameSize))
    rw [Nat.add_mul]
    omega
  obtain ⟨frames', writeTs', hframes, hts, hwritten⟩ :=
    writeFrames_spec (writeSynchronize jb ts) buffer
      (by simpa using h.capacity) (by simp [h.readTs])
      (by simpa using toNat_firstPosition jb) (Nat.zero_le _) (by simpa using hfits)
      (by simpa using hend)
  simp only [writeSynchronize_frames, writeSynchronize_format] at hts hwritten
  have hahead : (delayFrames jb + 1) * jb.format.frameTs.toNat ≤ writeTs'.toNat := by
    rw [hts]
    exact Nat.mul_le_mul_right _ (Nat.add_le_add_left hcount _)
  have hnonzero : writeTs' > jb.writeTs := by
    have hframe := jb.format.frameTs_pos
    rw [Nat.succ_mul] at hahead
    rw [h.writeTs, gt_iff_lt]
    show 0 < writeTs'.toNat
    omega
  refine ⟨_, (write_first h buffer ts marker).trans hframes, ?_⟩
  unfold writeAdvance
  rw [if_pos (by simpa using hnonzero)]
  refine ⟨writeSynchronize_format jb ts, by simp [h.readTs], hwritten.length, hahead, ?_⟩
  have hslot := hwritten.slots (delayFrames jb) (Nat.zero_le _) (by rw [Nat.zero_add]; exact hfits)
  rw [if_pos ⟨Nat.le_refl _, Nat.lt_add_of_pos_right hcount⟩] at hslot
  rw [hslot]
  simp [frameOf]

/-- A first packet inside the capacity is played. -/
theorem plays_of_fits : PlaysPacket jb buffer ts marker := by
  obtain ⟨jb', hwrite, hfirst⟩ := write_first_fits h hfits hpacket ts marker
  have hend : (delayFrames jb + 1) * jb'.format.frameTs.toNat < 2 ^ 32 := by
    rw [hfirst.format]
    exact Nat.lt_of_le_of_lt hfirst.ahead (UInt32.toNat_lt _)
  obtain ⟨drained, final, outputs, hrun, hfrom⟩ := run_write_reads (delayFrames jb) hwrite
    hfirst.readTs (by rw [hfirst.length]; omega) hend
  refine ⟨final, outputs, _, hrun, ?_⟩
  have hahead : drained.writeTs > drained.readTs := by
    have hframe := jb.format.frameTs_pos
    have hbound := hfirst.ahead
    rw [gt_iff_lt, UInt32.lt_iff_toNat_lt, hfrom.readTs, hfrom.writeTs, hfirst.format, Nat.zero_add]
    rw [Nat.succ_mul] at hbound
    omega
  rw [if_pos hahead, hfrom.kept _ (by omega) (by rw [hfirst.length]; omega)]
  exact hfirst.slot

end

/-- A first packet behind the capacity is discarded, or its slot is read before
its time. -/
theorem not_plays_of_not_fits (h : Unwritten jb) (hframes : 0 < jb.frames.length)
    (hfits : jb.frames.length ≤ delayFrames jb)
    (hend : (delayFrames jb + 1) * jb.format.frameTs.toNat < 2 ^ 32) (buffer : List β) (ts : UInt32)
    (marker : Bool) : ¬ PlaysPacket jb buffer ts marker := by
  rintro ⟨final, outputs, frame, hrun, haudio⟩
  have hwrite := write_first h buffer ts marker
  rcases Nat.eq_or_lt_of_le hfits with hedge | hbehind
  · rw [writeFrames_early buffer (r := 0) (by simpa using h.capacity) (by simp [h.readTs])
      (by simpa [hedge] using toNat_firstPosition jb)] at hwrite
    obtain ⟨drained, final', outputs', hrun', -⟩ := run_write_reads (delayFrames jb) hwrite
      (by simpa using h.readTs) (by simpa using hframes) (by simpa using hend)
    rw [hrun] at hrun'
    simp at hrun'
  · -- the slot is emptied by a read of the first round
    cases hwritten : mpfJitterBufferWrite jb buffer ts marker with
    | none => simp [run, jbStep, hwritten] at hrun
    | some next =>
      obtain ⟨jb', result⟩ := next
      rw [hwritten] at hwrite
      obtain ⟨frames', writeTs', rfl, hlength⟩ := writeFrames_frames
        (P := fun frames => frames.length = jb.frames.length)
        (fun frames index bytes _ h => (List.length_modify _ _ _).trans h)
        (congrArg List.length (writeSynchronize_frames jb ts)) hwrite.symm
      obtain ⟨drained, final', outputs', hrun', hfrom⟩ := run_write_reads (delayFrames jb) hwritten
        (by simpa using h.readTs) (by rw [hlength]; exact hframes) (by simpa using hend)
      have hempty : slotAt drained.frames (delayFrames jb) = .empty :=
        hfrom.freed _ (by omega) (by rw [hlength]; omega) (by rw [hlength]; omega)
      rw [hempty, ite_self, hrun] at hrun'
      simp only [Option.some.injEq, Prod.mk.injEq, List.cons.injEq] at hrun'
      obtain ⟨-, -, houtputs⟩ := hrun'
      obtain ⟨-, hframe⟩ := List.append_inj' houtputs rfl
      simp only [List.cons.injEq, JbOutput.frame.injEq, and_true] at hframe
      rw [hframe] at haudio
      cases haudio

/-! ## The configurations -/

/-- A delay within the maximum is far from the end of the timestamps. -/
theorem frame_after_delay {limit : UInt32} (hmax : jb.playoutDelayTs ≤ limit / codecFrameTimeBase)
    (hdelay : 0 < delayFrames jb) :
    jb.playoutDelayTs.toNat + jb.format.frameTs.toNat < 2 ^ 32 := by
  have hframe : jb.format.frameTs.toNat ≤ jb.playoutDelayTs.toNat := by
    refine Nat.le_of_not_lt (fun hlt => ?_)
    unfold delayFrames at hdelay
    rw [Nat.div_eq_of_lt hlt] at hdelay
    omega
  have hlimit := UInt32.toNat_lt limit
  rw [UInt32.le_iff_toNat_le, UInt32.toNat_div] at hmax
  have hbase : codecFrameTimeBase.toNat = 10 := rfl
  rw [hbase] at hmax
  omega

/-- A configuration works exactly if its delays fit. -/
theorem config_works_iff (config : Option JbConfig) (format : FrameFormat) :
    ConfigWorks config format ↔ PlayoutFits config format := by
  have hnew : Unwritten (mpfJitterBufferCreate UInt8 config format) :=
    unwritten_create config format
  have hcount : (mpfJitterBufferCreate UInt8 config format).frames.length =
      ((jbConfigValidate (config.getD mpfJbConfigInit)).maxPlayoutDelay /
        codecFrameTimeBase).toNat := List.length_replicate
  have hallign : ∀ valid, (jbConfigAllign valid).maxPlayoutDelay = valid.maxPlayoutDelay := by
    intro valid
    unfold jbConfigAllign
    split <;> rfl
  have hmost : (mpfJitterBufferCreate UInt8 config format).maxPlayoutDelayTs =
      format.frameTs * (jbConfigValidate (config.getD mpfJbConfigInit)).maxPlayoutDelay /
        codecFrameTimeBase := by
    show format.frameTs * (jbConfigAllign _).maxPlayoutDelay / codecFrameTimeBase = _
    rw [hallign]
  unfold PlayoutFits
  simp only
  rw [← hcount, ← hmost]
  constructor
  · rintro ⟨hframes, hmax, hplays⟩
    refine ⟨Nat.lt_of_not_le (fun hbehind => ?_), hmax⟩
    have hdelay : 0 < delayFrames (mpfJitterBufferCreate UInt8 config format) :=
      Nat.lt_of_lt_of_le hframes hbehind
    have hend := frame_after_delay hmax hdelay
    -- the packet of a single frame is the first one
    refine not_plays_of_not_fits hnew hframes hbehind ?_ (List.replicate format.frameSize 0) 0 false
      (hplays _ 0 false ⟨?_, ?_⟩)
    · refine Nat.lt_of_le_of_lt ?_ hend
      rw [Nat.succ_mul]
      exact Nat.add_le_add_right (Nat.div_mul_le_self _ _) _
    · exact Nat.le_of_eq List.length_replicate.symm
    · rw [List.length_replicate]
      show _ + format.frameSize / format.frameSize * _ < _
      rw [Nat.div_self format.sizePos, Nat.one_mul]
      exact hend
  · rintro ⟨hfits, hmax⟩
    exact ⟨Nat.lt_of_le_of_lt (Nat.zero_le _) hfits, hmax,
      fun buffer ts marker hpacket => plays_of_fits hnew hfits hpacket ts marker⟩

/-- With an initial delay of 50 ms and the same maximum the first packet is
discarded. -/
theorem delay_at_maximum_discards :
    ¬ ConfigWorks (some ⟨0, 50, 50, false, true⟩) byteFormat := by
  intro h
  exact not_plays_of_not_fits (unwritten_create _ _) (by decide) (by decide) (by decide)
    [0] 0 false (h.2.2 _ 0 false ⟨by decide, by decide⟩)

/-- The rounding of the initial delay. -/
theorem toNat_allign {valid : JbConfig} (h : valid.initialPlayoutDelay.toNat + 9 < 2 ^ 32) :
    (jbConfigAllign valid).initialPlayoutDelay.toNat =
      (valid.initialPlayoutDelay.toNat + 9) / 10 * 10 := by
  have hmod : (valid.initialPlayoutDelay % codecFrameTimeBase).toNat =
      valid.initialPlayoutDelay.toNat % 10 := UInt32.toNat_mod _ _
  have hzero : valid.initialPlayoutDelay % codecFrameTimeBase = 0 ↔
      valid.initialPlayoutDelay.toNat % 10 = 0 := by
    rw [← UInt32.toNat_inj, hmod]
    rfl
  unfold jbConfigAllign
  split
  · next hodd =>
    rw [ne_eq, hzero] at hodd
    rw [UInt32.toNat_add, UInt32.toNat_sub, hmod, show codecFrameTimeBase.toNat = 10 from rfl]
    omega
  · next heven =>
    rw [ne_eq, not_not, hzero] at heven
    omega

/-- Where no product wraps around, the condition compares the initial delay
rounded up with the maximum rounded down. -/
theorem playoutFits_iff {config : Option JbConfig} {format : FrameFormat} {initial most : Nat}
    (hinitial : (jbConfigValidate (config.getD mpfJbConfigInit)).initialPlayoutDelay.toNat =
      initial)
    (hmost : (jbConfigValidate (config.getD mpfJbConfigInit)).maxPlayoutDelay.toNat = most)
    (hdelay : format.frameTs.toNat * (initial + 9) < 2 ^ 32)
    (hlimit : format.frameTs.toNat * most < 2 ^ 32) :
    PlayoutFits config format ↔ (initial + 9) / 10 < most / 10 := by
  have hframe := format.frameTs_pos
  have hbase : codecFrameTimeBase.toNat = 10 := rfl
  have hsmall : initial + 9 < 2 ^ 32 :=
    Nat.lt_of_le_of_lt (Nat.le_mul_of_pos_left _ hframe) hdelay
  unfold PlayoutFits
  generalize jbConfigValidate (config.getD mpfJbConfigInit) = valid at hinitial hmost
  have hallign : (jbConfigAllign valid).initialPlayoutDelay.toNat = (initial + 9) / 10 * 10 := by
    rw [toNat_allign (by rw [hinitial]; exact hsmall), hinitial]
  have hproduct : format.frameTs.toNat * ((initial + 9) / 10 * 10) < 2 ^ 32 :=
    Nat.lt_of_le_of_lt (Nat.mul_le_mul_left _ (by omega)) hdelay
  have hframes : (format.frameTs * (jbConfigAllign valid).initialPlayoutDelay /
      codecFrameTimeBase).toNat = format.frameTs.toNat * ((initial + 9) / 10) := by
    rw [UInt32.toNat_div, UInt32.toNat_mul, hallign, hbase, Nat.mod_eq_of_lt hproduct,
      ← Nat.mul_assoc, Nat.mul_div_cancel _ (by decide)]
  have hlimits : (format.frameTs * valid.maxPlayoutDelay / codecFrameTimeBase).toNat =
      format.frameTs.toNat * most / 10 := by
    rw [UInt32.toNat_div, UInt32.toNat_mul, hmost, hbase, Nat.mod_eq_of_lt hlimit]
  simp only
  rw [UInt32.le_iff_toNat_le, hframes, hlimits, UInt32.toNat_div, hmost,
    Nat.mul_div_cancel_left _ hframe]
  constructor
  · exact fun h => h.1
  · intro h
    refine ⟨h, (Nat.le_div_iff_mul_le (by decide)).mpr ?_⟩
    rw [Nat.mul_assoc]
    exact Nat.mul_le_mul_left _ (by omega)

end UniMrcp.Mpf
