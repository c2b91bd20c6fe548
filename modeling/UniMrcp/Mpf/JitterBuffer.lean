import Mathlib.Data.List.Basic
import UniMrcp.Mpf.Frame

/-!
# The jitter buffer

A model of `mpf/src/mpf_jitter_buffer.c`.  Timestamps are `UInt32` and wrap as
those of the source; the lengths of the statistics are `Int32`.

The buffer moves audio without looking at it, so the model is generic in the
type `β` of a byte.  Of a named event it looks at the id, the edge and the
duration; the volume and the reserved bit are again a `β`.

A frame is a slot of the cyclic array.  The bits of its type stand for the data
that they guard: `audio` and `event` are `none` when the bit is not set.
`event_write_update` points to an event that is only written together with the
pointer, so its value is kept here.  The write offset is added and subtracted
and never compared, so it is kept as unsigned.

The index of a slot is taken modulo the number of frames; with no frames the
division stops the program, and there is no result.
-/

namespace UniMrcp.Mpf

/-- `mpf_jb_config_t` -/
structure JbConfig where
  minPlayoutDelay : UInt32
  initialPlayoutDelay : UInt32
  maxPlayoutDelay : UInt32
  adaptive : Bool
  timeSkewDetection : Bool
  deriving Repr, DecidableEq

/-- `mpf_jb_config_init` -/
def mpfJbConfigInit : JbConfig := ⟨0, 0, 0, false, true⟩

/-- The frames of the codec: `mpf_codec_frame_samples_calculate` and
`mpf_codec_frame_size_calculate`.  Every codec has samples, and bytes. -/
structure FrameFormat where
  frameTs : UInt32
  frameSize : Nat
  tsPos : 0 < frameTs
  sizePos : 0 < frameSize

theorem FrameFormat.frameTs_pos (format : FrameFormat) : 0 < format.frameTs.toNat :=
  UInt32.lt_iff_toNat_lt.mp format.tsPos

/-- Frames of 10 ms at 8 kHz, coded in a single byte. -/
def byteFormat : FrameFormat := ⟨80, 1, by decide, by decide⟩

/-- `mpf_named_event_frame_t` -/
structure NamedEvent (β : Type) where
  eventId : UInt8
  edge : Bool
  duration : UInt16
  rest : β
  deriving Repr, DecidableEq

/-- `mpf_frame_t` -/
structure MediaFrame (β : Type) where
  audio : Option (List β)
  event : Option (NamedEvent β)
  marker : FrameMarker
  deriving Repr, DecidableEq

/-- A frame of the type `MEDIA_FRAME_TYPE_NONE`. -/
def MediaFrame.empty {β : Type} : MediaFrame β := ⟨none, none, .none⟩

/-- `jb_result_t` -/
inductive JbResult where
  | ok
  | discardNotAlligned
  | discardTooLate
  | discardTooEarly
  deriving Repr, DecidableEq

/-- `mpf_jitter_buffer_t` -/
structure JitterBuffer (β : Type) where
  config : JbConfig
  format : FrameFormat
  frames : List (MediaFrame β)
  playoutDelayTs : UInt32
  maxPlayoutDelayTs : UInt32
  writeSync : Bool
  writeTsOffset : UInt32
  writeTs : UInt32
  readTs : UInt32
  minLengthTs : Int32
  maxLengthTs : Int32
  measurmentCount : UInt32
  eventWriteBaseTs : UInt32
  eventWriteBaseId : UInt8
  eventWriteUpdate : Option (NamedEvent β)

/-! ## Creation -/

/-- The validation of the configuration in `mpf_jitter_buffer_create` -/
def jbConfigValidate (config : JbConfig) : JbConfig :=
  let config := if config.minPlayoutDelay > config.initialPlayoutDelay then
    { config with minPlayoutDelay := config.initialPlayoutDelay } else config
  let config := if config.maxPlayoutDelay < config.initialPlayoutDelay then
    { config with maxPlayoutDelay := 2 * config.initialPlayoutDelay } else config
  if config.maxPlayoutDelay = 0 then { config with maxPlayoutDelay := 600 } else config

/-- The initial delay is rounded up to the frames of the codec. -/
def jbConfigAllign (config : JbConfig) : JbConfig :=
  if config.initialPlayoutDelay % codecFrameTimeBase ≠ 0 then
    { config with initialPlayoutDelay := config.initialPlayoutDelay +
        (codecFrameTimeBase - config.initialPlayoutDelay % codecFrameTimeBase) }
  else config

/-- `mpf_jitter_buffer_create` -/
def mpfJitterBufferCreate (β : Type) (config : Option JbConfig) (format : FrameFormat) :
    JitterBuffer β :=
  let config := jbConfigValidate (config.getD mpfJbConfigInit)
  let frameCount := (config.maxPlayoutDelay / codecFrameTimeBase).toNat
  let config := jbConfigAllign config
  { config := config
    format := format
    frames := List.replicate frameCount MediaFrame.empty
    playoutDelayTs := format.frameTs * config.initialPlayoutDelay / codecFrameTimeBase
    maxPlayoutDelayTs := format.frameTs * config.maxPlayoutDelay / codecFrameTimeBase
    writeSync := true
    writeTsOffset := 0
    writeTs := 0
    readTs := 0
    minLengthTs := 0
    maxLengthTs := 0
    measurmentCount := 0
    eventWriteBaseTs := 0
    eventWriteBaseId := 0
    eventWriteUpdate := none }

section

variable {β : Type}

section

variable (jb : JitterBuffer β)

/-- `mpf_jitter_buffer_restart` -/
def mpfJitterBufferRestart : JitterBuffer β :=
  { jb with
    writeSync := true
    writeTsOffset := 0
    writeTs := jb.readTs
    eventWriteBaseTs := 0
    eventWriteBaseId := 0
    eventWriteUpdate := none
    playoutDelayTs :=
      if jb.config.adaptive && jb.playoutDelayTs == jb.maxPlayoutDelayTs then
        jb.format.frameTs * jb.config.initialPlayoutDelay / codecFrameTimeBase
      else jb.playoutDelayTs }

/-! ## Positions -/

/-- `mpf_jitter_buffer_frame_get`: the index of the frame. -/
def frameIndex (ts : UInt32) : Option Nat :=
  if jb.frames.length = 0 then none
  else some ((ts / jb.format.frameTs).toNat % jb.frames.length)

/-- `mpf_jitter_buffer_frame_allign` -/
def frameAllign (ts : UInt32) : UInt32 := ts - ts % jb.format.frameTs

/-- The synchronization of `mpf_jitter_buffer_write_prepare` -/
def writeSynchronize (ts : UInt32) : JitterBuffer β :=
  if jb.writeSync then
    let jb := { jb with writeTsOffset := ts - jb.readTs, writeSync := false }
    if jb.config.timeSkewDetection then
      { jb with
        minLengthTs := jb.playoutDelayTs.toInt32
        maxLengthTs := jb.playoutDelayTs.toInt32
        measurmentCount := 0 }
    else jb
  else jb

/-- The position of a timestamp, taking into account the offset and the playout
delay. -/
def writePosition (ts : UInt32) : UInt32 :=
  ts - jb.writeTsOffset + jb.playoutDelayTs

/-- `mpf_jitter_buffer_write_prepare`: the buffer, and the write position. -/
def mpfJitterBufferWritePrepare (ts : UInt32) : JitterBuffer β × UInt32 :=
  let jb := writeSynchronize jb ts
  (jb, frameAllign jb (writePosition jb ts))

/-- The end of a write advances the write position. -/
def writeAdvance (writeTs : UInt32) : JitterBuffer β :=
  if writeTs > jb.writeTs then { jb with writeTs := writeTs } else jb

/-! ## Audio -/

/-- The audio of a frame is set. -/
def audioPut (index : Nat) (audio : List β) : JitterBuffer β :=
  { jb with frames := jb.frames.modify index (fun frame => { frame with audio := some audio }) }

/-- The loop of `mpf_jitter_buffer_write` with the default dissector of
`mpf_codec_dissect`.  Each pass takes the bytes of a frame, so the number of
bytes is fuel enough. -/
def writeLoop : Nat → JitterBuffer β → UInt64 → List β → UInt32 → Option (JitterBuffer β × UInt32)
  | 0, jb, _, _, writeTs => some (jb, writeTs)
  | fuel + 1, jb, available, buffer, writeTs =>
    if available = 0 ∨ buffer = [] then some (jb, writeTs)
    else
      match frameIndex jb writeTs with
      | none => none
      | some index =>
        if jb.format.frameSize ≤ buffer.length ∧ jb.format.frameSize ≠ 0 then
          writeLoop fuel (audioPut jb index (buffer.take jb.format.frameSize)) (available - 1)
            (buffer.drop jb.format.frameSize) (writeTs + jb.format.frameTs)
        else some (jb, writeTs)

/-- The frames are written as far as there are slots; their number is unsigned,
and so is the test whether there are any. -/
def writeFrames (buffer : List β) (writeTs : UInt32) : Option (JitterBuffer β × JbResult) :=
  let available := UInt64.ofNat jb.frames.length -
    ((writeTs - jb.readTs) / jb.format.frameTs).toUInt64
  if available ≤ 0 then some (jb, .discardTooEarly)
  else (writeLoop buffer.length jb available buffer writeTs).map (fun (jb, writeTs) =>
    (writeAdvance jb writeTs, .ok))

/-- The statistics are moved by an adjustment. -/
def lengthsMove (delta : UInt32) : JitterBuffer β :=
  { jb with
    minLengthTs := jb.minLengthTs + delta.toInt32
    maxLengthTs := jb.maxLengthTs + delta.toInt32 }

/-- The offset is moved by a time skew. -/
def offsetMove (skew : UInt32) : JitterBuffer β :=
  { jb with writeTsOffset := jb.writeTsOffset - skew }

/-- What the statistics do to the adjustment of a late packet: the buffer, the
write position and the adjustment. -/
def skewAdjust (ts writeTs delta : UInt32) : JitterBuffer β × UInt32 × UInt32 :=
  let span := (jb.maxLengthTs - jb.minLengthTs).toUInt32
  let delta := if span > jb.playoutDelayTs + delta then
    frameAllign jb (span - jb.playoutDelayTs) else delta
  if jb.maxLengthTs > 0 && jb.maxLengthTs.toUInt32 < jb.playoutDelayTs then
    let skew := frameAllign jb (jb.playoutDelayTs - jb.maxLengthTs.toUInt32)
    let jb := offsetMove jb skew
    (lengthsMove jb skew, writePosition jb ts, if skew < delta then delta - skew else 0)
  else (jb, writeTs, delta)

/-- A late packet: the playout delay of an adaptive buffer is adjusted. -/
def lateAdjust (buffer : List β) (writeTs delta : UInt32) : Option (JitterBuffer β × JbResult) :=
  if delta ≠ 0 then
    if !jb.config.adaptive then some (jb, .discardTooLate)
    else if jb.playoutDelayTs + delta > jb.maxPlayoutDelayTs then some (jb, .discardTooLate)
    else
      let jb := { jb with playoutDelayTs := jb.playoutDelayTs + delta }
      let jb := if jb.config.timeSkewDetection then lengthsMove jb delta else jb
      writeFrames jb buffer (writeTs + delta)
  else writeFrames jb buffer writeTs

/-- `mpf_jitter_buffer_write` -/
def mpfJitterBufferWrite (buffer : List β) (ts : UInt32) (marker : Bool) :
    Option (JitterBuffer β × JbResult) :=
  let jb := if marker && jb.writeTs ≤ jb.readTs then { jb with writeSync := true } else jb
  let (jb, writeTs) := mpfJitterBufferWritePrepare jb ts
  if writeTs ≥ jb.readTs then writeFrames jb buffer writeTs
  else if writeTs < jb.writeTs then some (jb, .discardTooLate)
  else
    let delta := jb.readTs - writeTs
    if jb.config.timeSkewDetection then
      let (jb, writeTs, delta) := skewAdjust jb ts writeTs delta
      lateAdjust jb buffer writeTs delta
    else lateAdjust jb buffer writeTs delta

/-! ## Events -/

section

variable (event : NamedEvent β) (writeTs : UInt32) (marker : Bool)

/-- A new event, or a new segment of an event. -/
def eventBase : JitterBuffer β :=
  { jb with
    eventWriteBaseId := event.eventId
    eventWriteUpdate := some event
    eventWriteBaseTs := writeTs }

/-- The detection of a new event whose marker is missing: the buffer, and the
marker. -/
def eventDetect : JitterBuffer β × Bool :=
  if marker then (jb, true)
  else
    match jb.eventWriteUpdate with
    | none => (jb, true)
    | some update =>
      if jb.eventWriteBaseId ≠ event.eventId then (jb, true)
      else if jb.eventWriteBaseTs ≠ writeTs then
        if writeTs > jb.eventWriteBaseTs + update.duration.toUInt32 + 4 * jb.format.frameTs then
          (jb, true)
        else (eventBase jb event writeTs, false)
      else (jb, false)

/-- An update that brings nothing new. -/
def eventIgnored (update event : NamedEvent β) : Bool :=
  event.duration < update.duration ||
    (event.duration == update.duration && (update.edge || update.edge == event.edge))

/-- The event of a frame is set. -/
def eventStore (index : Nat) (event : NamedEvent β) (marker : Bool) : JitterBuffer β :=
  { jb with
    frames := jb.frames.modify index (fun frame => { frame with
      event := some event
      marker := if marker then .startOfEvent else if event.edge then .endOfEvent
        else frame.marker })
    eventWriteUpdate := some event }

/-- The event is put into its slot. -/
def eventPut : Option (JitterBuffer β × JbResult) :=
  (frameIndex jb writeTs).map (fun index =>
    (writeAdvance (eventStore jb index event marker) (writeTs + jb.format.frameTs), .ok))

/-- The position of an event in the buffer. -/
def eventPlace : Option (JitterBuffer β × JbResult) :=
  if writeTs < jb.readTs then
    if !jb.config.adaptive then some (jb, .discardTooLate)
    else
      let delta := jb.readTs - writeTs
      if jb.playoutDelayTs + delta > jb.maxPlayoutDelayTs then some (jb, .discardTooLate)
      else
        let writeTs := writeTs + delta
        let jb := { jb with playoutDelayTs := jb.playoutDelayTs + delta }
        let jb := if marker then { jb with eventWriteBaseTs := writeTs } else jb
        eventPut jb event writeTs marker
  else if ((writeTs - jb.readTs) / jb.format.frameTs).toNat ≥ jb.frames.length then
    some (jb, .discardTooEarly)
  else eventPut jb event writeTs marker

/-- An event at a write position. -/
def eventHandle : Option (JitterBuffer β × JbResult) :=
  let (jb, marker) := eventDetect jb event writeTs marker
  if marker then eventPlace (eventBase jb event writeTs) event writeTs true
  else
    match jb.eventWriteUpdate with
    | none => some (jb, .ok)
    | some update =>
      if eventIgnored update event then some (jb, .ok)
      else eventPlace jb event (writeTs + update.duration.toUInt32) false

/-- `mpf_jitter_buffer_event_write` -/
def mpfJitterBufferEventWrite (ts : UInt32) (marker : Bool) : Option (JitterBuffer β × JbResult) :=
  let (jb, writeTs) := mpfJitterBufferWritePrepare jb ts
  eventHandle jb event writeTs marker

end

/-! ## Reading -/

/-- The measurements start over. -/
def statRestart : JitterBuffer β :=
  if jb.measurmentCount = 50 then
    let mean := jb.minLengthTs + (jb.maxLengthTs - jb.minLengthTs) / 2
    { jb with minLengthTs := mean, maxLengthTs := mean, measurmentCount := 0 }
  else jb

/-- A measurement of the length of the buffer. -/
def statMeasure (length : Int32) : JitterBuffer β :=
  if length > jb.maxLengthTs then { jb with maxLengthTs := length }
  else if length < jb.minLengthTs then { jb with minLengthTs := length }
  else jb

/-- `mpf_jitter_buffer_stat_update` -/
def mpfJitterBufferStatUpdate : JitterBuffer β :=
  let jb := statMeasure (statRestart jb) (jb.writeTs - jb.readTs).toInt32
  { jb with measurmentCount := jb.measurmentCount + 1 }

/-- The frame is taken out of its slot, and the read position advances. -/
def frameTake (index : Nat) : JitterBuffer β :=
  { jb with
    frames := jb.frames.modify index (fun _ => .empty)
    readTs := jb.readTs + jb.format.frameTs }

/-- `mpf_jitter_buffer_read` -/
def mpfJitterBufferRead : Option (JitterBuffer β × MediaFrame β) :=
  (frameIndex jb jb.readTs).map (fun index =>
    let frame := if jb.writeTs > jb.readTs then jb.frames.getD index .empty else .empty
    let jb := frameTake jb index
    (if jb.config.timeSkewDetection then mpfJitterBufferStatUpdate jb else jb, frame))

/-! ## The calls -/

inductive JbInput (β : Type) where
  | write (buffer : List β) (ts : UInt32) (marker : Bool)
  | eventWrite (event : NamedEvent β) (ts : UInt32) (marker : Bool)
  | restart
  | read

/-- What a call returns. -/
inductive JbOutput (β : Type) where
  | result (result : JbResult)
  | frame (frame : MediaFrame β)
  | restarted
  deriving Repr, DecidableEq

def jbStep : JbInput β → Option (JitterBuffer β × JbOutput β)
  | .write buffer ts marker =>
    (mpfJitterBufferWrite jb buffer ts marker).map (Prod.map id JbOutput.result)
  | .eventWrite event ts marker =>
    (mpfJitterBufferEventWrite jb event ts marker).map (Prod.map id JbOutput.result)
  | .restart => some (mpfJitterBufferRestart jb, .restarted)
  | .read => (mpfJitterBufferRead jb).map (Prod.map id JbOutput.frame)

end

end

end UniMrcp.Mpf
