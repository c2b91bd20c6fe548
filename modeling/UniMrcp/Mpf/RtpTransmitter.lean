import Mathlib.Data.List.Range
import UniMrcp.Apt.TextStream
import UniMrcp.Lib.Runs
import UniMrcp.Mpf.Frame
import UniMrcp.Mpf.RtpHeader

/-!
# The RTP transmitter

The frames of a stream are collected into packets of `packet_frames` frames, in
a buffer that is allocated when the transmitter is opened.  Events are packets
of their own.  RTCP and the statistics are left out, and the socket takes every
packet.

* `packet_data_bounded_iff`: the buffer holds what is written to it;
* `packets_whole`: the packets have the frames of consecutive ticks.
-/

namespace UniMrcp.Mpf

open UniMrcp.Apt UniMrcp.Lib

/-- `mpf_frame_t`, without what its event says -/
structure TxFrame where
  type : Nat
  marker : FrameMarker
  codecFrame : Bytes
  deriving Repr, DecidableEq

/-- A packet for the socket.  An audio packet holds the frames of some ticks. -/
inductive RtpPacket where
  | audio (sequence : UInt16) (marker : Bool) (timestamp : UInt32) (frames : List (Nat × Bytes))
  | event (sequence : UInt16) (marker : Bool) (timestamp : UInt32) (edge : Bool)
  deriving Repr, DecidableEq

/-- `rtp_transmitter_t`, with the header and the payload in `packet_data`.  The
last three fields are for the observer: the end of what has been written to
`packet_data`, the number of frames, and the packets, the last one first. -/
structure Transmitter where
  ptime : UInt16 := 0
  packetFrames : Nat := 0
  currentFrames : Nat := 0
  samplesPerFrame : UInt32 := 0
  inactivity : Bool := false
  lastSeqNum : UInt16 := 0
  timestamp : UInt32 := 0
  timestampBase : UInt32 := 0
  headerMarker : Bool := false
  headerTimestamp : UInt32 := 0
  packetData : List (Nat × Bytes) := []
  packetSize : Nat := 0
  extent : Nat := 0
  tick : Nat := 0
  sent : List RtpPacket := []

/-- `mpf_rtp_tx_stream_open`; `settings` is the packet time of the settings. -/
def mpfRtpTxStreamOpen (settings : UInt16) (t : Transmitter) : Transmitter :=
  let ptime := if t.ptime ≠ 0 then t.ptime else if settings ≠ 0 then settings else 20
  { t with
    ptime := ptime
    packetFrames := ptime.toNat / 10
    currentFrames := 0
    inactivity := true
    packetData := []
    extent := 0
    tick := 0
    sent := [] }

/-- The size of `packet_data`. -/
def packetDataSize (t : Transmitter) (frameSize : Nat) : Nat :=
  rtpHeaderSize + t.packetFrames * frameSize

/-- `mpf_rtp_data_send` -/
def mpfRtpDataSend (t : Transmitter) (frame : TxFrame) : Transmitter :=
  let size := t.packetSize + frame.codecFrame.length
  let t := { t with
    packetData := t.packetData ++ [(t.tick, frame.codecFrame)]
    packetSize := size
    extent := max t.extent size
    currentFrames := (t.currentFrames + 1) % 2 ^ 16 }
  if t.currentFrames = t.packetFrames then
    { t with
      lastSeqNum := t.lastSeqNum + 1
      currentFrames := 0
      sent := .audio (t.lastSeqNum + 1) t.headerMarker t.headerTimestamp t.packetData :: t.sent }
  else t

/-- `mpf_rtp_event_send` -/
def mpfRtpEventSend (t : Transmitter) (frame : TxFrame) : Transmitter :=
  let t := if frame.marker = .startOfEvent ∨ frame.marker = .newSegment then
    { t with timestampBase := t.timestamp } else t
  { t with
    lastSeqNum := t.lastSeqNum + 1
    sent := .event (t.lastSeqNum + 1) (frame.marker = .startOfEvent) t.timestampBase
      (frame.marker = .endOfEvent) :: t.sent }

/-- The header of a new packet. -/
def packetStart (t : Transmitter) : Transmitter :=
  if t.currentFrames = 0 then
    { t with
      headerMarker := t.inactivity
      headerTimestamp := t.timestamp
      packetData := []
      packetSize := rtpHeaderSize
      extent := max t.extent rtpHeaderSize
      inactivity := false }
  else t

/-- `mpf_rtp_stream_transmit`; `events` tells whether the stream has an event
descriptor. -/
def mpfRtpStreamTransmit (events : Bool) (t : Transmitter) (frame : TxFrame) : Transmitter :=
  let t := { t with timestamp := t.timestamp + t.samplesPerFrame, tick := t.tick + 1 }
  if frame.type = mediaFrameTypeNone then
    if t.inactivity then t
    else if t.currentFrames = 0 then { t with inactivity := true }
    else mpfRtpDataSend t frame
  else
    let t := if hasFlag frame.type mediaFrameTypeEvent && events then mpfRtpEventSend t frame else t
    if hasFlag frame.type mediaFrameTypeAudio then mpfRtpDataSend (packetStart t) frame else t

/-! ## The buffer -/

/-- What has been written stays inside a buffer for `n` frames. -/
structure Bounded (n frameSize : Nat) (t : Transmitter) : Prop where
  frames : t.packetFrames = n
  current : frameSize = 0 ∨ t.currentFrames < n
  size : t.currentFrames ≠ 0 → t.packetSize ≤ rtpHeaderSize + t.currentFrames * frameSize
  extent : t.extent ≤ rtpHeaderSize + n * frameSize

section Buffer

variable {n frameSize : Nat} {t : Transmitter} {frame : TxFrame} (hn : n < 2 ^ 16)
  (hframe : frame.codecFrame.length ≤ frameSize) (h : Bounded n frameSize t)
include hn hframe h

theorem Bounded.dataSend (hsize : t.packetSize ≤ rtpHeaderSize + t.currentFrames * frameSize) :
    Bounded n frameSize (mpfRtpDataSend t frame) := by
  obtain ⟨rfl, hcurrent, -, hextent⟩ := h
  have hnext : t.packetSize + frame.codecFrame.length ≤
      rtpHeaderSize + (t.currentFrames + 1) * frameSize := by
    rw [Nat.add_one_mul]
    omega
  have hmax : max t.extent (t.packetSize + frame.codecFrame.length) ≤
      rtpHeaderSize + t.packetFrames * frameSize := by
    refine max_le hextent (hnext.trans (Nat.add_le_add_left ?_ _))
    obtain rfl | hlt := hcurrent
    · exact Nat.zero_le _
    · exact Nat.mul_le_mul_right _ hlt
  unfold mpfRtpDataSend
  dsimp only
  split_ifs with hfull
  · exact ⟨rfl, hcurrent.imp_right Nat.zero_lt_of_lt, nofun, hmax⟩
  · obtain rfl | hlt := hcurrent
    · exact ⟨rfl, .inl rfl, fun _ => by simpa using hnext, hmax⟩
    · rw [Nat.mod_eq_of_lt (by omega)] at hfull ⊢
      exact ⟨rfl, .inr (by dsimp only; omega), fun _ => hnext, hmax⟩

theorem Bounded.packet : Bounded n frameSize (mpfRtpDataSend (packetStart t) frame) := by
  unfold packetStart
  split_ifs with hzero
  · refine Bounded.dataSend hn hframe ⟨h.frames, h.current, fun hne => absurd hzero hne, ?_⟩ ?_
    · exact max_le h.extent (Nat.le_add_right _ _)
    · exact Nat.le_add_right _ _
  · exact h.dataSend hn hframe (h.size hzero)

theorem Bounded.transmit (events : Bool) :
    Bounded n frameSize (mpfRtpStreamTransmit events t frame) := by
  unfold mpfRtpStreamTransmit mpfRtpEventSend
  dsimp only
  split_ifs with hnone hquiet hzero
  · exact ⟨h.frames, h.current, h.size, h.extent⟩
  · exact ⟨h.frames, h.current, h.size, h.extent⟩
  · exact Bounded.dataSend hn hframe ⟨h.frames, h.current, h.size, h.extent⟩ (h.size hzero)
  all_goals first
    | exact Bounded.packet hn hframe ⟨h.frames, h.current, h.size, h.extent⟩
    | exact ⟨h.frames, h.current, h.size, h.extent⟩

end Buffer

theorem mpfRtpDataSend_extent (t : Transmitter) (frame : TxFrame) :
    (mpfRtpDataSend t frame).extent = max t.extent (t.packetSize + frame.codecFrame.length) := by
  unfold mpfRtpDataSend
  dsimp only
  split_ifs <;> rfl

/-- What is collected fits into the buffer exactly if a packet has a frame, or the
frames have no bytes. -/
theorem packet_data_bounded_iff (events : Bool) (settings : UInt16) (t : Transmitter)
    (frameSize : Nat) :
    (∀ frames : List TxFrame, (∀ frame ∈ frames, frame.codecFrame.length ≤ frameSize) →
      (frames.foldl (mpfRtpStreamTransmit events) (mpfRtpTxStreamOpen settings t)).extent ≤
        packetDataSize (mpfRtpTxStreamOpen settings t) frameSize) ↔
      frameSize = 0 ∨ 10 ≤ (mpfRtpTxStreamOpen settings t).ptime.toNat := by
  have hptime := (mpfRtpTxStreamOpen settings t).ptime.toNat_lt
  have hframes : (mpfRtpTxStreamOpen settings t).packetFrames =
      (mpfRtpTxStreamOpen settings t).ptime.toNat / 10 := rfl
  constructor
  · intro h
    have hone := h [⟨mediaFrameTypeAudio, .none, List.replicate frameSize 0⟩] (by simp)
    have hempty : (mpfRtpTxStreamOpen settings t).currentFrames = 0 := rfl
    by_contra hshort
    rw [packetDataSize, hframes, Nat.div_eq_of_lt (by omega)] at hone
    simp [mpfRtpStreamTransmit, mediaFrameTypeAudio, mediaFrameTypeNone, mediaFrameTypeEvent,
      hasFlag, mpfRtpDataSend_extent, packetStart, hempty] at hone
    omega
  · intro hcase frames hbound
    have hopen : Bounded (mpfRtpTxStreamOpen settings t).packetFrames frameSize
        (mpfRtpTxStreamOpen settings t) :=
      ⟨rfl, hcase.imp_right fun h => Nat.div_pos h (by decide), nofun, Nat.zero_le _⟩
    exact (List.foldlRecOn (motive := Bounded _ frameSize) frames _ hopen fun t h frame hmem =>
      h.transmit (by omega) (hbound frame hmem) events).extent

/-- A packet time of 5 ms makes packets without frames. -/
theorem short_ptime_overflows :
    let t := mpfRtpTxStreamOpen 0 { ptime := 5, samplesPerFrame := 80 }
    packetDataSize t 80 = 12 ∧
      ¬ (mpfRtpStreamTransmit false t
        ⟨mediaFrameTypeAudio, .none, List.replicate 80 0⟩).extent ≤ 12 := by
  decide +kernel

/-! ## The packets -/

def RtpPacket.sequence : RtpPacket → UInt16
  | .audio sequence .. => sequence
  | .event sequence .. => sequence

/-- The tick of the last frame that has been sent. -/
def lastTick : List RtpPacket → Option Nat
  | [] => none
  | .audio _ _ _ frames :: _ => frames.getLast?.map (·.1)
  | .event .. :: sent => lastTick sent

/-- A frame with an event and no audio does not come while a packet is collected. -/
def Whole (t : Transmitter) (frame : TxFrame) : Prop :=
  frame.type = mediaFrameTypeNone ∨ hasFlag frame.type mediaFrameTypeAudio = true ∨
    t.currentFrames = 0

instance (t : Transmitter) (frame : TxFrame) : Decidable (Whole t frame) :=
  inferInstanceAs (Decidable (_ ∨ _ ∨ _))

/-- The timestamp of a tick. -/
def tickTime (t : Transmitter) (tick : Nat) : UInt32 :=
  t.timestamp + UInt32.ofNat tick * t.samplesPerFrame

section Packets

variable (frames : List TxFrame) (time : Nat → UInt32)

/-- The audio of a tick. -/
def audioAt (tick : Nat) : Nat × Bytes :=
  (tick, ((frames[tick - 1]?).map (·.codecFrame)).getD [])

/-- No audio has been sent, or there was a tick of inactivity since. -/
def Quiet (last : Option Nat) (first : Nat) : Prop :=
  ∀ l ∈ last, ∃ k, l < k ∧ k < first ∧ ∃ frame ∈ frames[k - 1]?, frame.type = mediaFrameTypeNone

/-- A packet with the frames of `m` ticks from `first` on. -/
structure Assembled (last : Option Nat) (m first : Nat) (marker : Bool) (timestamp : UInt32)
    (data : List (Nat × Bytes)) : Prop where
  data : data = (List.range' first m).map (audioAt frames)
  timestamp : timestamp = time first
  marker : marker = true ↔ Quiet frames last first

/-- Every audio packet has the frames of `n` ticks. -/
def Packetized (n : Nat) : List RtpPacket → Prop
  | [] => True
  | .audio _ marker timestamp data :: sent =>
    (∃ first, Assembled frames time (lastTick sent) n first marker timestamp data) ∧
      Packetized n sent
  | .event .. :: sent => Packetized n sent

/-- The packets that have been sent by the tick `now`. -/
structure Packed (n now : Nat) (t : Transmitter) : Prop where
  tick : t.tick = now
  packetFrames : t.packetFrames = n
  current : t.currentFrames < n
  timestamp : t.timestamp = time now
  samples : ∀ k, time (k + 1) = time k + t.samplesPerFrame
  sent : Packetized frames time n t.sent
  order : t.sent.IsChain (fun p q => p.sequence = q.sequence + 1)
  sequence : ∀ p ∈ t.sent.head?, p.sequence = t.lastSeqNum
  last : ∀ l ∈ lastTick t.sent, l ≤ now

/-- The packet that is collected, up to the tick `next`. -/
def Collecting (next : Nat) (t : Transmitter) : Prop :=
  t.inactivity = false ∧ ∃ first, first + t.currentFrames = next ∧
    Assembled frames time (lastTick t.sent) t.currentFrames first t.headerMarker t.headerTimestamp
      t.packetData

structure Packing (n now next : Nat) (t : Transmitter) : Prop
    extends Packed frames time n now t where
  idle : t.currentFrames = 0 → (t.inactivity = true ↔ Quiet frames (lastTick t.sent) next)
  collecting : t.currentFrames ≠ 0 → Collecting frames time next t

variable {frames time} {n k next : Nat} {t : Transmitter} {frame : TxFrame}

theorem Quiet.succ {last : Option Nat} (h : Quiet frames last k) : Quiet frames last (k + 1) := by
  intro l hl
  obtain ⟨k, hlow, hhigh, hnone⟩ := h l hl
  exact ⟨k, hlow, Nat.lt_succ_of_lt hhigh, hnone⟩

theorem Packing.eventSend (h : Packing frames time n k next t) (frame : TxFrame) :
    Packing frames time n k next (mpfRtpEventSend t frame) ∧
      (mpfRtpEventSend t frame).currentFrames = t.currentFrames := by
  have horder : ∀ p ∈ t.sent.head?, t.lastSeqNum + 1 = p.sequence + 1 :=
    fun p hp => by rw [h.sequence p hp]
  unfold mpfRtpEventSend
  split_ifs
  all_goals
    refine ⟨{ h with order := ?_, sequence := ?_ }, rfl⟩
    · exact List.isChain_cons.mpr ⟨horder, h.order⟩
    · simp [RtpPacket.sequence]

section Tick

variable (hn : n < 2 ^ 16) (hframe : frames[k - 1]? = some frame)
include hframe

/-- A frame that is not sent is no inactivity. -/
theorem Packing.unsent (h : Packing frames time n k k t) (hzero : t.currentFrames = 0)
    (hsome : frame.type ≠ mediaFrameTypeNone) : Packing frames time n k (k + 1) t := by
  refine { h with
    idle := fun _ => (h.idle hzero).trans ⟨Quiet.succ, fun hquiet l hl => ?_⟩
    collecting := fun hne => absurd hzero hne }
  obtain ⟨i, hlow, hhigh, frame', hframe', hnone⟩ := hquiet l hl
  refine ⟨i, hlow, Nat.lt_of_le_of_ne (Nat.le_of_lt_succ hhigh) ?_, frame', hframe', hnone⟩
  rintro rfl
  cases hframe.symm.trans hframe'
  exact hsome hnone

include hn

/-- A frame is added to the packet. -/
theorem Packed.dataSend (h : Packed frames time n k t) (hpacket : Collecting frames time k t) :
    Packing frames time n k (k + 1) (mpfRtpDataSend t frame) := by
  obtain ⟨hactive, first, hfirst, hdata, htime, hmarker⟩ := hpacket
  obtain rfl := h.tick
  have hcurrent := h.current
  have hmore : t.packetData ++ [(t.tick, frame.codecFrame)] =
      (List.range' first (t.currentFrames + 1)).map (audioAt frames) := by
    rw [List.range'_1_concat, List.map_append, hdata, hfirst]
    simp [audioAt, hframe]
  unfold mpfRtpDataSend
  dsimp only
  rw [Nat.mod_eq_of_lt (by omega)]
  split_ifs with hfull
  · -- the packet is full; no tick has passed since its last frame
    refine ⟨{ h with
      current := Nat.zero_lt_of_lt hcurrent, sent := ?_, order := ?_, sequence := ?_, last := ?_ },
      fun _ => ?_, fun hne => absurd rfl hne⟩
    · rw [hmore, hfull, h.packetFrames]
      exact ⟨⟨first, rfl, htime, hmarker⟩, h.sent⟩
    · exact List.isChain_cons.mpr ⟨fun p hp => by rw [h.sequence p hp]; rfl, h.order⟩
    · simp [RtpPacket.sequence]
    · simp [lastTick]
    · simp only [hactive, lastTick, List.getLast?_concat, Option.map_some, Bool.false_eq_true,
        false_iff]
      intro hquiet
      obtain ⟨i, hlow, hhigh, -⟩ := hquiet t.tick rfl
      omega
  · refine ⟨{ h with current := ?_ }, fun hzero => ?_, fun _ => ?_⟩
    · have := h.packetFrames
      dsimp only
      omega
    · cases hzero
    · exact ⟨hactive, first, by dsimp only; omega, hmore, htime, hmarker⟩

theorem Packing.audio (h : Packing frames time n k k t) :
    Packing frames time n k (k + 1) (mpfRtpDataSend (packetStart t) frame) := by
  unfold packetStart
  split_ifs with hzero
  · refine Packed.dataSend hn hframe ?_ ?_
    · exact { h with }
    · exact ⟨rfl, k, by simp [hzero], by simp [hzero], h.timestamp, h.idle hzero⟩
  · exact h.dataSend hn hframe (h.collecting hzero)

end Tick

theorem Packing.transmit (h : Packing frames time n k (k + 1) t) (hn : n < 2 ^ 16)
    (hframe : frames[k]? = some frame) (hwhole : Whole t frame) (events : Bool) :
    Packing frames time n (k + 1) (k + 2) (mpfRtpStreamTransmit events t frame) := by
  have hticked : Packing frames time n (k + 1) (k + 1)
      { t with timestamp := t.timestamp + t.samplesPerFrame, tick := t.tick + 1 } :=
    { h with
      tick := congrArg (· + 1) h.tick
      timestamp := by rw [h.samples, h.timestamp]
      last := fun l hl => Nat.le_succ_of_le (h.last l hl) }
  obtain ⟨hsent, hcurrent⟩ := hticked.eventSend frame
  unfold mpfRtpStreamTransmit
  dsimp only
  split_ifs with hnone hquiet hzero haudio hevent hevent
  · exact { hticked with
      idle := fun hzero => iff_of_true hquiet ((h.idle hzero).mp hquiet).succ
      collecting := fun hne => absurd hquiet (by simp [(h.collecting hne).1]) }
  · exact { hticked with
      idle := fun _ => iff_of_true rfl fun l hl =>
        ⟨k + 1, Nat.lt_succ_of_le (h.last l hl), Nat.lt_succ_self _, frame, hframe, hnone⟩
      collecting := fun hne => absurd hzero hne }
  · exact hticked.dataSend hn hframe (h.collecting hzero)
  · exact hsent.audio hn hframe
  · exact hticked.audio hn hframe
  · exact hsent.unsent hframe
      (hcurrent.trans ((hwhole.resolve_left hnone).resolve_left haudio)) hnone
  · exact hticked.unsent hframe ((hwhole.resolve_left hnone).resolve_left haudio) hnone

theorem Packing.run (hn : n < 2 ^ 16) (events : Bool) (rest done : List TxFrame)
    (hframes : done ++ rest = frames)
    (h : Packing frames time n done.length (done.length + 1) t)
    (hwhole : Runs.Along (fun t frame => some (mpfRtpStreamTransmit events t frame)) Whole t rest) :
    ∃ now next, Packing frames time n now next (rest.foldl (mpfRtpStreamTransmit events) t) := by
  induction rest generalizing done t with
  | nil => exact ⟨_, _, h⟩
  | cons frame rest ih =>
    obtain ⟨hfirst, hrest⟩ := hwhole _ rfl
    have hnext := h.transmit hn (by simp [← hframes]) hfirst events
    exact ih (done ++ [frame]) (by simp [hframes]) (by simpa using hnext) hrest

end Packets

/-- Where no event comes alone while a packet is collected, every audio packet has
the frames of `packet_frames` ticks and the timestamp of the first, the marker
tells that there was inactivity before it, and the sequence numbers are
consecutive. -/
theorem packets_whole (events : Bool) (settings : UInt16) (t : Transmitter) (frames : List TxFrame)
    (hptime : (mpfRtpTxStreamOpen settings t).ptime.toNat % 10 = 0)
    (hwhole : Runs.Along (fun t frame => some (mpfRtpStreamTransmit events t frame)) Whole
      (mpfRtpTxStreamOpen settings t) frames) :
    let sent := (frames.foldl (mpfRtpStreamTransmit events) (mpfRtpTxStreamOpen settings t)).sent
    Packetized frames (tickTime t) ((mpfRtpTxStreamOpen settings t).ptime.toNat / 10) sent ∧
      sent.IsChain (fun p q => p.sequence = q.sequence + 1) := by
  have hpos : 0 < (mpfRtpTxStreamOpen settings t).ptime.toNat := by
    refine UInt16.pos_iff_ne_zero.mpr ?_
    unfold mpfRtpTxStreamOpen
    dsimp only
    split_ifs with hown hset
    · exact hown
    · exact hset
    · decide
  have hlt := (mpfRtpTxStreamOpen settings t).ptime.toNat_lt
  have hopen : Packing frames (tickTime t) ((mpfRtpTxStreamOpen settings t).ptime.toNat / 10) 0 1
      (mpfRtpTxStreamOpen settings t) := by
    refine ⟨⟨rfl, rfl, ?_, ?_, fun k => ?_, trivial, .nil, nofun, nofun⟩, fun _ => ?_, nofun⟩
    · exact Nat.div_pos (by omega) (by decide)
    · simp [tickTime, mpfRtpTxStreamOpen]
    · show tickTime t (k + 1) = tickTime t k + t.samplesPerFrame
      simp only [tickTime, UInt32.ofNat_add]
      grind
    · exact iff_of_true rfl nofun
  obtain ⟨now, next, h⟩ := hopen.run (by omega) events frames [] (List.nil_append _) hwhole
  exact ⟨h.sent, h.order⟩

/-- A frame, and silence that fills up its packet. -/
theorem packets_whole_silence :
    let frames : List TxFrame :=
      [⟨mediaFrameTypeAudio, .none, [1]⟩, ⟨mediaFrameTypeNone, .none, []⟩]
    let sent := (frames.foldl (mpfRtpStreamTransmit false)
      (mpfRtpTxStreamOpen 20 { samplesPerFrame := 80 })).sent
    Packetized frames (tickTime { samplesPerFrame := 80 }) 2 sent ∧
      sent.IsChain (fun p q => p.sequence = q.sequence + 1) :=
  packets_whole false 20 { samplesPerFrame := 80 } _ (by decide) (by decide)

/-- An event between two frames: their packet has no frame for its tick. -/
theorem event_splits_packet :
    let frames : List TxFrame := [⟨mediaFrameTypeAudio, .none, [1]⟩,
      ⟨mediaFrameTypeEvent, .startOfEvent, []⟩, ⟨mediaFrameTypeAudio, .none, [2]⟩]
    ¬ Packetized frames (tickTime { samplesPerFrame := 80 }) 2
      (frames.foldl (mpfRtpStreamTransmit true)
        (mpfRtpTxStreamOpen 20 { samplesPerFrame := 80 })).sent := by
  intro frames hpackets
  have hsent : (frames.foldl (mpfRtpStreamTransmit true)
      (mpfRtpTxStreamOpen 20 { samplesPerFrame := 80 })).sent =
      [.audio 2 true 80 [(1, [1]), (3, [2])], .event 1 true 160 false] := by decide +kernel
  rw [hsent] at hpackets
  obtain ⟨⟨first, hdata, -, -⟩, -⟩ := hpackets
  simp [audioAt, List.range'] at hdata
  omega

end UniMrcp.Mpf
