import UniMrcp.Mpf.JitterWindow

/-!
# The slots of the jitter buffer

What a jitter buffer without adaptation and skew detection is for: the packets
of a stream are numbered by frames from the first one, and each carries frames
for the slots from its number on.  A read returns the frame of its slot, where
the slot 0 is read the playout delay behind the first packet.  `streamAnswers`
says so in terms of the calls made before, and `slots_delivered` shows that the
buffer answers in this way as long as every packet lies inside the window, or is
late as a whole.

A packet in front of the first one can have a position below zero.  The position
is unsigned, so such a packet is taken for one far ahead, the count of available
slots underflows, and the packet takes the slot of another one:
`packet_before_first_replaces`.
-/

namespace UniMrcp.Mpf

open UniMrcp.Lib.Traces

/-! ## The stream -/

/-- A packet, numbered by frames from the first packet. -/
structure Packet (β : Type) where
  number : Int
  payload : List β

inductive StreamCall (β : Type) where
  | packet (packet : Packet β)
  | read

section

variable {β : Type}

/-- The number of frames of a packet. -/
def Packet.count (size : Nat) (packet : Packet β) : Nat := packet.payload.length / size

/-- The frame that a packet carries for a slot. -/
def Packet.carried (size : Nat) (packet : Packet β) (slot : Int) : Option (List β) :=
  if packet.number ≤ slot ∧ slot < packet.number + packet.count size then
    some (frameOf size packet.payload (slot - packet.number).toNat)
  else none

/-- The frame for a slot from the calls so far: that of the last packet that
carries one. -/
def carriedFor (size : Nat) (slot : Int) : List (StreamCall β) → Option (List β)
  | [] => none
  | .packet packet :: calls => (carriedFor size slot calls).or (packet.carried size slot)
  | .read :: calls => carriedFor size slot calls

def readCount : List (StreamCall β) → Nat
  | [] => 0
  | .packet _ :: calls => readCount calls
  | .read :: calls => readCount calls + 1

/-- The slot of the next read. -/
def nextSlot (delay : Nat) (log : List (StreamCall β)) : Int := readCount log - delay

/-- The answer to a call behind the calls of the log. -/
def streamAnswer (size delay : Nat) (log : List (StreamCall β)) : StreamCall β → JbOutput β
  | .packet packet =>
    .result (if packet.number < nextSlot delay log then .discardTooLate else .ok)
  | .read => .frame ⟨carriedFor size (nextSlot delay log) log, none, .none⟩

/-- The answers to the calls behind those of the log. -/
def streamAnswers (size delay : Nat) :
    List (StreamCall β) → List (StreamCall β) → List (JbOutput β)
  | _, [] => []
  | log, call :: calls =>
    streamAnswer size delay log call :: streamAnswers size delay (log ++ [call]) calls

/-- The stream as a system: its state is the log of the calls. -/
def streamStep (size delay : Nat) (log : List (StreamCall β)) (call : StreamCall β) :
    Option (List (StreamCall β) × JbOutput β) :=
  some (log ++ [call], streamAnswer size delay log call)

theorem run_streamStep (size delay : Nat) (calls log : List (StreamCall β)) :
    run (streamStep size delay) log calls =
      some (log ++ calls, streamAnswers size delay log calls) := by
  induction calls generalizing log with
  | nil => simp [run, streamAnswers]
  | cons call calls ih => simp [run, streamStep, streamAnswers, ih]

theorem carriedFor_append (size : Nat) (slot : Int) (log calls : List (StreamCall β)) :
    carriedFor size slot (log ++ calls) =
      (carriedFor size slot calls).or (carriedFor size slot log) := by
  induction log with
  | nil => simp [carriedFor]
  | cons call log ih =>
    cases call with
    | packet packet => simp [carriedFor, ih, Option.or_assoc]
    | read => exact ih

theorem readCount_append (log calls : List (StreamCall β)) :
    readCount (log ++ calls) = readCount log + readCount calls := by
  induction log with
  | nil => simp [readCount]
  | cons call log ih =>
    cases call with
    | packet packet => exact ih
    | read =>
      simp only [List.cons_append, readCount]
      omega

/-- The packet of a call carries nothing for a slot for which the packet of the
other one does. -/
def Apart (size : Nat) : StreamCall β → StreamCall β → Prop
  | .packet packet, .packet packet' =>
    ∀ slot, packet.carried size slot = none ∨ packet'.carried size slot = none
  | _, _ => True

variable {size : Nat} {slot : Int} {bytes : List β} {log : List (StreamCall β)}

/-- The frame for a slot is one that some packet carries. -/
theorem carriedFor_mem (h : carriedFor size slot log = some bytes) :
    ∃ packet, .packet packet ∈ log ∧ packet.carried size slot = some bytes := by
  induction log with
  | nil => exact nomatch h
  | cons call log ih =>
    cases call with
    | read =>
      obtain ⟨packet, hmem, hcarried⟩ := ih h
      exact ⟨packet, List.mem_cons_of_mem _ hmem, hcarried⟩
    | packet first =>
      rcases Option.or_eq_some_iff.mp h with h | ⟨-, h⟩
      · obtain ⟨packet, hmem, hcarried⟩ := ih h
        exact ⟨packet, List.mem_cons_of_mem _ hmem, hcarried⟩
      · exact ⟨first, List.mem_cons_self, h⟩

/-- Where no two packets carry frames for the same slot, the order of the
packets does not matter. -/
theorem carriedFor_iff (hapart : log.Pairwise (Apart size)) :
    carriedFor size slot log = some bytes ↔
      ∃ packet, .packet packet ∈ log ∧ packet.carried size slot = some bytes := by
  refine ⟨carriedFor_mem, ?_⟩
  rintro ⟨packet, hmem, hcarried⟩
  induction log with
  | nil => exact nomatch hmem
  | cons call log ih =>
    obtain ⟨hfirst, hrest⟩ := List.pairwise_cons.mp hapart
    rcases List.mem_cons.mp hmem with rfl | hmem
    · -- the packets behind it carry nothing for the slot
      have hnone : carriedFor size slot log = none := by
        cases hfor : carriedFor size slot log with
        | none => rfl
        | some other =>
          obtain ⟨packet', hmem', hcarried'⟩ := carriedFor_mem hfor
          rcases hfirst _ hmem' slot with h | h
          · rw [hcarried] at h
            exact nomatch h
          · rw [hcarried'] at h
            exact nomatch h
      simp only [carriedFor, hnone, Option.none_or, hcarried]
    · have hfor := ih hrest hmem
      cases call with
      | packet first => simp only [carriedFor, hfor, Option.some_or]
      | read => exact hfor

end

/-! ## The stream in the buffer -/

/-- How a stream lies in a buffer: there were `idle` reads before the first
packet, whose timestamp is `origin`. -/
structure Layout where
  format : FrameFormat
  capacity : Nat
  delayTs : UInt32
  idle : Nat
  origin : UInt32

section

variable {β : Type} (layout : Layout)

/-- The playout delay in frames. -/
def Layout.delay : Nat := layout.delayTs.toNat / layout.format.frameTs.toNat

/-- The position of a slot. -/
def Layout.position (slot : Int) : Int := layout.idle + layout.delay + slot

/-- The position of the next read. -/
def Layout.reading (log : List (StreamCall β)) : Nat := layout.idle + readCount log

/-- The call of the buffer. -/
def Layout.encode : StreamCall β → JbInput β
  | .packet packet => .write packet.payload
      (layout.origin + UInt32.ofInt (packet.number * layout.format.frameTs.toNat)) false
  | .read => .read

/-- A packet starts at a position that is not negative and inside the window; it
ends before the window, where it is late as a whole, or lies inside; and its
timestamps do not wrap around. -/
def PacketFits (log : List (StreamCall β)) (packet : Packet β) : Prop :=
  0 ≤ layout.position packet.number ∧
    layout.position packet.number < layout.reading log + layout.capacity ∧
    (layout.position packet.number + packet.count layout.format.frameSize ≤ layout.reading log ∨
      layout.reading log ≤ layout.position packet.number ∧
      layout.position packet.number + packet.count layout.format.frameSize ≤
        layout.reading log + layout.capacity) ∧
    (layout.position packet.number + packet.count layout.format.frameSize + 1) *
      layout.format.frameTs.toNat ≤ 2 ^ 32

/-- The timestamp of the next read does not wrap around. -/
def ReadFits (log : List (StreamCall β)) : Prop :=
  (layout.reading log + 1) * layout.format.frameTs.toNat < 2 ^ 32

def CallFits (log : List (StreamCall β)) : StreamCall β → Prop
  | .packet packet => PacketFits layout log packet
  | .read => ReadFits layout log

instance (log : List (StreamCall β)) (call : StreamCall β) : Decidable (CallFits layout log call) :=
  match call with
  | .packet _ => inferInstanceAs (Decidable (_ ∧ _ ∧ (_ ∨ _ ∧ _) ∧ _))
  | .read => inferInstanceAs (Decidable (_ < _))

/-- The frame that the stream has for a position. -/
def Layout.held (log : List (StreamCall β)) (position : Nat) : Option (List β) :=
  carriedFor layout.format.frameSize (position - (layout.idle + layout.delay)) log

/-- The buffer behind the calls of the log: the slots of the window hold the
frames of the stream, and the write position is behind them. -/
structure Delivers (jb : JitterBuffer β) (log : List (StreamCall β)) : Prop where
  adaptive : jb.config.adaptive = false
  skew : jb.config.timeSkewDetection = false
  format : jb.format = layout.format
  length : jb.frames.length = layout.capacity
  playoutDelayTs : jb.playoutDelayTs = layout.delayTs
  writeSync : jb.writeSync = false
  writeTsOffset : jb.writeTsOffset =
    layout.origin - UInt32.ofNat (layout.idle * layout.format.frameTs.toNat)
  readTs : jb.readTs.toNat = layout.reading log * layout.format.frameTs.toNat
  slots : ∀ s, layout.reading log ≤ s → s < layout.reading log + layout.capacity →
    slotAt jb.frames s = ⟨layout.held log s, none, .none⟩
  written : ∀ s, layout.reading log ≤ s → layout.held log s ≠ none →
    s * layout.format.frameTs.toNat < jb.writeTs.toNat
  beyond : ∀ s, layout.reading log + layout.capacity ≤ s → layout.held log s = none

variable {layout} {jb : JitterBuffer β} {log : List (StreamCall β)} {packet : Packet β} {p : Nat}

theorem ofInt_natCast (n : Nat) : UInt32.ofInt n = UInt32.ofNat n := by
  apply UInt32.toNat_inj.mp
  simp only [UInt32.ofInt, UInt32.toNat_ofNat']
  omega

/-- The write position of a packet. -/
theorem toNat_writePosition (h : Delivers layout jb log) {number : Int}
    (hp : layout.position number = p) (hend : (p + 1) * layout.format.frameTs.toNat ≤ 2 ^ 32) :
    (frameAllign jb (writePosition jb
      (layout.origin + UInt32.ofInt (number * layout.format.frameTs.toNat)))).toNat =
      p * layout.format.frameTs.toNat := by
  have hframe := layout.format.frameTs_pos
  have hdelay := Nat.div_add_mod layout.delayTs.toNat layout.format.frameTs.toNat
  have hrest := Nat.mod_lt layout.delayTs.toNat hframe
  have hsum : number * layout.format.frameTs.toNat +
      (layout.idle * layout.format.frameTs.toNat : Nat) + (layout.delayTs.toNat : Int) =
      (p * layout.format.frameTs.toNat + layout.delayTs.toNat % layout.format.frameTs.toNat
        : Nat) := by
    unfold Layout.position Layout.delay at hp
    rw [← hdelay]
    push_cast
    rw [← hp]
    grind
  have hposition : writePosition jb
      (layout.origin + UInt32.ofInt (number * layout.format.frameTs.toNat)) =
      UInt32.ofNat (p * layout.format.frameTs.toNat +
        layout.delayTs.toNat % layout.format.frameTs.toNat) := by
    rw [← ofInt_natCast, ← hsum, UInt32.ofInt_add, UInt32.ofInt_add, ofInt_natCast, ofInt_natCast,
      UInt32.ofNat_toNat]
    unfold writePosition
    rw [h.writeTsOffset, h.playoutDelayTs]
    grind
  have hsmall : p * layout.format.frameTs.toNat +
      layout.delayTs.toNat % layout.format.frameTs.toNat < 2 ^ 32 := by
    rw [Nat.succ_mul] at hend
    omega
  unfold frameAllign
  rw [hposition, h.format, UInt32.toNat_sub_of_le, UInt32.toNat_mod,
    UInt32.toNat_ofNat_of_lt' hsmall, Nat.mul_add_mod', Nat.mod_mod,
    Nat.add_sub_cancel]
  rw [UInt32.le_iff_toNat_le]
  exact Nat.mod_le _ _

theorem held_packet (hp : layout.position packet.number = p) (s : Nat) :
    layout.held (log ++ [.packet packet]) s =
      if p ≤ s ∧ s < p + packet.count layout.format.frameSize then
        some (frameOf layout.format.frameSize packet.payload (s - p))
      else layout.held log s := by
  unfold Layout.position at hp
  unfold Layout.held
  rw [carriedFor_append]
  simp only [carriedFor, Packet.carried, Option.none_or]
  by_cases hin : p ≤ s ∧ s < p + packet.count layout.format.frameSize
  · rw [if_pos hin, if_pos (by omega), Option.some_or]
    congr 2
    omega
  · rw [if_neg hin, if_neg (by omega), Option.none_or]

section

variable (log)

theorem held_read (s : Nat) : layout.held (log ++ [.read]) s = layout.held log s := by
  unfold Layout.held
  rw [carriedFor_append]
  rfl

theorem reading_packet (packet : Packet β) :
    layout.reading (log ++ [.packet packet]) = layout.reading log := by
  unfold Layout.reading
  rw [readCount_append]
  rfl

theorem reading_read : layout.reading (log ++ [.read]) = layout.reading log + 1 := by
  unfold Layout.reading
  rw [readCount_append]
  rfl

end

theorem nextSlot_iff {number : Int} (hp : layout.position number = p) :
    number < nextSlot layout.delay log ↔ p < layout.reading log := by
  unfold Layout.position at hp
  unfold nextSlot Layout.reading
  omega

/-- A packet that is late as a whole changes nothing. -/
theorem Delivers.late (h : Delivers layout jb log) (hp : layout.position packet.number = p)
    (hlate : p + packet.count layout.format.frameSize ≤ layout.reading log) :
    Delivers layout jb (log ++ [.packet packet]) := by
  have hheld : ∀ s, layout.reading log ≤ s →
      layout.held (log ++ [.packet packet]) s = layout.held log s := by
    intro s hs
    rw [held_packet hp, if_neg (by omega)]
  refine { h with readTs := ?_, slots := ?_, written := ?_, beyond := ?_ }
  · rw [reading_packet]
    exact h.readTs
  · intro s hs hs'
    rw [reading_packet] at hs hs'
    rw [hheld s hs]
    exact h.slots s hs hs'
  · intro s hs hsome
    rw [reading_packet] at hs
    rw [hheld s hs] at hsome
    exact h.written s hs hsome
  · intro s hs
    rw [reading_packet] at hs
    rw [hheld s (by omega)]
    exact h.beyond s hs

theorem le_writeAdvance (jb : JitterBuffer β) (writeTs : UInt32) :
    jb.writeTs.toNat ≤ (writeAdvance jb writeTs).writeTs.toNat ∧
      writeTs.toNat ≤ (writeAdvance jb writeTs).writeTs.toNat := by
  unfold writeAdvance
  split
  · rename_i hgt
    exact ⟨Nat.le_of_lt (UInt32.lt_iff_toNat_lt.mp hgt), Nat.le_refl _⟩
  · rename_i hle
    exact ⟨Nat.le_refl _, UInt32.le_iff_toNat_le.mp (UInt32.not_lt.mp hle)⟩

/-- A packet inside the window fills its slots. -/
theorem Delivers.fill (h : Delivers layout jb log) (hp : layout.position packet.number = p)
    (hend : p + packet.count layout.format.frameSize ≤ layout.reading log + layout.capacity)
    {frames' : List (MediaFrame β)} {writeTs' : UInt32}
    (hts : writeTs'.toNat =
      (p + packet.count layout.format.frameSize) * layout.format.frameTs.toNat)
    (hwritten : Written jb.frames frames' (layout.reading log) p
      (packet.count layout.format.frameSize) (frameOf layout.format.frameSize packet.payload)) :
    Delivers layout (writeAdvance { jb with frames := frames' } writeTs')
      (log ++ [.packet packet]) := by
  have hframe := layout.format.frameTs_pos
  obtain ⟨hold, hnew⟩ := le_writeAdvance { jb with frames := frames' } writeTs'
  obtain ⟨writeTs'', heq⟩ : ∃ writeTs'', writeAdvance { jb with frames := frames' } writeTs' =
      { jb with frames := frames', writeTs := writeTs'' } := by
    unfold writeAdvance
    split <;> exact ⟨_, rfl⟩
  rw [heq] at hold hnew ⊢
  refine { h with
    length := hwritten.length.trans h.length, readTs := ?_, slots := ?_, written := ?_,
    beyond := ?_ }
  · rw [reading_packet]
    exact h.readTs
  · intro s hs hs'
    rw [reading_packet] at hs hs'
    have hslot := hwritten.slots s hs (by rw [h.length]; exact hs')
    rw [hslot, h.slots s hs hs', held_packet hp]
    split <;> rfl
  · intro s hs hsome
    rw [reading_packet] at hs
    rw [held_packet hp] at hsome
    by_cases hin : p ≤ s ∧ s < p + packet.count layout.format.frameSize
    · refine Nat.lt_of_lt_of_le ?_ hnew
      rw [hts]
      exact Nat.mul_lt_mul_of_pos_right hin.2 hframe
    · rw [if_neg hin] at hsome
      exact Nat.lt_of_lt_of_le (h.written s hs hsome) hold
  · intro s hs
    rw [reading_packet] at hs
    rw [held_packet hp, if_neg (by omega)]
    exact h.beyond s hs

/-! ## The calls -/

/-- Without adaptation and skew detection, a packet behind the read position is
discarded. -/
theorem write_plain (hsync : jb.writeSync = false) (hadaptive : jb.config.adaptive = false)
    (hskew : jb.config.timeSkewDetection = false) (buffer : List β) (ts : UInt32) :
    mpfJitterBufferWrite jb buffer ts false =
      if jb.readTs ≤ frameAllign jb (writePosition jb ts) then
        writeFrames jb buffer (frameAllign jb (writePosition jb ts))
      else some (jb, .discardTooLate) := by
  have hsame : writeSynchronize jb ts = jb := by
    simp [writeSynchronize, hsync]
  have hprepare : mpfJitterBufferWritePrepare jb ts =
      (jb, frameAllign jb (writePosition jb ts)) := by
    unfold mpfJitterBufferWritePrepare
    rw [hsame]
  unfold mpfJitterBufferWrite
  simp only [Bool.false_and, Bool.false_eq_true, if_false, hprepare, hskew]
  generalize frameAllign jb (writePosition jb ts) = writeTs
  by_cases hin : jb.readTs ≤ writeTs
  · rw [if_pos hin, if_pos hin]
  · rw [if_neg hin]
    split
    · rfl
    · have hdelta : jb.readTs - writeTs ≠ 0 := by
        intro hzero
        have heq : jb.readTs = writeTs := by grind
        exact hin (UInt32.le_of_eq heq)
      simp [lateAdjust, if_pos hdelta, hadaptive]

theorem packet_delivers (h : Delivers layout jb log) (hcapacity : layout.capacity < 2 ^ 32)
    (hfits : PacketFits layout log packet) :
    ∃ jb', mpfJitterBufferWrite jb packet.payload
        (layout.origin + UInt32.ofInt (packet.number * layout.format.frameTs.toNat)) false =
        some (jb', if packet.number < nextSlot layout.delay log then .discardTooLate else .ok) ∧
      Delivers layout jb' (log ++ [.packet packet]) := by
  obtain ⟨hnonneg, hstart, hplace, hwrap⟩ := hfits
  obtain ⟨p, hp⟩ := Int.eq_ofNat_of_zero_le hnonneg
  rw [hp] at hstart hplace hwrap
  have hframe := layout.format.frameTs_pos
  have hwrap : (p + packet.count layout.format.frameSize + 1) * layout.format.frameTs.toNat ≤
      2 ^ 32 := by exact_mod_cast hwrap
  have hbelow : (p + packet.count layout.format.frameSize) * layout.format.frameTs.toNat <
      2 ^ 32 := by
    rw [Nat.succ_mul] at hwrap
    omega
  have hts := toNat_writePosition h hp
    (Nat.le_trans (Nat.mul_le_mul_right _ (by omega)) hwrap)
  rw [write_plain h.writeSync h.adaptive h.skew]
  by_cases hlate : p < layout.reading log
  · rw [if_pos ((nextSlot_iff hp).mpr hlate), if_neg]
    · exact ⟨jb, rfl, h.late hp (by omega)⟩
    · rw [UInt32.le_iff_toNat_le, hts, h.readTs]
      exact Nat.not_le.mpr (Nat.mul_lt_mul_of_pos_right hlate hframe)
  · rw [if_neg (fun hlt => hlate ((nextSlot_iff hp).mp hlt)), if_pos]
    · have hcount : min (layout.reading log + jb.frames.length - p)
          (packet.payload.length / jb.format.frameSize) =
          packet.count layout.format.frameSize := by
        rw [h.format, h.length]
        show min _ (packet.count layout.format.frameSize) = _
        omega
      obtain ⟨frames', writeTs', hframes, hts', hwritten⟩ :=
        writeFrames_spec jb packet.payload (by rw [h.length]; exact hcapacity)
          (by rw [h.format]; exact h.readTs) (by rw [h.format]; exact hts) (by omega)
          (by rw [h.length]; omega) (by rw [hcount, h.format]; exact hbelow)
      rw [hcount, h.format] at hts'
      rw [hcount, h.format] at hwritten
      exact ⟨_, hframes, h.fill hp (by omega) hts' hwritten⟩
    · rw [UInt32.le_iff_toNat_le, hts, h.readTs]
      exact Nat.mul_le_mul_right _ (by omega)

theorem read_delivers (h : Delivers layout jb log) (hcapacity : 0 < layout.capacity)
    (hfits : ReadFits layout log) :
    ∃ jb', mpfJitterBufferRead jb =
        some (jb', ⟨carriedFor layout.format.frameSize (nextSlot layout.delay log) log, none,
          .none⟩) ∧
      Delivers layout jb' (log ++ [.read]) := by
  have hslot : carriedFor layout.format.frameSize (nextSlot layout.delay log) log =
      layout.held log (layout.reading log) := by
    unfold nextSlot Layout.reading
    congr 1
    omega
  obtain ⟨jb', hread, hat⟩ := read_spec jb
    (by rw [h.length]; exact hcapacity) (by rw [h.format]; exact h.readTs)
    (by rw [h.format]; exact hfits)
  refine ⟨jb', ?_, ?_⟩
  · rw [hread, hslot]
    split
    · rw [h.slots _ (Nat.le_refl _) (by omega)]
    · rename_i hempty
      -- nothing was written behind the read position
      cases hheld : layout.held log (layout.reading log) with
      | none => rfl
      | some bytes =>
        have hbehind := h.written _ (Nat.le_refl _) (by rw [hheld]; exact nofun)
        rw [← h.readTs] at hbehind
        exact absurd (UInt32.lt_iff_toNat_lt.mpr hbehind) hempty
  · refine ⟨by rw [hat.config]; exact h.adaptive, by rw [hat.config]; exact h.skew,
      hat.format.trans h.format, hat.length.trans h.length,
      hat.playoutDelayTs.trans h.playoutDelayTs, hat.writeSync.trans h.writeSync,
      hat.writeTsOffset.trans h.writeTsOffset, ?_, ?_, ?_, ?_⟩
    · rw [reading_read, hat.readTs, h.format]
    · intro s hs hs'
      rw [reading_read] at hs hs'
      rw [held_read]
      by_cases hlast : s = layout.reading log + layout.capacity
      · have hfreed := hat.freed
        rw [h.length, ← hlast] at hfreed
        rw [hfreed, h.beyond s (by omega)]
        rfl
      · rw [hat.slots s hs (by rw [h.length]; omega), h.slots s (by omega) (by omega)]
    · intro s hs hsome
      rw [reading_read] at hs
      rw [held_read] at hsome
      rw [hat.writeTs]
      exact h.written s (by omega) hsome
    · intro s hs
      rw [reading_read] at hs
      rw [held_read]
      exact h.beyond s (by omega)

/-- A call that fits is answered as the stream answers it. -/
theorem call_delivers (hcapacity : 0 < layout.capacity) (hcapacity' : layout.capacity < 2 ^ 32)
    (jb : JitterBuffer β) (log : List (StreamCall β)) (call : StreamCall β)
    (h : Delivers layout jb log) (hfits : CallFits layout log call) :
    Alike (Delivers layout) (jbStep jb (layout.encode call))
      (streamStep layout.format.frameSize layout.delay log call) := by
  cases call with
  | packet packet =>
    obtain ⟨jb', hwrite, hdelivers⟩ := packet_delivers h hcapacity' hfits
    simp only [Layout.encode, jbStep, hwrite]
    exact .some ⟨hdelivers, rfl⟩
  | read =>
    obtain ⟨jb', hread, hdelivers⟩ := read_delivers h hcapacity hfits
    simp only [jbStep, hread]
    exact .some ⟨hdelivers, rfl⟩

/-! ## The start of the stream -/

variable (layout) in
/-- The buffer behind `r` reads, before the first packet. -/
structure Idle (jb : JitterBuffer β) (r : Nat) : Prop where
  adaptive : jb.config.adaptive = false
  skew : jb.config.timeSkewDetection = false
  format : jb.format = layout.format
  length : jb.frames.length = layout.capacity
  playoutDelayTs : jb.playoutDelayTs = layout.delayTs
  writeSync : jb.writeSync = true
  writeTs : jb.writeTs = 0
  readTs : jb.readTs.toNat = r * layout.format.frameTs.toNat
  empty : ∀ s, r ≤ s → s < r + layout.capacity → slotAt jb.frames s = .empty

theorem Idle.read {r : Nat} (h : Idle layout jb r) (hcapacity : 0 < layout.capacity)
    (hend : (r + 1) * layout.format.frameTs.toNat < 2 ^ 32) :
    ∃ jb', mpfJitterBufferRead jb = some (jb', .empty) ∧ Idle layout jb' (r + 1) := by
  obtain ⟨jb', hread, hat⟩ := read_spec jb (by rw [h.length]; exact hcapacity)
    (by rw [h.format]; exact h.readTs) (by rw [h.format]; exact hend)
  refine ⟨jb', ?_, by rw [hat.config]; exact h.adaptive, by rw [hat.config]; exact h.skew,
    hat.format.trans h.format, hat.length.trans h.length,
    hat.playoutDelayTs.trans h.playoutDelayTs, hat.writeSync.trans h.writeSync,
    hat.writeTs.trans h.writeTs, by rw [hat.readTs, h.format], ?_⟩
  · rw [hread, h.empty r (Nat.le_refl _) (by omega), ite_self]
  · intro s hs hs'
    by_cases hlast : s = r + layout.capacity
    · rw [hlast, ← h.length]
      exact hat.freed
    · rw [hat.slots s hs (by rw [h.length]; omega)]
      exact h.empty s (by omega) (by omega)

theorem Idle.reads (count : Nat) {r : Nat} (h : Idle layout jb r) (hcapacity : 0 < layout.capacity)
    (hend : (r + count) * layout.format.frameTs.toNat < 2 ^ 32) :
    ∃ jb', run jbStep jb (List.replicate count .read) =
        some (jb', List.replicate count (.frame .empty)) ∧
      Idle layout jb' (r + count) := by
  induction count generalizing jb r with
  | zero => exact ⟨jb, rfl, h⟩
  | succ count ih =>
    obtain ⟨jb', hread, hidle⟩ := h.read hcapacity
      (Nat.lt_of_le_of_lt (Nat.mul_le_mul_right _ (by omega)) hend)
    have hsum : r + 1 + count = r + (count + 1) := by omega
    obtain ⟨jb'', hrun, hidle'⟩ := ih hidle (by rw [hsum]; exact hend)
    refine ⟨jb'', ?_, hsum ▸ hidle'⟩
    simp [List.replicate_succ, run, jbStep, hread, hrun]

/-- The first write synchronizes the buffer. -/
theorem write_synchronize (jb : JitterBuffer β) (buffer : List β) (ts : UInt32) :
    mpfJitterBufferWrite jb buffer ts false =
      mpfJitterBufferWrite (writeSynchronize jb ts) buffer ts false := by
  have hsync : (writeSynchronize jb ts).writeSync = false := by
    simp only [writeSynchronize]
    split
    · split <;> rfl
    · rename_i h
      simpa using h
  have hagain : writeSynchronize (writeSynchronize jb ts) ts = writeSynchronize jb ts := by
    generalize writeSynchronize jb ts = synced at hsync
    simp [writeSynchronize, hsync]
  unfold mpfJitterBufferWrite mpfJitterBufferWritePrepare
  simp [hagain]

theorem Idle.synchronize (h : Idle layout jb layout.idle) :
    Delivers layout (writeSynchronize jb layout.origin) [] := by
  have hread : UInt32.ofNat (layout.idle * layout.format.frameTs.toNat) = jb.readTs := by
    rw [← h.readTs, UInt32.ofNat_toNat]
  have heq : writeSynchronize jb layout.origin =
      { jb with writeTsOffset := layout.origin - jb.readTs, writeSync := false } := by
    simp [writeSynchronize, h.writeSync, h.skew]
  rw [heq]
  refine ⟨h.adaptive, h.skew, h.format, h.length, h.playoutDelayTs, rfl, ?_, h.readTs, ?_, ?_, ?_⟩
  · show layout.origin - jb.readTs = _
    rw [hread]
  · intro s hs hs'
    exact h.empty s hs hs'
  · intro s hs hsome
    exact absurd rfl hsome
  · intro s hs
    rfl

end

/-- A new buffer without adaptation and skew detection. -/
def plainBuffer (β : Type) (least initial most : UInt32) (format : FrameFormat) : JitterBuffer β :=
  mpfJitterBufferCreate β (some ⟨least, initial, most, false, false⟩) format

def JitterBuffer.layout {β : Type} (jb : JitterBuffer β) (idle : Nat) (origin : UInt32) : Layout :=
  ⟨jb.format, jb.frames.length, jb.playoutDelayTs, idle, origin⟩

section

variable {β : Type}

theorem jbConfigAllign_flags (config : JbConfig) :
    (jbConfigAllign config).adaptive = config.adaptive ∧
      (jbConfigAllign config).timeSkewDetection = config.timeSkewDetection := by
  unfold jbConfigAllign
  split <;> exact ⟨rfl, rfl⟩

theorem jbConfigValidate_flags (config : JbConfig) :
    (jbConfigValidate config).adaptive = config.adaptive ∧
      (jbConfigValidate config).timeSkewDetection = config.timeSkewDetection := by
  unfold jbConfigValidate
  dsimp only
  repeat' split
  all_goals exact ⟨rfl, rfl⟩

theorem idle_plainBuffer (least initial most : UInt32) (format : FrameFormat) (idle : Nat)
    (origin : UInt32) :
    Idle ((plainBuffer β least initial most format).layout idle origin)
      (plainBuffer β least initial most format) 0 := by
  obtain ⟨hadaptive, hskew⟩ := jbConfigValidate_flags ⟨least, initial, most, false, false⟩
  obtain ⟨hadaptive', hskew'⟩ := jbConfigAllign_flags
    (jbConfigValidate ⟨least, initial, most, false, false⟩)
  refine ⟨hadaptive'.trans hadaptive, hskew'.trans hskew, rfl, rfl, rfl, rfl, rfl, ?_, ?_⟩
  · rw [Nat.zero_mul]
    rfl
  · intro s _ _
    show slotAt (List.replicate _ _) s = _
    unfold slotAt
    rw [List.getD_eq_getElem?_getD, List.getElem?_replicate]
    split <;> rfl

/-- The stream starts with the synchronization of the buffer. -/
theorem run_first (layout : Layout) (jb : JitterBuffer β) (first : List β)
    (calls : List (StreamCall β)) :
    run jbStep jb ((.packet ⟨0, first⟩ :: calls).map layout.encode) =
      run jbStep (writeSynchronize jb layout.origin)
        ((.packet ⟨0, first⟩ :: calls).map layout.encode) := by
  have hts : layout.origin + UInt32.ofInt (0 * layout.format.frameTs.toNat) = layout.origin := by
    rw [Int.zero_mul]
    exact UInt32.add_zero _
  simp only [List.map_cons, run, Layout.encode, jbStep, hts]
  rw [write_synchronize]

/-- A buffer without adaptation and skew detection answers a stream whose packets
fit as the stream says: a read returns the frame that was carried for its slot.
Where the packets do not overlap, this is the frame of whichever packet carries
one, in any order. -/
theorem slots_delivered (least initial most : UInt32) (format : FrameFormat) (origin : UInt32)
    (idle : Nat) (first : List β) (calls : List (StreamCall β))
    (hidle : idle * format.frameTs.toNat < 2 ^ 32)
    (hfits : Along (streamStep format.frameSize
        ((plainBuffer β least initial most format).layout idle origin).delay)
      (CallFits ((plainBuffer β least initial most format).layout idle origin)) []
      (.packet ⟨0, first⟩ :: calls)) :
    (∃ final, run jbStep (plainBuffer β least initial most format)
      (List.replicate idle .read ++ (.packet ⟨0, first⟩ :: calls).map
        ((plainBuffer β least initial most format).layout idle origin).encode) =
      some (final, List.replicate idle (.frame .empty) ++
        streamAnswers format.frameSize
          ((plainBuffer β least initial most format).layout idle origin).delay []
          (.packet ⟨0, first⟩ :: calls))) ∧
      ∀ before, before <+: .packet ⟨0, first⟩ :: calls → before.Pairwise (Apart format.frameSize) →
        ∀ slot bytes, carriedFor format.frameSize slot before = some bytes ↔
          ∃ packet, .packet packet ∈ before ∧
            packet.carried format.frameSize slot = some bytes := by
  refine ⟨?_, fun before _ hapart slot bytes => carriedFor_iff hapart⟩
  have hnew : Idle ((plainBuffer β least initial most format).layout idle origin)
      (plainBuffer β least initial most format) 0 :=
    idle_plainBuffer least initial most format idle origin
  have hlength : (plainBuffer β least initial most format).frames.length < 2 ^ 32 := by
    show (List.replicate _ _).length < 2 ^ 32
    rw [List.length_replicate]
    exact UInt32.toNat_lt _
  have hformat : ((plainBuffer β least initial most format).layout idle origin).format = format :=
    rfl
  have hlayout : ((plainBuffer β least initial most format).layout idle origin).idle = idle := rfl
  have hcapacity : ((plainBuffer β least initial most format).layout idle origin).capacity <
      2 ^ 32 :=
    hlength
  generalize (plainBuffer β least initial most format).layout idle origin = layout at *
  generalize plainBuffer β least initial most format = jb at *
  subst hformat hlayout
  have hpositive : 0 < layout.capacity := by
    have hstart := hfits.1.2.1
    simp only [Layout.position, Layout.reading, readCount] at hstart
    omega
  obtain ⟨jb', hreads, hwaits⟩ := hnew.reads layout.idle hpositive
    (by rw [Nat.zero_add]; exact hidle)
  rw [Nat.zero_add] at hwaits
  have hrelated : Alike _ (run jbStep _ _) _ :=
    run_related (call_delivers hpositive hcapacity) _ _ _ hwaits.synchronize hfits
  rw [run_streamStep] at hrelated
  rcases hrelated.cases with ⟨-, hnone⟩ | ⟨final, log, answers, hrun, hsome, -⟩
  · exact nomatch hnone
  · obtain ⟨-, rfl⟩ := Prod.mk.inj (Option.some.inj hsome)
    refine ⟨final, ?_⟩
    rw [run_append, hreads]
    simp only [Option.bind_some]
    rw [run_first, hrun]
    rfl

end

/-- A stream with a packet that overtakes another one, a late packet, and one of
two frames. -/
def mixedStream : List (StreamCall UInt8) :=
  [.read, .packet ⟨2, [3]⟩, .packet ⟨1, [2]⟩, .read, .read, .read, .packet ⟨-1, [9]⟩,
    .packet ⟨4, [5, 6]⟩, .read, .read, .read, .read]

/-- With a delay of two frames the slots come out in order, the lost one as an
empty frame. -/
theorem slots_delivered_mixedStream :
    ∃ final, run jbStep (plainBuffer UInt8 0 20 100 byteFormat)
      (List.replicate 1 .read ++ (.packet ⟨0, [1]⟩ :: mixedStream).map
        ((plainBuffer UInt8 0 20 100 byteFormat).layout 1 4294967200).encode) =
      some (final, List.replicate 1 (.frame .empty) ++
        streamAnswers 1 2 [] (.packet ⟨0, [1]⟩ :: mixedStream)) :=
  (slots_delivered 0 20 100 byteFormat 4294967200 1 [1] mixedStream (by decide)
    (by decide +kernel)).1

/-- A packet in front of the first one takes the slot of the first one: the
first read is answered with its frame. -/
theorem packet_before_first_replaces :
    (run jbStep (plainBuffer UInt8 0 0 50 byteFormat)
      ([.packet ⟨0, [1]⟩, .packet ⟨-1, [2]⟩, .read].map
        ((plainBuffer UInt8 0 0 50 byteFormat).layout 0 80000).encode)).map (·.2.getLast?) =
      some (some (.frame ⟨some [2], none, .none⟩)) ∧
    (streamAnswers 1 0 [] [.packet ⟨0, [1]⟩, .packet ⟨-1, [2]⟩, .read]).getLast? =
      some (.frame ⟨some ([1] : List UInt8), none, .none⟩) := by
  decide +kernel

end UniMrcp.Mpf
