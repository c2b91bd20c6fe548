import Mathlib.Algebra.Ring.Int.Defs
import Mathlib.Algebra.Ring.Nat
import UniMrcp.Lib.Traces
import UniMrcp.Mpf.JitterBuffer

/-!
# The window of the jitter buffer

A position of the buffer is a number of frames; its slot is the position modulo
the number of slots.  From the read position on as many positions as there are
slots have a slot each: the window.  `slotAt` reads the array by positions, and
the lemmas say what the loop of a write and a read do to the slots of the
window, as long as the timestamps do not wrap.
-/

namespace UniMrcp.Mpf

open UniMrcp.Lib.Traces

variable {β : Type}

/-- The slot of a position. -/
def slotAt (frames : List (MediaFrame β)) (position : Nat) : MediaFrame β :=
  frames.getD (position % frames.length) .empty

variable {r p : Nat} {jb jb' : JitterBuffer β} {writeTs : UInt32}

/-- Two positions of a window have different slots. -/
theorem window_mod_inj {n a b : Nat} (ha : r ≤ a) (ha' : a < r + n) (hb : r ≤ b) (hb' : b < r + n)
    (h : a % n = b % n) : a = b := by
  have hdiv := Nat.div_add_mod a n
  have hdiv' := Nat.div_add_mod b n
  rcases Nat.lt_trichotomy (a / n) (b / n) with hlt | heq | hgt
  · have hmul : n * (a / n) + n ≤ n * (b / n) := by
      exact Nat.mul_le_mul_left n hlt
    omega
  · rw [heq] at hdiv
    omega
  · have hmul : n * (b / n) + n ≤ n * (a / n) := by
      exact Nat.mul_le_mul_left n hgt
    omega

theorem slotAt_modify {frames : List (MediaFrame β)} {s : Nat} (f : MediaFrame β → MediaFrame β)
    (hp : r ≤ p) (hp' : p < r + frames.length) (hs : r ≤ s) (hs' : s < r + frames.length) :
    slotAt (frames.modify (p % frames.length) f) s =
      if s = p then f (slotAt frames s) else slotAt frames s := by
  have hpos : 0 < frames.length := by omega
  have hlt := Nat.mod_lt s hpos
  unfold slotAt
  rw [List.length_modify, List.getD_eq_getElem?_getD, List.getD_eq_getElem?_getD,
    List.getElem?_modify, List.getElem?_eq_getElem hlt]
  by_cases heq : s = p
  · subst heq
    simp
  · have hne : p % frames.length ≠ s % frames.length := by
      intro h
      exact heq (window_mod_inj hs hs' hp hp' h.symm)
    simp [heq, hne]

/-- The bytes of the frame number `k` of a packet. -/
def frameOf (size : Nat) (buffer : List β) (k : Nat) : List β := (buffer.drop (k * size)).take size

theorem frameOf_drop (size : Nat) (buffer : List β) (k : Nat) :
    frameOf size (buffer.drop size) k = frameOf size buffer (k + 1) := by
  unfold frameOf
  rw [List.drop_drop, Nat.succ_mul, Nat.add_comm]

theorem frameIndex_position {ts : UInt32} (hpos : 0 < jb.frames.length)
    (hts : ts.toNat = p * jb.format.frameTs.toNat) :
    frameIndex jb ts = some (p % jb.frames.length) := by
  have hframe := jb.format.frameTs_pos
  unfold frameIndex
  rw [if_neg (by omega), UInt32.toNat_div, hts, Nat.mul_div_cancel p hframe]

/-! ## Synchronizing -/

/-- The synchronization changes only the offset and the statistics. -/
theorem writeSynchronize_eq (jb : JitterBuffer β) (ts : UInt32) :
    ∃ sync offset least most count, writeSynchronize jb ts =
      { jb with
        writeSync := sync
        writeTsOffset := offset
        minLengthTs := least
        maxLengthTs := most
        measurmentCount := count } := by
  simp only [writeSynchronize]
  split
  · split <;> exact ⟨_, _, _, _, _, rfl⟩
  · exact ⟨_, _, _, _, _, rfl⟩

section

variable (jb : JitterBuffer β) (ts : UInt32)

@[simp] theorem writeSynchronize_config : (writeSynchronize jb ts).config = jb.config := by
  obtain ⟨_, _, _, _, _, heq⟩ := writeSynchronize_eq jb ts
  rw [heq]

@[simp] theorem writeSynchronize_format : (writeSynchronize jb ts).format = jb.format := by
  obtain ⟨_, _, _, _, _, heq⟩ := writeSynchronize_eq jb ts
  rw [heq]

@[simp] theorem writeSynchronize_frames : (writeSynchronize jb ts).frames = jb.frames := by
  obtain ⟨_, _, _, _, _, heq⟩ := writeSynchronize_eq jb ts
  rw [heq]

@[simp] theorem writeSynchronize_playoutDelayTs :
    (writeSynchronize jb ts).playoutDelayTs = jb.playoutDelayTs := by
  obtain ⟨_, _, _, _, _, heq⟩ := writeSynchronize_eq jb ts
  rw [heq]

@[simp] theorem writeSynchronize_writeTs : (writeSynchronize jb ts).writeTs = jb.writeTs := by
  obtain ⟨_, _, _, _, _, heq⟩ := writeSynchronize_eq jb ts
  rw [heq]

@[simp] theorem writeSynchronize_readTs : (writeSynchronize jb ts).readTs = jb.readTs := by
  obtain ⟨_, _, _, _, _, heq⟩ := writeSynchronize_eq jb ts
  rw [heq]

end

/-! ## Writing -/

/-- The positions from `p` to `p + count` hold new audio; the other slots of the
window at `r` are as before. -/
structure Written (frames frames' : List (MediaFrame β)) (r p count : Nat)
    (audio : Nat → List β) : Prop where
  length : frames'.length = frames.length
  slots : ∀ s, r ≤ s → s < r + frames.length → slotAt frames' s =
    if p ≤ s ∧ s < p + count then { slotAt frames s with audio := some (audio (s - p)) }
    else slotAt frames s

theorem written_zero (frames : List (MediaFrame β)) (r p : Nat) (audio : Nat → List β) :
    Written frames frames r p 0 audio := by
  refine ⟨rfl, fun s _ _ => ?_⟩
  rw [if_neg (by omega)]

/-- The first frame, and then the others. -/
theorem Written.cons {frames frames' : List (MediaFrame β)} {count : Nat} (bytes : List β)
    {audio : Nat → List β} (hp : r ≤ p) (hp' : p < r + frames.length) (hfirst : audio 0 = bytes)
    (h : Written (frames.modify (p % frames.length)
        (fun frame => { frame with audio := some bytes }))
      frames' r (p + 1) count (fun k => audio (k + 1))) :
    Written frames frames' r p (count + 1) audio := by
  have hlength := h.length
  rw [List.length_modify] at hlength
  refine ⟨hlength, fun s hs hs' => ?_⟩
  rw [h.slots s hs (by rw [List.length_modify]; exact hs'), slotAt_modify _ hp hp' hs hs']
  by_cases heq : s = p
  · subst heq
    rw [if_neg (by omega), if_pos rfl, if_pos (by omega), Nat.sub_self, hfirst]
  · rw [if_neg heq]
    by_cases hin : p + 1 ≤ s ∧ s < p + 1 + count
    · rw [if_pos hin, if_pos (by omega)]
      rw [show s - p = s - (p + 1) + 1 by omega]
    · rw [if_neg hin, if_neg (by omega)]

/-- The loop writes the frames of the packet, as far as there are slots. -/
theorem writeLoop_spec (fuel : Nat) (jb : JitterBuffer β) (available : UInt64) (buffer : List β)
    (hframes : 0 < jb.frames.length) (hfuel : buffer.length ≤ fuel)
    (hts : writeTs.toNat = p * jb.format.frameTs.toNat) (hp : r ≤ p)
    (hroom : p + available.toNat ≤ r + jb.frames.length)
    (hend : (p + min available.toNat (buffer.length / jb.format.frameSize)) *
      jb.format.frameTs.toNat < 2 ^ 32) :
    ∃ frames' writeTs',
      writeLoop fuel jb available buffer writeTs = some ({ jb with frames := frames' }, writeTs') ∧
      writeTs'.toNat = (p + min available.toNat (buffer.length / jb.format.frameSize)) *
        jb.format.frameTs.toNat ∧
      Written jb.frames frames' r p (min available.toNat (buffer.length / jb.format.frameSize))
        (frameOf jb.format.frameSize buffer) := by
  have hsize := jb.format.sizePos
  induction fuel generalizing jb available buffer writeTs p with
  | zero =>
    obtain rfl : buffer = [] := List.eq_nil_of_length_eq_zero (by omega)
    refine ⟨jb.frames, writeTs, rfl, ?_, ?_⟩
    · simpa using hts
    · simpa using written_zero jb.frames r p _
  | succ fuel ih =>
    by_cases hshort : available = 0 ∨ buffer.length < jb.format.frameSize
    · -- there is no slot, or not a whole frame left
      have hnone : min available.toNat (buffer.length / jb.format.frameSize) = 0 := by
        rcases hshort with rfl | hshort
        · simp
        · rw [Nat.div_eq_of_lt hshort]
          omega
      rw [hnone]
      refine ⟨jb.frames, writeTs, ?_, hts, written_zero jb.frames r p _⟩
      simp only [writeLoop]
      split
      · rfl
      · rename_i hgo
        rw [frameIndex_position hframes hts]
        simp only
        rw [if_neg]
        rintro ⟨hle, -⟩
        rcases hshort with h | h
        · exact hgo (.inl h)
        · omega
    · obtain ⟨hsome, hle⟩ := not_or.mp hshort
      have hpos : 0 < available.toNat := UInt64.pos_iff_ne_zero.mpr hsome
      have hpred : (available - 1).toNat = available.toNat - 1 := by
        rw [UInt64.toNat_sub_of_le]
        · rfl
        · exact UInt64.le_iff_toNat_le.mpr hpos
      have hcount : min available.toNat (buffer.length / jb.format.frameSize) =
          min (available - 1).toNat
            ((buffer.drop jb.format.frameSize).length / jb.format.frameSize) + 1 := by
        have hdiv : buffer.length / jb.format.frameSize =
            (buffer.length - jb.format.frameSize) / jb.format.frameSize + 1 :=
          Nat.div_eq_sub_div hsize (by omega)
        rw [hpred, List.length_drop, hdiv, ← Nat.add_min_add_right, Nat.sub_add_cancel hpos]
      rw [hcount] at hend ⊢
      have hstep : (p + 1) * jb.format.frameTs.toNat < 2 ^ 32 := by
        refine Nat.lt_of_le_of_lt (Nat.mul_le_mul_right _ ?_) hend
        exact Nat.add_le_add_left (Nat.le_add_left 1 _) p
      have hnext : (writeTs + jb.format.frameTs).toNat = (p + 1) * jb.format.frameTs.toNat := by
        rw [UInt32.toNat_add, hts, ← Nat.succ_mul, Nat.mod_eq_of_lt hstep]
      have hplace : p < r + jb.frames.length := by omega
      obtain ⟨frames', writeTs', hloop, hts', hwritten⟩ :=
        ih (audioPut jb (p % jb.frames.length) (buffer.take jb.format.frameSize))
          (available - 1) (buffer.drop jb.format.frameSize)
          (by simpa [audioPut] using hframes) (by rw [List.length_drop]; omega) hnext (by omega)
          (by simp only [audioPut, List.length_modify]; omega)
          (by simpa [audioPut, Nat.add_assoc, Nat.add_comm 1] using hend) hsize
      refine ⟨frames', writeTs', ?_, ?_, ?_⟩
      · simp only [writeLoop]
        rw [if_neg, frameIndex_position hframes hts]
        · simp only
          rw [if_pos ⟨by omega, by omega⟩, hloop]
          rfl
        · rintro (h | rfl)
          · exact hsome h
          · exact hle (by simpa using hsize)
      · rw [hts', Nat.add_assoc, Nat.add_comm 1]
        rfl
      · apply Written.cons (buffer.take jb.format.frameSize) hp hplace
        · simp [frameOf]
        · have hdrop : (fun k => frameOf jb.format.frameSize buffer (k + 1)) =
              frameOf jb.format.frameSize (buffer.drop jb.format.frameSize) :=
            funext (fun k => (frameOf_drop _ buffer k).symm)
          rw [hdrop]
          exact hwritten

/-- The loop changes only the frames, and puts bytes of the packet there. -/
theorem writeLoop_frames {P : List (MediaFrame β) → Prop} {buffer : List β}
    (hput : ∀ frames index bytes, (∀ b ∈ bytes, b ∈ buffer) → P frames →
      P (frames.modify index (fun frame => { frame with audio := some bytes })))
    (fuel : Nat) (jb : JitterBuffer β) {available : UInt64} {rest : List β} {writeTs' : UInt32}
    (hrest : ∀ b ∈ rest, b ∈ buffer) (hP : P jb.frames)
    (h : writeLoop fuel jb available rest writeTs = some (jb', writeTs')) :
    ∃ frames', jb' = { jb with frames := frames' } ∧ P frames' := by
  induction fuel generalizing jb available rest writeTs with
  | zero =>
    obtain ⟨rfl, -⟩ := Prod.mk.inj (Option.some.inj h)
    exact ⟨jb.frames, rfl, hP⟩
  | succ fuel ih =>
    simp only [writeLoop] at h
    split at h
    · obtain ⟨rfl, -⟩ := Prod.mk.inj (Option.some.inj h)
      exact ⟨jb.frames, rfl, hP⟩
    · split at h
      · exact nomatch h
      · rename_i index _
        split at h
        · exact ih (audioPut jb index (rest.take jb.format.frameSize))
            (fun b hb => hrest b (List.mem_of_mem_drop hb))
            (hput _ _ _ (fun b hb => hrest b (List.mem_of_mem_take hb)) hP) h
        · obtain ⟨rfl, -⟩ := Prod.mk.inj (Option.some.inj h)
          exact ⟨jb.frames, rfl, hP⟩

/-- The frames of a packet change only the frames and the write position. -/
theorem writeFrames_frames {P : List (MediaFrame β) → Prop} {buffer : List β}
    (hput : ∀ frames index bytes, (∀ b ∈ bytes, b ∈ buffer) → P frames →
      P (frames.modify index (fun frame => { frame with audio := some bytes })))
    {result : JbResult} (hP : P jb.frames)
    (h : writeFrames jb buffer writeTs = some (jb', result)) :
    ∃ frames' writeTs', jb' = { jb with frames := frames', writeTs := writeTs' } ∧ P frames' := by
  simp only [writeFrames] at h
  split at h
  · cases h
    exact ⟨jb.frames, jb.writeTs, rfl, hP⟩
  · obtain ⟨⟨jb₁, writeTs₁⟩, hloop, hadvance⟩ := Option.map_eq_some_iff.mp h
    obtain ⟨frames', rfl, hP'⟩ := writeLoop_frames hput _ jb (fun b hb => hb) hP hloop
    cases hadvance
    unfold writeAdvance
    split
    · exact ⟨frames', writeTs₁, rfl, hP'⟩
    · exact ⟨frames', jb.writeTs, rfl, hP'⟩

/-- The number of slots from a write position on, as the source computes it. -/
theorem available_spec (hcapacity : jb.frames.length < 2 ^ 32)
    (hread : jb.readTs.toNat = r * jb.format.frameTs.toNat)
    (hts : writeTs.toNat = p * jb.format.frameTs.toNat) (hp : r ≤ p)
    (hp' : p ≤ r + jb.frames.length) :
    (UInt64.ofNat jb.frames.length -
      ((writeTs - jb.readTs) / jb.format.frameTs).toUInt64).toNat =
      r + jb.frames.length - p := by
  have hframe := jb.format.frameTs_pos
  have hle : jb.readTs ≤ writeTs := by
    rw [UInt32.le_iff_toNat_le, hread, hts]
    exact Nat.mul_le_mul_right _ hp
  have hahead : ((writeTs - jb.readTs) / jb.format.frameTs).toUInt64.toNat = p - r := by
    rw [UInt32.toNat_toUInt64, UInt32.toNat_div, UInt32.toNat_sub_of_le _ _ hle, hread, hts,
      ← Nat.sub_mul, Nat.mul_div_cancel _ hframe]
  have hcount : (UInt64.ofNat jb.frames.length).toNat = jb.frames.length :=
    UInt64.toNat_ofNat_of_lt' (Nat.lt_trans hcapacity (by decide))
  rw [UInt64.toNat_sub_of_le, hcount]
  · omega
  · rw [UInt64.le_iff_toNat_le, hcount]
    omega

/-- A packet whose position is right behind the window is discarded. -/
theorem writeFrames_early (buffer : List β) (hcapacity : jb.frames.length < 2 ^ 32)
    (hread : jb.readTs.toNat = r * jb.format.frameTs.toNat)
    (hts : writeTs.toNat = (r + jb.frames.length) * jb.format.frameTs.toNat) :
    writeFrames jb buffer writeTs = some (jb, .discardTooEarly) := by
  have havailable := available_spec hcapacity hread hts (Nat.le_add_right _ _) (Nat.le_refl _)
  rw [Nat.sub_self] at havailable
  unfold writeFrames
  rw [if_pos]
  rw [UInt64.le_iff_toNat_le, havailable]
  exact Nat.zero_le _

/-- A packet inside the window is written, as far as there are slots. -/
theorem writeFrames_spec (jb : JitterBuffer β) (buffer : List β)
    (hcapacity : jb.frames.length < 2 ^ 32)
    (hread : jb.readTs.toNat = r * jb.format.frameTs.toNat)
    (hts : writeTs.toNat = p * jb.format.frameTs.toNat) (hp : r ≤ p)
    (hp' : p < r + jb.frames.length)
    (hend : (p + min (r + jb.frames.length - p) (buffer.length / jb.format.frameSize)) *
      jb.format.frameTs.toNat < 2 ^ 32) :
    ∃ frames' writeTs',
      writeFrames jb buffer writeTs =
        some (writeAdvance { jb with frames := frames' } writeTs', .ok) ∧
      writeTs'.toNat = (p + min (r + jb.frames.length - p)
        (buffer.length / jb.format.frameSize)) * jb.format.frameTs.toNat ∧
      Written jb.frames frames' r p
        (min (r + jb.frames.length - p) (buffer.length / jb.format.frameSize))
        (frameOf jb.format.frameSize buffer) := by
  have havailable := available_spec hcapacity hread hts hp (Nat.le_of_lt hp')
  rw [← havailable] at hend ⊢
  obtain ⟨frames', writeTs', hloop, hts', hwritten⟩ :=
    writeLoop_spec buffer.length jb _ buffer (by omega) (Nat.le_refl _) hts hp
      (by rw [havailable]; omega) hend
  refine ⟨frames', writeTs', ?_, hts', hwritten⟩
  unfold writeFrames
  rw [if_neg, hloop]
  · rfl
  · rw [UInt64.le_iff_toNat_le, havailable]
    show ¬ r + jb.frames.length - p ≤ 0
    omega

/-! ## Writing ahead of the window -/

/-- The buffer that a packet is written to, and the position of the packet. -/
def writePlace (jb : JitterBuffer β) (ts : UInt32) (marker : Bool) : JitterBuffer β × UInt32 :=
  mpfJitterBufferWritePrepare
    (if marker && jb.writeTs ≤ jb.readTs then { jb with writeSync := true } else jb) ts

/-- The whole frames from the read position to the position of a packet. -/
def framesAhead (jb : JitterBuffer β) (ts : UInt32) (marker : Bool) : Nat :=
  (((writePlace jb ts marker).2 - jb.readTs) / jb.format.frameTs).toNat

theorem writePlace_keep (jb : JitterBuffer β) (ts : UInt32) (marker : Bool) :
    let placed := (writePlace jb ts marker).1
    placed.format = jb.format ∧ placed.frames = jb.frames ∧ placed.readTs = jb.readTs ∧
      placed.writeTs = jb.writeTs := by
  unfold writePlace mpfJitterBufferWritePrepare
  split <;> simp

/-- Ahead of the window, the packet that is right behind it is found too early
and has no effect; the number of free slots of any other one wraps. -/
theorem too_early_iff (jb : JitterBuffer β) (buffer : List β) (ts : UInt32) (marker : Bool)
    (hahead : jb.readTs ≤ (writePlace jb ts marker).2)
    (hearly : jb.frames.length ≤ framesAhead jb ts marker) :
    (∃ jb', mpfJitterBufferWrite jb buffer ts marker = some (jb', .discardTooEarly) ∧
      jb'.frames = jb.frames ∧ jb'.writeTs = jb.writeTs) ↔
      framesAhead jb ts marker = jb.frames.length := by
  obtain ⟨hformat, hframes, hread, hwrite⟩ := writePlace_keep jb ts marker
  generalize hplace : writePlace jb ts marker = place at *
  obtain ⟨placed, writeTs⟩ := place
  have hstep : mpfJitterBufferWrite jb buffer ts marker = writeFrames placed buffer writeTs := by
    unfold writePlace at hplace
    simp only [mpfJitterBufferWrite, hplace]
    rw [if_pos]
    rw [hread]
    exact hahead
  have hcount : framesAhead jb ts marker =
      ((writeTs - placed.readTs) / placed.format.frameTs).toUInt64.toNat := by
    rw [framesAhead, hplace, hread, hformat, UInt32.toNat_toUInt64]
  have hlt : framesAhead jb ts marker < 2 ^ 32 := UInt32.toNat_lt _
  have hfree : UInt64.ofNat placed.frames.length -
      ((writeTs - placed.readTs) / placed.format.frameTs).toUInt64 ≤ 0 ↔
      framesAhead jb ts marker = jb.frames.length := by
    rw [UInt64.le_iff_toNat_le, UInt64.toNat_sub, ← hcount, hframes,
      UInt64.toNat_ofNat_of_lt' (show jb.frames.length < 2 ^ 64 by omega)]
    simp only [UInt64.toNat_zero]
    omega
  rw [hstep]
  unfold writeFrames
  constructor
  · rintro ⟨jb', h, -⟩
    by_contra hne
    rw [if_neg (fun hle => hne (hfree.mp hle))] at h
    obtain ⟨_, -, h⟩ := Option.map_eq_some_iff.mp h
    cases h
  · intro heq
    rw [if_pos (hfree.mpr heq)]
    exact ⟨placed, rfl, hframes, hwrite⟩

/-- A buffer of two frames, synchronized by an empty packet of the timestamp 0. -/
def pairBuffer : JitterBuffer UInt8 :=
  { mpfJitterBufferCreate UInt8 (some ⟨0, 0, 20, false, false⟩) byteFormat with
    writeSync := false }

theorem too_early_pairBuffer :
    pairBuffer.readTs ≤ (writePlace pairBuffer 160 false).2 ∧
      pairBuffer.frames.length ≤ framesAhead pairBuffer 160 false ∧
      ∃ jb', mpfJitterBufferWrite pairBuffer [7] 160 false = some (jb', .discardTooEarly) ∧
        jb'.frames = pairBuffer.frames ∧ jb'.writeTs = pairBuffer.writeTs :=
  ⟨by decide, by decide,
    (too_early_iff pairBuffer [7] 160 false (by decide) (by decide)).mpr (by decide)⟩

/-- Three frames ahead of a buffer of two, a packet is stored in the slot of the
next frame but one. -/
theorem packet_ahead_stored :
    pairBuffer.readTs ≤ (writePlace pairBuffer 240 false).2 ∧
      pairBuffer.frames.length ≤ framesAhead pairBuffer 240 false ∧
      (mpfJitterBufferWrite pairBuffer [7] 240 false).map
        (fun (jb, result) => (jb.frames, jb.writeTs, result)) =
        some ([.empty, ⟨some [7], none, .none⟩], 320, .ok) := by
  decide

/-! ## Reading -/

/-- The buffer behind a read: the slot of the position `r` is empty and becomes
that of the position at the end of the window. -/
structure ReadAt (jb jb' : JitterBuffer β) (r : Nat) : Prop where
  config : jb'.config = jb.config
  format : jb'.format = jb.format
  playoutDelayTs : jb'.playoutDelayTs = jb.playoutDelayTs
  writeSync : jb'.writeSync = jb.writeSync
  writeTsOffset : jb'.writeTsOffset = jb.writeTsOffset
  writeTs : jb'.writeTs = jb.writeTs
  readTs : jb'.readTs.toNat = (r + 1) * jb.format.frameTs.toNat
  length : jb'.frames.length = jb.frames.length
  slots : ∀ s, r + 1 ≤ s → s < r + jb.frames.length → slotAt jb'.frames s = slotAt jb.frames s
  freed : slotAt jb'.frames (r + jb.frames.length) = .empty

/-- An update of the statistics changes nothing else. -/
theorem statUpdate_eq (jb : JitterBuffer β) :
    ∃ least most count, mpfJitterBufferStatUpdate jb =
      { jb with minLengthTs := least, maxLengthTs := most, measurmentCount := count } := by
  unfold mpfJitterBufferStatUpdate statMeasure statRestart
  split <;> split <;> first | exact ⟨_, _, _, rfl⟩ | (split <;> exact ⟨_, _, _, rfl⟩)

theorem ReadAt.statUpdate (h : ReadAt jb jb' r) :
    ReadAt jb (mpfJitterBufferStatUpdate jb') r := by
  obtain ⟨_, _, _, heq⟩ := statUpdate_eq jb'
  rw [heq]
  exact ⟨h.config, h.format, h.playoutDelayTs, h.writeSync, h.writeTsOffset, h.writeTs, h.readTs,
    h.length, h.slots, h.freed⟩

/-- A read returns the slot of its position, unless nothing was written behind
it. -/
theorem read_spec (jb : JitterBuffer β) (hframes : 0 < jb.frames.length)
    (hread : jb.readTs.toNat = r * jb.format.frameTs.toNat)
    (hend : (r + 1) * jb.format.frameTs.toNat < 2 ^ 32) :
    ∃ jb', mpfJitterBufferRead jb =
        some (jb', if jb.writeTs > jb.readTs then slotAt jb.frames r else .empty) ∧
      ReadAt jb jb' r := by
  have hnext : (jb.readTs + jb.format.frameTs).toNat = (r + 1) * jb.format.frameTs.toNat := by
    rw [UInt32.toNat_add, hread, ← Nat.succ_mul, Nat.mod_eq_of_lt hend]
  have hslots : ∀ s, r + 1 ≤ s → s < r + jb.frames.length →
      slotAt (jb.frames.modify (r % jb.frames.length) (fun _ => .empty)) s =
        slotAt jb.frames s := by
    intro s hs hs'
    rw [slotAt_modify _ (Nat.le_refl r) (by omega) (by omega) hs', if_neg (by omega)]
  have hfreed : slotAt (jb.frames.modify (r % jb.frames.length) (fun _ => .empty))
      (r + jb.frames.length) = .empty := by
    have hlt := Nat.mod_lt r hframes
    unfold slotAt
    rw [List.length_modify, Nat.add_mod_right, List.getD_eq_getElem?_getD, List.getElem?_modify,
      List.getElem?_eq_getElem hlt]
    simp
  have htake : ReadAt jb (frameTake jb (r % jb.frames.length)) r :=
    ⟨rfl, rfl, rfl, rfl, rfl, rfl, hnext, List.length_modify _ _ _, hslots, hfreed⟩
  refine ⟨if jb.config.timeSkewDetection then
    mpfJitterBufferStatUpdate (frameTake jb (r % jb.frames.length))
    else frameTake jb (r % jb.frames.length), ?_, ?_⟩
  · unfold mpfJitterBufferRead
    rw [frameIndex_position hframes hread]
    rfl
  · split
    · exact htake.statUpdate
    · exact htake

/-- The buffer behind `count` reads from the position `r` on. -/
structure ReadsFrom (jb jb' : JitterBuffer β) (r count : Nat) : Prop where
  format : jb'.format = jb.format
  writeTs : jb'.writeTs = jb.writeTs
  readTs : jb'.readTs.toNat = (r + count) * jb.format.frameTs.toNat
  length : jb'.frames.length = jb.frames.length
  kept : ∀ s, r + count ≤ s → s < r + jb.frames.length → slotAt jb'.frames s = slotAt jb.frames s
  freed : ∀ s, r + count ≤ s → r + jb.frames.length ≤ s → s < r + count + jb.frames.length →
    slotAt jb'.frames s = .empty

theorem readsFrom_zero (hread : jb.readTs.toNat = r * jb.format.frameTs.toNat) :
    ReadsFrom jb jb r 0 :=
  ⟨rfl, rfl, hread, rfl, fun _ _ _ => rfl, fun s _ _ _ => by omega⟩

/-- A read, and then the others. -/
theorem ReadsFrom.cons {jb'' : JitterBuffer β} {count : Nat} (hfirst : ReadAt jb jb' r)
    (h : ReadsFrom jb' jb'' (r + 1) count) : ReadsFrom jb jb'' r (count + 1) := by
  have hlength := hfirst.length
  refine ⟨h.format.trans hfirst.format, h.writeTs.trans hfirst.writeTs, ?_,
    h.length.trans hlength, fun s hs hs' => ?_, fun s hs hs' hs'' => ?_⟩
  · rw [h.readTs, hfirst.format, Nat.add_assoc, Nat.add_comm 1]
  · rw [h.kept s (by omega) (by omega), hfirst.slots s (by omega) hs']
  · by_cases hlast : s = r + jb.frames.length
    · rw [h.kept s (by omega) (by omega), hlast, hfirst.freed]
    · exact h.freed s (by omega) (by omega) (by omega)

theorem run_reads (count : Nat) (jb : JitterBuffer β) (hframes : 0 < jb.frames.length)
    (hread : jb.readTs.toNat = r * jb.format.frameTs.toNat)
    (hend : (r + count) * jb.format.frameTs.toNat < 2 ^ 32) :
    ∃ jb' outputs, run jbStep jb (List.replicate count .read) = some (jb', outputs) ∧
      ReadsFrom jb jb' r count := by
  induction count generalizing jb r with
  | zero => exact ⟨jb, [], rfl, readsFrom_zero hread⟩
  | succ count ih =>
    have hstep : (r + 1) * jb.format.frameTs.toNat < 2 ^ 32 :=
      Nat.lt_of_le_of_lt (Nat.mul_le_mul_right _ (by omega)) hend
    obtain ⟨jb', hfirst, hat⟩ := read_spec jb hframes hread hstep
    obtain ⟨jb'', outputs, hrest, hfrom⟩ := ih jb'
      (by rw [hat.length]; exact hframes) (by rw [hat.format]; exact hat.readTs)
      (by rw [hat.format, Nat.add_assoc, Nat.add_comm 1]; exact hend)
    generalize (if jb.writeTs > jb.readTs then slotAt jb.frames r else .empty) = frame at hfirst
    refine ⟨jb'', .frame frame :: outputs, ?_, hfrom.cons hat⟩
    rw [List.replicate_succ]
    simp [run, jbStep, hfirst, hrest]

end UniMrcp.Mpf
