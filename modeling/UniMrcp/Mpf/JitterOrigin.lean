import Mathlib.Tactic.Simps.Basic
import UniMrcp.Lib.Traces
import UniMrcp.Mpf.JitterBuffer

/-!
# The origin of the timestamps

The buffer looks at a timestamp only through the write offset, which the first
write takes from its own timestamp.  So two runs whose timestamps differ by a
constant differ in the write offset alone, and answer alike.
-/

namespace UniMrcp.Mpf

open UniMrcp.Lib.Traces

variable {β : Type}

/-- The call with a timestamp that is moved by a constant. -/
def JbInput.move (c : UInt32) : JbInput β → JbInput β
  | .write buffer ts marker => .write buffer (ts + c) marker
  | .eventWrite event ts marker => .eventWrite event (ts + c) marker
  | .restart => .restart
  | .read => .read

/-- The same buffer with another write offset. -/
@[simps]
def JitterBuffer.withOffset (jb : JitterBuffer β) (offset : UInt32) : JitterBuffer β :=
  { jb with writeTsOffset := offset }

/-- The first buffer is the second one with its offset moved; before the
synchronization the offset does not matter. -/
def Moved (c : UInt32) (moved jb : JitterBuffer β) : Prop :=
  ∃ offset, moved = jb.withOffset offset ∧
    (jb.writeSync = true ∨ offset = jb.writeTsOffset + c)

/-! ## What does not look at the offset -/

/-- A function of the buffer that does not look at the offset. -/
def Indifferent {O : Type} (f : JitterBuffer β → Option (JitterBuffer β × O)) : Prop :=
  ∀ offset jb, f (jb.withOffset offset) = (f jb).map (Prod.map (·.withOffset offset) id)

theorem writeAdvance_withOffset (offset : UInt32) (jb : JitterBuffer β) (writeTs : UInt32) :
    writeAdvance (jb.withOffset offset) writeTs = (writeAdvance jb writeTs).withOffset offset := by
  simp only [writeAdvance, JitterBuffer.withOffset_writeTs]
  split <;> rfl

theorem writeLoop_indifferent (fuel : Nat) (available : UInt64) (buffer : List β)
    (writeTs : UInt32) : Indifferent (writeLoop fuel · available buffer writeTs) := by
  induction fuel generalizing available buffer writeTs with
  | zero => exact fun offset jb => rfl
  | succ fuel ih =>
    intro offset jb
    simp only [writeLoop, JitterBuffer.withOffset_format]
    split
    · rfl
    · rw [show frameIndex (jb.withOffset offset) writeTs = frameIndex jb writeTs from rfl]
      cases frameIndex jb writeTs with
      | none => rfl
      | some index =>
        dsimp only
        split
        · exact ih _ _ _ offset (audioPut jb index _)
        · rfl

section

variable (buffer : List β) (event : NamedEvent β) (writeTs : UInt32) (marker : Bool)

theorem writeFrames_indifferent : Indifferent (writeFrames · buffer writeTs) := by
  intro offset jb
  have hloop := fun available =>
    writeLoop_indifferent buffer.length available buffer writeTs offset jb
  dsimp only [writeFrames] at hloop ⊢
  rw [hloop]
  simp only [JitterBuffer.withOffset_frames, JitterBuffer.withOffset_readTs,
    JitterBuffer.withOffset_format]
  split
  · rfl
  · rw [Option.map_map, Option.map_map]
    congr 1
    funext result
    exact congrArg (·, JbResult.ok) (writeAdvance_withOffset offset result.1 result.2)

theorem lateAdjust_indifferent (delta : UInt32) :
    Indifferent (lateAdjust · buffer writeTs delta) := by
  intro offset jb
  simp only [lateAdjust, JitterBuffer.withOffset_config, JitterBuffer.withOffset_playoutDelayTs,
    JitterBuffer.withOffset_maxPlayoutDelayTs]
  split
  · split
    · rfl
    · split
      · rfl
      · rw [← writeFrames_indifferent buffer _ offset]
        split <;> rfl
  · exact writeFrames_indifferent buffer writeTs offset jb

theorem eventPut_indifferent : Indifferent (eventPut · event writeTs marker) := by
  intro offset jb
  dsimp only [eventPut]
  rw [Option.map_map]
  congr 1
  funext index
  exact congrArg (·, JbResult.ok)
    (writeAdvance_withOffset offset (eventStore jb index event marker) _)

theorem eventPlace_indifferent : Indifferent (eventPlace · event writeTs marker) := by
  intro offset jb
  simp only [eventPlace, JitterBuffer.withOffset_config, JitterBuffer.withOffset_playoutDelayTs,
    JitterBuffer.withOffset_maxPlayoutDelayTs, JitterBuffer.withOffset_readTs,
    JitterBuffer.withOffset_format, JitterBuffer.withOffset_frames]
  split
  · split
    · rfl
    · split
      · rfl
      · rw [← eventPut_indifferent event _ marker offset]
        split <;> rfl
  · split
    · rfl
    · exact eventPut_indifferent event writeTs marker offset jb

theorem statUpdate_withOffset (offset : UInt32) (jb : JitterBuffer β) :
    mpfJitterBufferStatUpdate (jb.withOffset offset) =
      (mpfJitterBufferStatUpdate jb).withOffset offset := by
  dsimp only [mpfJitterBufferStatUpdate, statRestart, statMeasure, JitterBuffer.withOffset]
  split <;> split <;> try split
  all_goals rfl

theorem read_indifferent : Indifferent (mpfJitterBufferRead (β := β)) := by
  intro offset jb
  dsimp only [mpfJitterBufferRead]
  rw [Option.map_map]
  congr 1
  funext index
  refine Prod.ext ?_ rfl
  have htake : frameTake (jb.withOffset offset) index =
    (frameTake jb index).withOffset offset := rfl
  change _ = (if _ then _ else _ : JitterBuffer β).withOffset offset
  simp only [htake, statUpdate_withOffset, JitterBuffer.withOffset_config]
  split <;> rfl

theorem eventDetect_withOffset (offset : UInt32) (jb : JitterBuffer β) :
    eventDetect (jb.withOffset offset) event writeTs marker =
      Prod.map (·.withOffset offset) id (eventDetect jb event writeTs marker) := by
  simp only [eventDetect, JitterBuffer.withOffset_eventWriteUpdate,
    JitterBuffer.withOffset_eventWriteBaseId, JitterBuffer.withOffset_eventWriteBaseTs,
    JitterBuffer.withOffset_format]
  split
  · rfl
  · cases jb.eventWriteUpdate with
    | none => rfl
    | some update =>
      dsimp only
      split
      · rfl
      · split
        · split <;> rfl
        · rfl

theorem eventHandle_indifferent : Indifferent (eventHandle · event writeTs marker) := by
  intro offset jb
  dsimp only [eventHandle]
  rw [eventDetect_withOffset]
  generalize eventDetect jb event writeTs marker = detected
  obtain ⟨jb, marker⟩ := detected
  simp only [Prod.map_apply, id_eq, JitterBuffer.withOffset_eventWriteUpdate]
  split
  · exact eventPlace_indifferent event writeTs true offset (eventBase jb event writeTs)
  · cases jb.eventWriteUpdate with
    | none => rfl
    | some update =>
      dsimp only
      split
      · rfl
      · exact eventPlace_indifferent event _ false offset jb

end

/-! ## The timestamps are moved -/

section Moved

variable {c : UInt32} {jb moved : JitterBuffer β} {O : Type}
  {f : JitterBuffer β → Option (JitterBuffer β × O)}

/-- The buffer with its offset moved. -/
@[simps!]
def JitterBuffer.move (c : UInt32) (jb : JitterBuffer β) : JitterBuffer β :=
  jb.withOffset (jb.writeTsOffset + c)

theorem moved_move (jb : JitterBuffer β) : Moved c (jb.move c) jb := ⟨_, rfl, .inr rfl⟩

/-- Such a function leaves the offset as it is. -/
theorem Indifferent.offset_eq (hf : Indifferent f) {jb' : JitterBuffer β} {o : O}
    (h : f jb = some (jb', o)) :
    jb'.writeTsOffset = jb.writeTsOffset := by
  have hsame := hf jb.writeTsOffset jb
  have hself : jb.withOffset jb.writeTsOffset = jb := rfl
  rw [hself, h, Option.map_some, Option.some.injEq, Prod.mk.injEq] at hsame
  rw [hsame.1]
  rfl

theorem Indifferent.move (hf : Indifferent f) (c : UInt32) (jb : JitterBuffer β) :
    Alike (Moved c) (f (jb.move c)) (f jb) := by
  rw [JitterBuffer.move, hf]
  cases h : f jb with
  | none => exact .none
  | some next =>
    refine .some ⟨⟨_, rfl, .inr ?_⟩, rfl⟩
    rw [hf.offset_eq h]

theorem writeSynchronize_moved (h : Moved c moved jb) (ts : UInt32) :
    writeSynchronize moved (ts + c) = (writeSynchronize jb ts).move c := by
  obtain ⟨offset, rfl, hoffset⟩ := h
  have hmove : ts + c - jb.readTs = ts - jb.readTs + c := by grind
  unfold writeSynchronize
  simp only [JitterBuffer.withOffset_writeSync, JitterBuffer.withOffset_readTs,
    JitterBuffer.withOffset_config, hmove]
  split
  · split <;> rfl
  · rename_i hsync
    rw [hoffset.resolve_left hsync]
    rfl

theorem writePosition_move (jb : JitterBuffer β) (ts : UInt32) :
    writePosition (jb.move c) (ts + c) = writePosition jb ts := by
  change ts + c - (jb.writeTsOffset + c) + jb.playoutDelayTs =
    ts - jb.writeTsOffset + jb.playoutDelayTs
  grind

/-- The write is prepared: the position is the same. -/
theorem writePrepare_moved (h : Moved c moved jb) (ts : UInt32) :
    mpfJitterBufferWritePrepare moved (ts + c) =
      Prod.map (·.move c) id (mpfJitterBufferWritePrepare jb ts) := by
  simp only [mpfJitterBufferWritePrepare, writeSynchronize_moved h, writePosition_move]
  rfl

theorem offsetMove_move (jb : JitterBuffer β) (skew : UInt32) :
    offsetMove (jb.move c) skew = (offsetMove jb skew).move c := by
  have hoffset : jb.writeTsOffset + c - skew = jb.writeTsOffset - skew + c := by grind
  change jb.withOffset (jb.writeTsOffset + c - skew) = _
  rw [hoffset]
  rfl

theorem skewAdjust_move (jb : JitterBuffer β) (ts writeTs delta : UInt32) :
    skewAdjust (jb.move c) (ts + c) writeTs delta =
      Prod.map (·.move c) id (skewAdjust jb ts writeTs delta) := by
  simp only [skewAdjust, JitterBuffer.move_maxLengthTs,
    JitterBuffer.move_playoutDelayTs, offsetMove_move, writePosition_move]
  split <;> rfl

/-- An audio write. -/
theorem write_moved (h : Moved c moved jb) (buffer : List β) (ts : UInt32) (marker : Bool) :
    Alike (Moved c) (mpfJitterBufferWrite moved buffer (ts + c) marker)
      (mpfJitterBufferWrite jb buffer ts marker) := by
  obtain ⟨offset, rfl, hoffset⟩ := h
  have hmarked : Moved c
      (if marker && (jb.withOffset offset).writeTs ≤ (jb.withOffset offset).readTs then
        { jb.withOffset offset with writeSync := true } else jb.withOffset offset)
      (if marker && jb.writeTs ≤ jb.readTs then { jb with writeSync := true } else jb) := by
    simp only [JitterBuffer.withOffset_writeTs, JitterBuffer.withOffset_readTs]
    split
    · exact ⟨offset, rfl, .inl rfl⟩
    · exact ⟨offset, rfl, hoffset⟩
  unfold mpfJitterBufferWrite
  dsimp only
  rw [writePrepare_moved hmarked]
  generalize mpfJitterBufferWritePrepare
    (if marker && jb.writeTs ≤ jb.readTs then { jb with writeSync := true } else jb) ts = prepared
  obtain ⟨jb, writeTs⟩ := prepared
  simp only [Prod.map_apply, id_eq, JitterBuffer.move_readTs, JitterBuffer.move_writeTs,
    JitterBuffer.move_config, skewAdjust_move]
  split
  · exact (writeFrames_indifferent buffer writeTs).move c jb
  · split
    · exact .some ⟨moved_move jb, rfl⟩
    · split
      · exact (lateAdjust_indifferent buffer _ _).move c _
      · exact (lateAdjust_indifferent buffer _ _).move c jb

/-- An event write. -/
theorem eventWrite_moved (h : Moved c moved jb) (event : NamedEvent β) (ts : UInt32)
    (marker : Bool) :
    Alike (Moved c) (mpfJitterBufferEventWrite moved event (ts + c) marker)
      (mpfJitterBufferEventWrite jb event ts marker) := by
  unfold mpfJitterBufferEventWrite
  rw [writePrepare_moved h]
  exact (eventHandle_indifferent event _ marker).move c _

theorem statUpdate_sync (jb : JitterBuffer β) :
    (mpfJitterBufferStatUpdate jb).writeSync = jb.writeSync := by
  unfold mpfJitterBufferStatUpdate statMeasure statRestart
  split <;> split <;> try split
  all_goals rfl

theorem read_sync {jb' : JitterBuffer β} {frame : MediaFrame β}
    (h : mpfJitterBufferRead jb = some (jb', frame)) : jb'.writeSync = jb.writeSync := by
  obtain ⟨index, -, hresult⟩ := Option.map_eq_some_iff.mp h
  obtain rfl := congrArg Prod.fst hresult
  dsimp only
  split
  · exact statUpdate_sync _
  · rfl

/-- A read. -/
theorem read_moved (h : Moved c moved jb) :
    Alike (Moved c) (mpfJitterBufferRead moved) (mpfJitterBufferRead jb) := by
  obtain ⟨offset, rfl, hoffset⟩ := h
  rw [read_indifferent]
  cases hread : mpfJitterBufferRead jb with
  | none => exact .none
  | some next =>
    refine .some ⟨⟨offset, rfl, ?_⟩, rfl⟩
    rw [read_sync hread, read_indifferent.offset_eq hread]
    exact hoffset

theorem alike_map {O Q : Type} {x y : Option (JitterBuffer β × O)} (g : O → Q)
    (h : Alike (Moved c) x y) :
    Alike (Moved c) (x.map (Prod.map id g)) (y.map (Prod.map id g)) := by
  rcases h.cases with ⟨rfl, rfl⟩ | ⟨_, _, _, rfl, rfl, hmoved⟩
  · exact .none
  · exact .some ⟨hmoved, rfl⟩

theorem jbStep_moved (h : Moved c moved jb) (input : JbInput β) :
    Alike (Moved c) (jbStep moved (input.move c)) (jbStep jb input) := by
  cases input with
  | write buffer ts marker => exact alike_map _ (write_moved h buffer ts marker)
  | eventWrite event ts marker => exact alike_map _ (eventWrite_moved h event ts marker)
  | restart =>
    obtain ⟨offset, rfl, -⟩ := h
    exact .some ⟨⟨0, rfl, .inl rfl⟩, rfl⟩
  | read => exact alike_map _ (read_moved h)

end Moved

/-- Moving all timestamps by a constant changes no result of a write and no
frame of a read. -/
theorem timestamp_origin_independent (config : Option JbConfig) (format : FrameFormat)
    (c : UInt32) (inputs : List (JbInput β)) :
    (run jbStep (mpfJitterBufferCreate β config format) (inputs.map (JbInput.move c))).map
        Prod.snd =
      (run jbStep (mpfJitterBufferCreate β config format) inputs).map Prod.snd := by
  have halike := run_related (f := JbInput.move c)
    (fun moved jb input h _ => jbStep_moved h input) inputs
    (mpfJitterBufferCreate β config format) (mpfJitterBufferCreate β config format)
    ⟨0, rfl, .inl rfl⟩ (along_true inputs _)
  rcases halike.cases with ⟨hmoved, h⟩ | ⟨_, _, _, hmoved, h, -⟩
  · rw [hmoved, h]
  · rw [hmoved, h]
    rfl

end UniMrcp.Mpf
