import UniMrcp.Mpf.JitterWindow

/-!
# Restarting the jitter buffer

A restart moves the write position back to the read position and leaves the
slots as they are.  What they hold is returned again as soon as a later packet
moves the write position past them: `stale_frame_returned`.  So a restart
separates the frames before it from those behind it where the slots are empty:
`restart_isolates`.

Where a frame comes from is told by its bytes: they are of any type, so they may
carry the packet they were written with.
-/

namespace UniMrcp.Mpf

open UniMrcp.Lib.Traces

variable {β : Type}

/-- Every byte and every event that the call brings meets `P`. -/
def JbInput.Brings (P : β → Prop) : JbInput β → Prop
  | .write buffer _ _ => ∀ b ∈ buffer, P b
  | .eventWrite event _ _ => P event.rest
  | .restart => True
  | .read => True

def MediaFrame.Holds (P : β → Prop) (frame : MediaFrame β) : Prop :=
  (∀ audio ∈ frame.audio, ∀ b ∈ audio, P b) ∧ ∀ event ∈ frame.event, P event.rest

/-- Every byte and every event that the answer returns meets `P`. -/
def JbOutput.Shows (P : β → Prop) : JbOutput β → Prop
  | .frame media => media.Holds P
  | .result _ => True
  | .restarted => True

/-- No slot holds audio or an event. -/
def Drained (jb : JitterBuffer β) : Prop :=
  ∀ frame ∈ jb.frames, frame.audio = none ∧ frame.event = none

instance (jb : JitterBuffer β) : Decidable (Drained jb) :=
  inferInstanceAs (Decidable (∀ frame ∈ jb.frames, frame.audio = none ∧ frame.event = none))

/-- Every slot holds what meets `P`. -/
def AllHold (P : β → Prop) (frames : List (MediaFrame β)) : Prop := ∀ frame ∈ frames, frame.Holds P

theorem holds_empty (P : β → Prop) : (MediaFrame.empty : MediaFrame β).Holds P :=
  ⟨fun _ h => (nomatch h), fun _ h => (nomatch h)⟩

theorem Drained.allHold {jb : JitterBuffer β} (h : Drained jb) (P : β → Prop) :
    AllHold P jb.frames := by
  intro frame hframe
  obtain ⟨haudio, hevent⟩ := h frame hframe
  unfold MediaFrame.Holds
  rw [haudio, hevent]
  exact holds_empty P

theorem AllHold.modify {P : β → Prop} {frames : List (MediaFrame β)} (h : AllHold P frames)
    (index : Nat) {f : MediaFrame β → MediaFrame β}
    (hf : ∀ frame, MediaFrame.Holds P frame → (f frame).Holds P) :
    AllHold P (frames.modify index f) := by
  intro frame hframe
  obtain ⟨i, hi, rfl⟩ := List.mem_iff_getElem.mp hframe
  have hlt : i < frames.length := by simpa using hi
  rw [List.getElem_modify]
  split
  · exact hf _ (h _ (List.getElem_mem hlt))
  · exact h _ (List.getElem_mem hlt)

variable {writeTs : UInt32} {result : JbResult} {marker : Bool} {event : NamedEvent β}

section

variable {P : β → Prop} {jb jb' : JitterBuffer β} {buffer : List β}

/-! ## The writes -/

theorem writeFrames_holds (hbuffer : ∀ b ∈ buffer, P b) (h : AllHold P jb.frames)
    (hstep : writeFrames jb buffer writeTs = some (jb', result)) :
    AllHold P jb'.frames := by
  obtain ⟨frames', writeTs', rfl, hholds⟩ := writeFrames_frames
    (fun frames index bytes hbytes hframes => hframes.modify index (fun frame hframe =>
      ⟨fun audio haudio b hb => hbuffer b (hbytes b (by
        cases haudio
        exact hb)), hframe.2⟩)) h hstep
  exact hholds

theorem skewAdjust_frames (jb : JitterBuffer β) (ts writeTs delta : UInt32) :
    (skewAdjust jb ts writeTs delta).1.frames = jb.frames := by
  simp only [skewAdjust]
  split <;> rfl

theorem lateAdjust_holds {delta : UInt32} (hbuffer : ∀ b ∈ buffer, P b) (h : AllHold P jb.frames)
    (hstep : lateAdjust jb buffer writeTs delta = some (jb', result)) :
    AllHold P jb'.frames := by
  simp only [lateAdjust] at hstep
  split at hstep
  · split at hstep
    · cases hstep
      exact h
    · split at hstep
      · cases hstep
        exact h
      · refine writeFrames_holds hbuffer ?_ hstep
        split <;> exact h
  · exact writeFrames_holds hbuffer h hstep

theorem write_holds {ts : UInt32} (hbuffer : ∀ b ∈ buffer, P b) (h : AllHold P jb.frames)
    (hstep : mpfJitterBufferWrite jb buffer ts marker = some (jb', result)) :
    AllHold P jb'.frames := by
  have hmark : AllHold P
      (if marker && jb.writeTs ≤ jb.readTs then { jb with writeSync := true } else jb).frames := by
    split <;> exact h
  unfold mpfJitterBufferWrite at hstep
  dsimp only at hstep
  rw [← writeSynchronize_frames _ ts] at hmark
  change AllHold P (mpfJitterBufferWritePrepare _ ts).1.frames at hmark
  generalize mpfJitterBufferWritePrepare
    (if marker && jb.writeTs ≤ jb.readTs then { jb with writeSync := true } else jb) ts = prepared
    at hmark hstep
  obtain ⟨jb₁, writeTs⟩ := prepared
  split at hstep
  · exact writeFrames_holds hbuffer hmark hstep
  · split at hstep
    · cases hstep
      exact hmark
    · split at hstep
      · refine lateAdjust_holds hbuffer ?_ hstep
        rw [skewAdjust_frames]
        exact hmark
      · exact lateAdjust_holds hbuffer hmark hstep

/-! ## The events -/

theorem writeAdvance_frames (jb : JitterBuffer β) (writeTs : UInt32) :
    (writeAdvance jb writeTs).frames = jb.frames := by
  unfold writeAdvance
  split <;> rfl

theorem eventPut_holds (hevent : P event.rest) (h : AllHold P jb.frames)
    (hstep : eventPut jb event writeTs marker = some (jb', result)) : AllHold P jb'.frames := by
  obtain ⟨index, -, hnext⟩ := Option.map_eq_some_iff.mp hstep
  cases hnext
  rw [writeAdvance_frames]
  refine h.modify index (fun frame hframe => ⟨hframe.1, fun stored hstored => ?_⟩)
  cases hstored
  exact hevent

theorem eventPlace_holds (hevent : P event.rest) (h : AllHold P jb.frames)
    (hstep : eventPlace jb event writeTs marker = some (jb', result)) : AllHold P jb'.frames := by
  simp only [eventPlace] at hstep
  split at hstep
  · split at hstep
    · cases hstep
      exact h
    · split at hstep
      · cases hstep
        exact h
      · refine eventPut_holds hevent ?_ hstep
        split <;> exact h
  · split at hstep
    · cases hstep
      exact h
    · exact eventPut_holds hevent h hstep

theorem eventDetect_frames (jb : JitterBuffer β) (event : NamedEvent β) (writeTs : UInt32)
    (marker : Bool) : (eventDetect jb event writeTs marker).1.frames = jb.frames := by
  unfold eventDetect
  repeat' split
  all_goals rfl

theorem eventHandle_holds (hevent : P event.rest) (h : AllHold P jb.frames)
    (hstep : eventHandle jb event writeTs marker = some (jb', result)) :
    AllHold P jb'.frames := by
  simp only [eventHandle] at hstep
  rw [← eventDetect_frames jb event writeTs marker] at h
  generalize eventDetect jb event writeTs marker = detected at h hstep
  obtain ⟨jb₁, marker₁⟩ := detected
  split at hstep
  · have hbase : AllHold P (eventBase jb₁ event writeTs).frames := h
    exact eventPlace_holds hevent hbase hstep
  · split at hstep
    · cases hstep
      exact h
    · split at hstep
      · cases hstep
        exact h
      · exact eventPlace_holds hevent h hstep

theorem eventWrite_holds {ts : UInt32} (hevent : P event.rest) (h : AllHold P jb.frames)
    (hstep : mpfJitterBufferEventWrite jb event ts marker = some (jb', result)) :
    AllHold P jb'.frames := by
  rw [← writeSynchronize_frames jb ts] at h
  exact eventHandle_holds hevent h hstep

/-! ## The reads -/

theorem read_holds {frame : MediaFrame β} (h : AllHold P jb.frames)
    (hstep : mpfJitterBufferRead jb = some (jb', frame)) :
    AllHold P jb'.frames ∧ frame.Holds P := by
  obtain ⟨index, -, hnext⟩ := Option.map_eq_some_iff.mp hstep
  cases hnext
  constructor
  · have htake : AllHold P (frameTake jb index).frames :=
      h.modify index (fun _ _ => holds_empty P)
    split
    · obtain ⟨_, _, _, heq⟩ := statUpdate_eq (frameTake jb index)
      rw [heq]
      exact htake
    · exact htake
  · split
    · rw [List.getD_eq_getElem?_getD]
      cases hget : jb.frames[index]? with
      | none => exact holds_empty P
      | some frame => exact h frame (List.mem_of_getElem? hget)
    · exact holds_empty P

/-! ## The runs -/

/-- A call keeps what the slots hold, and shows only that. -/
theorem jbStep_holds {call : JbInput β} {next : JitterBuffer β × JbOutput β}
    (h : AllHold P jb.frames) (hcall : call.Brings P) (hstep : jbStep jb call = some next) :
    AllHold P next.1.frames ∧ next.2.Shows P := by
  cases call with
  | write buffer ts marker =>
    obtain ⟨written, hwrite, rfl⟩ := Option.map_eq_some_iff.mp hstep
    exact ⟨write_holds hcall h hwrite, trivial⟩
  | eventWrite event ts marker =>
    obtain ⟨written, hwrite, rfl⟩ := Option.map_eq_some_iff.mp hstep
    exact ⟨eventWrite_holds hcall h hwrite, trivial⟩
  | restart =>
    cases hstep
    exact ⟨h, trivial⟩
  | read =>
    obtain ⟨taken, hread, rfl⟩ := Option.map_eq_some_iff.mp hstep
    exact read_holds h hread

end

/-- Behind a restart of a buffer whose slots are empty, only what is written
behind it is returned. -/
theorem restart_isolates (config : Option JbConfig) (format : FrameFormat)
    (before later : List (JbInput β)) (P : β → Prop)
    (hdrained : ∀ first ∈ run jbStep (mpfJitterBufferCreate β config format) before,
      Drained first.1)
    (hlater : ∀ call ∈ later, call.Brings P) {final : JitterBuffer β × List (JbOutput β)}
    (hrun : run jbStep (mpfJitterBufferCreate β config format) (before ++ .restart :: later) =
      some final) :
    ∀ output ∈ final.2.drop (before.length + 1), output.Shows P := by
  rw [run_append] at hrun
  obtain ⟨first, hfirst, hrest⟩ := Option.bind_eq_some_iff.mp hrun
  obtain ⟨second, hsecond, rfl⟩ := Option.map_eq_some_iff.mp hrest
  obtain ⟨third, hthird, rfl⟩ := Option.map_eq_some_iff.mp hsecond
  have hlength := run_length before hfirst
  have hdrop : (first.2 ++ JbOutput.restarted :: third.2).drop (before.length + 1) = third.2 := by
    rw [← hlength, ← List.drop_drop, List.drop_left]
    rfl
  intro output houtput
  rw [hdrop] at houtput
  have hempty : AllHold P (mpfJitterBufferRestart first.1).frames :=
    (hdrained first hfirst).allHold P
  exact (run_answers (I := fun jb => AllHold P jb.frames)
    (fun jb call next hheld hcall hstep => jbStep_holds hheld hcall hstep) later _ hempty hlater
    hthird).2 output houtput

def fixedDelay (most : UInt32) : JbConfig := ⟨0, 0, most, false, false⟩

/-- A packet is written and played, the buffer is restarted, and another packet
is played. -/
theorem restart_isolates_played :
    ∃ final ∈ run jbStep (mpfJitterBufferCreate UInt8 (some (fixedDelay 100)) byteFormat)
      ([.write [1] 0 false, .read] ++ .restart :: [.write [2] 5000 false, .read]),
      .frame ⟨some [2], none, .none⟩ ∈ final.2 ∧
      ∀ output ∈ final.2.drop 3, output.Shows (· = 2) := by
  have hplayed : ∃ final ∈ run jbStep
      (mpfJitterBufferCreate UInt8 (some (fixedDelay 100)) byteFormat)
      ([.write [1] 0 false, .read] ++ .restart :: [.write [2] 5000 false, .read]),
      .frame ⟨some [2], none, .none⟩ ∈ final.2 := by decide +kernel
  obtain ⟨final, hrun, hframe⟩ := hplayed
  exact ⟨final, hrun, hframe, restart_isolates _ _ _ _ _ (by decide +kernel)
    (by simp [JbInput.Brings]) hrun⟩

/-- Three frames wait when the buffer is restarted; the second packet behind the
restart moves the write position past two of them, and one is returned. -/
theorem stale_frame_returned :
    ∃ final ∈ run jbStep (mpfJitterBufferCreate UInt8 (some (fixedDelay 100)) byteFormat)
      ([.write [1, 1, 1] 0 false] ++ .restart ::
        [.write [2] 5000 false, .write [2] 5400 false, .read, .read]),
      ¬ ∀ output ∈ final.2.drop 2, output.Shows (· = 2) := by
  refine ⟨_, rfl, fun h => ?_⟩
  have hshows := h (.frame ⟨some [1], none, .none⟩) (by decide +kernel)
  exact absurd (hshows.1 [1] rfl 1 (by simp)) (by decide)

end UniMrcp.Mpf
