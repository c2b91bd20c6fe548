import Mathlib.Data.List.Perm.Basic
import UniMrcp.Mpf.Buffer

/-!
# The media buffer as a byte FIFO

The stream of a buffer is the bytes written to it, with a mark for each event
at the number of bytes written before it.  A read takes the next bytes, and
reports the marks that it reaches for the first time.

* `frameReadLoop_spec`: one read, by induction on the chunks that are left;
* `buffer_refines_stream`: the answers of a buffer are those of its stream.
-/

namespace UniMrcp.Mpf

open UniMrcp.Apt UniMrcp.Lib UniMrcp.Lib.Traces

/-! ## Streams -/

/-- A type that is reported by the read that reaches the position. -/
structure Mark where
  type : Nat
  position : Nat
  deriving Repr, DecidableEq

/-- The bytes written, the number of bytes read, and the marks not reported. -/
structure ByteStream where
  written : Bytes
  read : Nat
  marks : List Mark
  deriving Repr, DecidableEq

def ByteStream.empty : ByteStream := ⟨[], 0, []⟩

/-- The mark that a write leaves in a stream of so many bytes.  A write of no
audio is reported as an event is. -/
def writeMark (position : Nat) : BufferCall → List Mark
  | .audioWrite data => if data = [] then [⟨mediaFrameTypeAudio, position⟩] else []
  | .eventWrite eventType => [⟨eventType, position⟩]
  | .frameRead _ _ => []

/-- What a call on a stream returns: the type that the frame comes with, the
bytes taken from the stream, the number of bytes that are missing, and the
marks that are reported. -/
inductive StreamAnswer where
  | written
  | frame (type : Nat) (data : Bytes) (padding : Nat) (reported : List Mark)
  deriving Repr, DecidableEq

def byteStreamStep (stream : ByteStream) (call : BufferCall) :
    Option (ByteStream × StreamAnswer) :=
  match call with
  | .audioWrite data => some ({ stream with
      written := stream.written ++ data
      marks := stream.marks ++ writeMark stream.written.length call }, .written)
  | .eventWrite _ => some ({ stream with
      marks := stream.marks ++ writeMark stream.written.length call }, .written)
  | .frameRead type size =>
    let data := (stream.written.drop stream.read).take size
    some ({ stream with
        read := stream.read + data.length
        marks := stream.marks.filter (fun mark => ¬mark.position < stream.read + size) },
      .frame type data (size - data.length)
        (stream.marks.filter (fun mark => mark.position < stream.read + size)))

/-- The types of the marks, added to a type. -/
def reportTypes (type : Nat) (marks : List Mark) : Nat :=
  marks.foldl (fun type mark => type ||| mark.type) type

/-- What the caller of the library sees of an answer: the types in one, and the
missing bytes as zeros. -/
def StreamAnswer.seen : StreamAnswer → BufferAnswer
  | .written => .written
  | .frame type data padding reported =>
    .frame (reportTypes (if data = [] then type else type ||| mediaFrameTypeAudio) reported)
      (data ++ List.replicate padding 0)

/-! ## Chunks that are left -/

/-- The chunks that are left, the rest of the current one first. -/
def MpfBuffer.left (buffer : MpfBuffer) : List Chunk :=
  match buffer.curChunk with
  | some chunk =>
    ⟨chunk.type, chunk.data.drop (chunk.data.length - buffer.remainingChunkSize)⟩ :: buffer.ring
  | none => buffer.ring

/-- The bytes of chunks. -/
def chunkBytes (chunks : List Chunk) : Bytes := chunks.flatMap Chunk.data

/-- The marks of chunks, from a position on. -/
def chunkMarks : Nat → List Chunk → List Mark
  | _, [] => []
  | position, chunk :: chunks =>
    (if chunk.data = [] then [⟨chunk.type, position⟩] else []) ++
      chunkMarks (position + chunk.data.length) chunks

theorem chunkMarks_append (position : Nat) (chunks chunks' : List Chunk) :
    chunkMarks position (chunks ++ chunks') = chunkMarks position chunks ++
      chunkMarks (position + (chunkBytes chunks).length) chunks' := by
  induction chunks generalizing position with
  | nil => rfl
  | cons chunk chunks ih =>
    simp [chunkMarks, chunkBytes, ih, Nat.add_assoc]

theorem le_of_mem_chunkMarks {position : Nat} {chunks : List Chunk} {mark : Mark}
    (h : mark ∈ chunkMarks position chunks) : position ≤ mark.position := by
  induction chunks generalizing position with
  | nil => exact nomatch h
  | cons chunk chunks ih =>
    rcases List.mem_append.mp h with h | h
    · split at h
      · obtain rfl := List.mem_singleton.mp h
        exact Nat.le_refl _
      · exact nomatch h
    · have hle := ih h
      omega

/-- Behind the bytes of a read there is no mark that it reaches. -/
theorem filter_chunkMarks_of_le {position bound : Nat} (chunks : List Chunk)
    (h : bound ≤ position) :
    (chunkMarks position chunks).filter (fun mark => mark.position < bound) = [] ∧
      (chunkMarks position chunks).filter (fun mark => ¬mark.position < bound) =
        chunkMarks position chunks := by
  constructor
  · refine List.filter_eq_nil_iff.mpr fun mark hmark => ?_
    have hle := le_of_mem_chunkMarks hmark
    simp only [decide_eq_true_eq]
    omega
  · refine List.filter_eq_self.mpr fun mark hmark => ?_
    have hle := le_of_mem_chunkMarks hmark
    simp only [decide_eq_true_eq]
    omega

/-- The current chunk has bytes left, the chunks with bytes are of audio, and the
size is that of the bytes left. -/
structure ChunksValid (buffer : MpfBuffer) : Prop where
  current : ∀ chunk ∈ buffer.curChunk, 0 < buffer.remainingChunkSize ∧
    buffer.remainingChunkSize ≤ chunk.data.length
  audio : ∀ chunk ∈ buffer.left, chunk.data ≠ [] → chunk.type = mediaFrameTypeAudio
  size : buffer.size = (chunkBytes buffer.left).length

variable {buffer : MpfBuffer} {stream : ByteStream}

/-- The chunk to read from is the first of those left. -/
theorem chunkFetch_cases (hvalid : ChunksValid buffer) :
    (chunkFetch buffer = none ∧ buffer.left = []) ∨
      ∃ chunk fetched, chunkFetch buffer = some (chunk, fetched) ∧
        fetched.curChunk = some chunk ∧ fetched.left = buffer.left ∧
        fetched.size = buffer.size ∧ fetched.remainingChunkSize ≤ chunk.data.length := by
  cases hcur : buffer.curChunk with
  | some chunk =>
    refine .inr ⟨chunk, buffer, ?_, hcur, rfl, rfl, (hvalid.current chunk hcur).2⟩
    simp [chunkFetch, hcur]
  | none =>
    cases hring : buffer.ring with
    | nil =>
      left
      simp [chunkFetch, MpfBuffer.left, hcur, hring]
    | cons chunk ring =>
      right
      refine ⟨chunk, { buffer with
        ring := ring, curChunk := some chunk, remainingChunkSize := chunk.data.length },
        ?_, rfl, ?_, rfl, Nat.le_refl _⟩
      · simp [chunkFetch, hcur, hring]
      · simp [MpfBuffer.left, hcur, hring]

/-! ## One read -/

/-- What a loop leaves of a frame and of a buffer with the chunks, the first of
which is at the position. -/
structure ReadFrom (position : Nat) (chunks : List Chunk) (frame : FrameRead)
    (result : MpfBuffer × FrameRead) : Prop where
  valid : ChunksValid result.1
  copied : result.2.copied = frame.copied ++ (chunkBytes chunks).take frame.remaining
  remaining : result.2.remaining = frame.remaining - (chunkBytes chunks).length
  left : chunkBytes result.1.left = (chunkBytes chunks).drop frame.remaining
  marks : chunkMarks (position + ((chunkBytes chunks).take frame.remaining).length)
      result.1.left =
    (chunkMarks position chunks).filter (fun mark => ¬mark.position < position + frame.remaining)
  type : result.2.type = reportTypes
    (if (chunkBytes chunks).take frame.remaining = [] then frame.type
      else frame.type ||| mediaFrameTypeAudio)
    ((chunkMarks position chunks).filter
      (fun mark => mark.position < position + frame.remaining))

/-- The loop finds no chunk. -/
theorem readFrom_nil (position : Nat) (frame : FrameRead) (hleft : buffer.left = [])
    (hvalid : ChunksValid buffer) :
    ReadFrom position [] frame (buffer, frame) where
  valid := hvalid
  copied := by simp [chunkBytes]
  remaining := by simp [chunkBytes]
  left := by simp [hleft, chunkBytes]
  marks := by simp [hleft, chunkMarks]
  type := by simp [chunkBytes, chunkMarks, reportTypes]

/-- The frame is full. -/
theorem readFrom_full (position : Nat) {frame : FrameRead} (hfull : frame.remaining = 0)
    (hvalid : ChunksValid buffer) : ReadFrom position buffer.left frame (buffer, frame) := by
  have hmarks := filter_chunkMarks_of_le buffer.left (Nat.le_refl position)
  refine ⟨hvalid, ?_, ?_, ?_, ?_, ?_⟩
  · simp [hfull]
  · simp [hfull]
  · simp [hfull]
  · rw [hfull]
    exact hmarks.2.symm
  · rw [hfull]
    simp [hmarks.1, reportTypes]

section chunk

variable {position : Nat} {chunk : Chunk} {chunks : List Chunk} {frame : FrameRead}

section

variable (haudio : chunk.data ≠ [] → chunk.type = mediaFrameTypeAudio)
include haudio

/-- The frame ends within the chunk. -/
theorem readFrom_within (hlt : frame.remaining < chunk.data.length) (hpos : 0 < frame.remaining)
    (hleft : buffer.left = ⟨chunk.type, chunk.data.drop frame.remaining⟩ :: chunks)
    (hvalid : ChunksValid buffer) :
    ReadFrom position (chunk :: chunks) frame
      (buffer, ⟨frame.type ||| chunk.type, frame.copied ++ chunk.data.take frame.remaining,
        0⟩) := by
  have hdata : chunk.data ≠ [] := List.ne_nil_of_length_pos (by omega)
  have hrest : chunk.data.drop frame.remaining ≠ [] :=
    List.ne_nil_of_length_pos (by rw [List.length_drop]; omega)
  have htake : (chunkBytes (chunk :: chunks)).take frame.remaining =
      chunk.data.take frame.remaining := by
    exact List.take_append_of_le_length (by omega)
  have hlen : (chunk.data.take frame.remaining).length = frame.remaining :=
    List.length_take_of_le (by omega)
  have hle : position + frame.remaining ≤ position + chunk.data.length := by omega
  have hmarks := filter_chunkMarks_of_le chunks hle
  refine ⟨hvalid, by rw [htake], ?_, ?_, ?_, ?_⟩
  · simp only [chunkBytes, List.flatMap_cons, List.length_append]
    omega
  · rw [hleft]
    simp only [chunkBytes, List.flatMap_cons]
    rw [List.drop_append_of_le_length (by omega)]
  · have hposition : position + frame.remaining + (chunk.data.length - frame.remaining) =
        position + chunk.data.length := by omega
    rw [htake, hlen, hleft]
    simp only [chunkMarks, if_neg hdata, if_neg hrest, List.length_drop, hposition]
    exact hmarks.2.symm
  · have htaken : chunk.data.take frame.remaining ≠ [] :=
      List.ne_nil_of_length_pos (by omega)
    rw [htake, if_neg htaken]
    simp [chunkMarks, if_neg hdata, hmarks.1, haudio hdata, reportTypes]

/-- The frame goes on behind the chunk, or ends with it. -/
theorem ReadFrom.cons {result : MpfBuffer × FrameRead} (hle : chunk.data.length ≤ frame.remaining)
    (hpos : 0 < frame.remaining)
    (h : ReadFrom (position + chunk.data.length) chunks
      ⟨frame.type ||| chunk.type, frame.copied ++ chunk.data,
        frame.remaining - chunk.data.length⟩ result) :
    ReadFrom position (chunk :: chunks) frame result := by
  obtain ⟨hvalid, hcopied, hremaining, hleft, hmarks, htype⟩ := h
  have htake : (chunkBytes (chunk :: chunks)).take frame.remaining = chunk.data ++
      (chunkBytes chunks).take (frame.remaining - chunk.data.length) := by
    simp only [chunkBytes, List.flatMap_cons]
    rw [List.take_append, List.take_of_length_le hle]
  have hbound : position + chunk.data.length + (frame.remaining - chunk.data.length) =
      position + frame.remaining := by omega
  refine ⟨hvalid, ?_, ?_, ?_, ?_, ?_⟩
  · rw [hcopied, htake, List.append_assoc]
  · rw [hremaining]
    simp only [chunkBytes, List.flatMap_cons, List.length_append]
    omega
  · rw [hleft]
    simp only [chunkBytes, List.flatMap_cons]
    rw [List.drop_append, List.drop_of_length_le hle, List.nil_append]
  · rw [htake, List.length_append, ← Nat.add_assoc, hmarks, hbound]
    by_cases hdata : chunk.data = []
    · simp only [chunkMarks, hdata, if_true, List.singleton_append]
      rw [List.filter_cons_of_neg]
      simp only [decide_eq_true_eq]
      omega
    · simp only [chunkMarks, hdata, if_false, List.nil_append]
  · rw [htype, htake, hbound]
    by_cases hdata : chunk.data = []
    · simp only [chunkMarks, hdata, if_true, List.nil_append, List.length_nil, Nat.add_zero,
        Nat.sub_zero, List.singleton_append]
      rw [List.filter_cons_of_pos]
      · simp only [reportTypes, List.foldl_cons]
        split
        · rfl
        · rw [Nat.or_assoc, Nat.or_comm chunk.type, ← Nat.or_assoc]
      · simp only [decide_eq_true_eq]
        omega
    · simp only [chunkMarks, List.nil_append, List.append_eq_nil_iff, hdata,
        false_and, if_false, haudio hdata, Nat.or_assoc, Nat.or_self, ite_self]

end

end chunk

/-- The loop reads from the chunks that are left, as long as it has a pass for
each and one for the end. -/
theorem frameReadLoop_spec (chunks : List Chunk) (fuel : Nat) (buffer : MpfBuffer)
    (frame : FrameRead) (position : Nat) (hfuel : chunks.length < fuel)
    (hleft : buffer.left = chunks) (hvalid : ChunksValid buffer) (hpos : 0 < frame.remaining) :
    ReadFrom position chunks frame (frameReadLoop fuel buffer frame) := by
  induction chunks generalizing fuel buffer frame position with
  | nil =>
    obtain ⟨fuel, rfl⟩ : ∃ m, fuel = m + 1 := ⟨fuel - 1, by omega⟩
    rcases chunkFetch_cases hvalid with ⟨hfetch, -⟩ | ⟨chunk, fetched, -, hcur, hsame, -⟩
    · simp only [frameReadLoop, hfetch]
      exact readFrom_nil position frame hleft hvalid
    · rw [hleft] at hsame
      simp only [MpfBuffer.left, hcur] at hsame
      exact nomatch hsame
  | cons chunk chunks ih =>
    obtain ⟨fuel, rfl⟩ : ∃ m, fuel = m + 1 := ⟨fuel - 1, by omega⟩
    rcases chunkFetch_cases hvalid with ⟨-, hnil⟩ | ⟨cur, fetched, hfetch, hcur, hsame, hsize, hle⟩
    · exact nomatch hleft.symm.trans hnil
    · -- the chunk that is left is the rest of the current one
      have hchunk := hsame.trans hleft
      simp only [MpfBuffer.left, hcur] at hchunk
      obtain ⟨rfl, rfl⟩ := hchunk
      generalize hsrc : cur.data.drop (cur.data.length - fetched.remainingChunkSize) = src at *
      have hlen : fetched.remainingChunkSize = src.length := by
        rw [← hsrc, List.length_drop]
        omega
      have haudio := hvalid.audio
      have hbytes := hvalid.size
      rw [hleft] at haudio hbytes
      simp only [frameReadLoop, hfetch, hsrc]
      split
      · rename_i hlt
        rw [hlen] at hlt
        have hdrop : cur.data.drop (cur.data.length - (src.length - frame.remaining)) =
            src.drop frame.remaining := by
          rw [← hsrc, List.drop_drop, List.length_drop]
          congr 1
          omega
        have hrest : MpfBuffer.left { fetched with
            remainingChunkSize := fetched.remainingChunkSize - frame.remaining
            size := fetched.size - frame.remaining } =
              ⟨cur.type, src.drop frame.remaining⟩ :: fetched.ring := by
          simp [MpfBuffer.left, hcur, hlen, hdrop]
        refine readFrom_within (haudio _ List.mem_cons_self) hlt hpos hrest ⟨?_, ?_, ?_⟩
        · intro chunk hchunk
          cases hcur.symm.trans hchunk
          dsimp only
          omega
        · rw [hrest]
          intro chunk hchunk hne
          rcases List.mem_cons.mp hchunk with rfl | hchunk
          · exact haudio ⟨cur.type, src⟩ List.mem_cons_self
              (List.ne_nil_of_length_pos (by dsimp only; omega))
          · exact haudio _ (List.mem_cons_of_mem _ hchunk) hne
        · rw [hrest]
          simp only [chunkBytes, List.flatMap_cons, List.length_append, List.length_drop]
            at hbytes ⊢
          omega
      · rename_i hge
        have hvalid' : ChunksValid { fetched with
            size := fetched.size - fetched.remainingChunkSize
            remainingChunkSize := 0, curChunk := none } := by
          refine ⟨fun _ h => (nomatch h), ?_, ?_⟩
          · exact fun chunk hchunk => haudio _ (List.mem_cons_of_mem _ hchunk)
          · simp only [MpfBuffer.left, chunkBytes, List.flatMap_cons, List.length_append]
              at hbytes ⊢
            omega
        refine ReadFrom.cons (haudio _ List.mem_cons_self) (by dsimp only; omega) hpos ?_
        rw [hlen] at hvalid' ⊢
        rw [List.take_length]
        split
        · rename_i hfull
          exact readFrom_full _ hfull hvalid'
        · rename_i hmore
          refine ih _ _ _ _ ?_ rfl hvalid' (Nat.pos_of_ne_zero hmore)
          simp only [List.length_cons] at hfuel
          omega

/-! ## Runs -/

/-- The chunks that are left are the stream from the next byte on. -/
structure Streams (buffer : MpfBuffer) (stream : ByteStream) : Prop where
  valid : ChunksValid buffer
  bytes : chunkBytes buffer.left = stream.written.drop stream.read
  marks : stream.marks = chunkMarks stream.read buffer.left
  read_le : stream.read ≤ stream.written.length

theorem streams_create : Streams mpfBufferCreate .empty where
  valid := ⟨fun _ h => (nomatch h), fun _ h => (nomatch h), rfl⟩
  bytes := rfl
  marks := rfl
  read_le := Nat.le_refl 0

/-- The number of bytes left. -/
theorem Streams.size (h : Streams buffer stream) :
    mpfBufferGetSize buffer + stream.read = stream.written.length := by
  have hle := h.read_le
  rw [mpfBufferGetSize, h.valid.size, h.bytes, List.length_drop]
  omega

/-- A chunk behind those left, of audio if it has bytes. -/
theorem Streams.write (h : Streams buffer stream) (chunk : Chunk)
    (haudio : chunk.data ≠ [] → chunk.type = mediaFrameTypeAudio) :
    Streams
      { buffer with ring := buffer.ring ++ [chunk], size := buffer.size + chunk.data.length }
      { stream with
        written := stream.written ++ chunk.data
        marks := stream.marks ++
          (if chunk.data = [] then [⟨chunk.type, stream.written.length⟩] else []) } := by
  have hleft : MpfBuffer.left { buffer with
      ring := buffer.ring ++ [chunk], size := buffer.size + chunk.data.length } =
        buffer.left ++ [chunk] := by
    cases hcur : buffer.curChunk <;> simp [MpfBuffer.left, hcur]
  have hle := h.read_le
  refine ⟨⟨h.valid.current, ?_, ?_⟩, ?_, ?_, ?_⟩
  · rw [hleft]
    intro other hother
    rcases List.mem_append.mp hother with hother | hother
    · exact h.valid.audio other hother
    · rw [List.mem_singleton.mp hother]
      exact haudio
  · rw [hleft]
    simp [chunkBytes, h.valid.size]
  · have hbytes := h.bytes
    rw [hleft]
    simp only [chunkBytes, List.flatMap_append, List.flatMap_singleton] at hbytes ⊢
    rw [hbytes, List.drop_append_of_le_length hle]
  · have hend : stream.read + (chunkBytes buffer.left).length = stream.written.length := by
      rw [h.bytes, List.length_drop]
      omega
    rw [hleft, chunkMarks_append, hend, ← h.marks]
    simp [chunkMarks]
  · simp only [List.length_append]
    omega

/-- A read of the buffer is one of the stream. -/
theorem Streams.frameRead (h : Streams buffer stream) (type size : Nat) (hsize : 0 < size) :
    ∃ next stream' answer, bufferStep buffer (.frameRead type size) = some (next, answer.seen) ∧
      byteStreamStep stream (.frameRead type size) = some (stream', answer) ∧
      Streams next stream' := by
  have hfuel : buffer.left.length < buffer.ring.length + 2 := by
    cases hcur : buffer.curChunk <;> simp [MpfBuffer.left, hcur]
  obtain ⟨hvalid, hcopied, hremaining, hleft, hmarks, htype⟩ := frameReadLoop_spec buffer.left
    (buffer.ring.length + 2) buffer ⟨type, [], size⟩ stream.read hfuel rfl h.valid hsize
  have hle := h.read_le
  dsimp only at hcopied hremaining hleft hmarks htype
  rw [h.bytes] at hcopied hremaining hleft hmarks htype
  rw [← h.marks] at hmarks htype
  refine ⟨_, _, _, ?_, rfl, hvalid, ?_, hmarks.symm, ?_⟩
  · simp only [bufferStep, mpfBufferFrameRead, StreamAnswer.seen, hcopied, htype,
      Option.some.injEq, Prod.mk.injEq, BufferAnswer.frame.injEq, true_and]
    refine congrArg₂ _ rfl (congrArg (List.replicate · 0) ?_)
    rw [List.length_take]
    omega
  · rw [hleft, List.drop_drop, List.length_take, List.length_drop]
    rcases Nat.le_total size (stream.written.length - stream.read) with hsize | hsize
    · rw [Nat.min_eq_left hsize]
    · rw [List.drop_of_length_le (by omega), List.drop_of_length_le (by dsimp only; omega)]
  · dsimp only
    rw [List.length_take, List.length_drop]
    omega

/-- The sizes of the frames to read are not zero. -/
def BufferCall.Sized : BufferCall → Prop
  | .frameRead _ size => 0 < size
  | _ => True

instance : DecidablePred BufferCall.Sized := fun call => by
  cases call <;> unfold BufferCall.Sized <;> infer_instance

/-- Each call of the buffer is answered as one of the stream. -/
theorem Streams.step {call : BufferCall} (h : Streams buffer stream) (hsized : call.Sized) :
    Alike Streams (bufferStep buffer call)
      ((byteStreamStep stream call).map (fun next => (next.1, next.2.seen))) := by
  cases call with
  | audioWrite data => exact .some ⟨h.write ⟨mediaFrameTypeAudio, data⟩ (fun _ => rfl), rfl⟩
  | eventWrite eventType =>
    have hwrite := h.write ⟨eventType, []⟩ (fun hne => absurd rfl hne)
    simp only [List.append_nil, if_true] at hwrite
    exact .some ⟨hwrite, rfl⟩
  | frameRead type size =>
    obtain ⟨next, stream', answer, hbuffer, hstream, hnext⟩ := h.frameRead type size hsized
    rw [hbuffer, hstream]
    exact .some ⟨hnext, rfl⟩

/-- The bytes that a call writes. -/
def BufferCall.bytes : BufferCall → Bytes
  | .audioWrite data => data
  | _ => []

/-- The marks that calls leave, from a number of bytes on. -/
def callMarks : Nat → List BufferCall → List Mark
  | _, [] => []
  | position, call :: calls =>
    writeMark position call ++ callMarks (position + call.bytes.length) calls

/-- The bytes that an answer takes from the stream. -/
def StreamAnswer.data : StreamAnswer → Bytes
  | .written => []
  | .frame _ data _ _ => data

/-- The marks that an answer reports. -/
def StreamAnswer.reported : StreamAnswer → List Mark
  | .written => []
  | .frame _ _ _ reported => reported

/-- What a call adds to the stream and takes from it. -/
theorem byteStreamStep_spec (stream : ByteStream) (call : BufferCall)
    (hle : stream.read ≤ stream.written.length) :
    ∃ next answer, byteStreamStep stream call = some (next, answer) ∧
      next.written = stream.written ++ call.bytes ∧
      next.written.take next.read = stream.written.take stream.read ++ answer.data ∧
      next.read ≤ next.written.length ∧
      (answer.reported ++ next.marks).Perm
        (stream.marks ++ writeMark stream.written.length call) := by
  cases call with
  | audioWrite data =>
    refine ⟨_, _, rfl, rfl, ?_, ?_, .refl _⟩
    · simp only [StreamAnswer.data, List.append_nil]
      exact List.take_append_of_le_length hle
    · simp only [List.length_append]
      omega
  | eventWrite eventType =>
    refine ⟨_, _, rfl, ?_, ?_, hle, .refl _⟩
    · simp [BufferCall.bytes]
    · simp [StreamAnswer.data]
  | frameRead type size =>
    refine ⟨_, _, rfl, ?_, ?_, ?_, ?_⟩
    · simp [BufferCall.bytes]
    · simp only [StreamAnswer.data]
      rw [List.take_add, List.length_take, ← List.take_eq_take_min]
    · simp only [List.length_take, List.length_drop]
      omega
    · simp only [StreamAnswer.reported, writeMark, List.append_nil]
      simpa only [decide_not] using List.filter_append_perm
        (fun mark : Mark => decide (mark.position < stream.read + size)) stream.marks

/-- What calls add to a stream and take from it. -/
theorem run_byteStreamStep (calls : List BufferCall) (stream : ByteStream)
    (hle : stream.read ≤ stream.written.length) :
    ∃ final answers, run byteStreamStep stream calls = some (final, answers) ∧
      final.written = stream.written ++ calls.flatMap BufferCall.bytes ∧
      final.written.take final.read =
        stream.written.take stream.read ++ answers.flatMap StreamAnswer.data ∧
      (answers.flatMap StreamAnswer.reported ++ final.marks).Perm
        (stream.marks ++ callMarks stream.written.length calls) := by
  induction calls generalizing stream with
  | nil => exact ⟨stream, [], rfl, by simp, by simp, by simp [callMarks]⟩
  | cons call calls ih =>
    obtain ⟨next, answer, hstep, hwritten, htaken, hle', hmarks⟩ :=
      byteStreamStep_spec stream call hle
    obtain ⟨final, answers, hrun, hwritten', htaken', hmarks'⟩ := ih next hle'
    refine ⟨final, answer :: answers, by simp [run, hstep, hrun], ?_, ?_, ?_⟩
    · rw [hwritten', hwritten, List.flatMap_cons, List.append_assoc]
    · rw [htaken', htaken, List.flatMap_cons, List.append_assoc]
    · -- what the first answer reports is no longer in the stream
      rw [hwritten, List.length_append] at hmarks'
      simp only [List.flatMap_cons, List.append_assoc, callMarks]
      refine (hmarks'.append_left _).trans ?_
      rw [← List.append_assoc, ← List.append_assoc]
      exact hmarks.append_right _

/-- A buffer is a FIFO of bytes with marks.  Behind any calls, the answers are
those of the stream of bytes: the bytes taken are the first of those written, the
size is the number of the others, and each mark is reported once or not yet.  The
next read takes the next bytes, is padded only if it leaves the buffer empty, and
reports the marks that it is the first to reach. -/
theorem buffer_refines_stream (calls : List BufferCall) (hsized : ∀ call ∈ calls, call.Sized) :
    ∃ buffer stream answers,
      run bufferStep mpfBufferCreate calls = some (buffer, answers.map StreamAnswer.seen) ∧
      run byteStreamStep .empty calls = some (stream, answers) ∧
      stream.written = calls.flatMap BufferCall.bytes ∧
      stream.written.take stream.read = answers.flatMap StreamAnswer.data ∧
      mpfBufferGetSize buffer + stream.read = stream.written.length ∧
      (answers.flatMap StreamAnswer.reported ++ stream.marks).Perm (callMarks 0 calls) ∧
      ∀ type size, 0 < size → ∃ next data padding reported,
        bufferStep buffer (.frameRead type size) =
          some (next, (StreamAnswer.frame type data padding reported).seen) ∧
        data.length + padding = size ∧ data <+: stream.written.drop stream.read ∧
        (0 < padding → mpfBufferGetSize next = 0) ∧
        ∀ mark, mark ∈ reported ↔ mark ∈ stream.marks ∧ mark.position < stream.read + size := by
  obtain ⟨stream, answers, hrun, hwritten, htaken, hmarks⟩ :=
    run_byteStreamStep calls .empty (Nat.le_refl 0)
  have halike : Alike Streams (run bufferStep mpfBufferCreate calls)
      ((run byteStreamStep .empty calls).map
        (fun final => (final.1, final.2.map StreamAnswer.seen))) := by
    rw [← run_map]
    conv => arg 2; rw [← List.map_id' calls]
    exact run_related
      (fun _ _ _ h hcall => h.step hcall) calls _ _ streams_create
      (along_of_forall calls _ hsized)
  rw [hrun] at halike
  rcases halike.cases with ⟨-, hnone⟩ | ⟨buffer, _, _, hbuffer, hstream, h⟩
  · exact nomatch hnone
  · cases hstream
    refine ⟨buffer, stream, answers, hbuffer, hrun, hwritten, htaken, h.size, hmarks, ?_⟩
    intro type size hsize
    obtain ⟨next, _, _, hread, hstep, hnext⟩ := h.frameRead type size hsize
    cases hstep
    refine ⟨next, _, _, _, hread, ?_, List.take_prefix _ _, fun hpadding => ?_, fun mark => ?_⟩
    · rw [List.length_take]
      omega
    · have hleft := hnext.size
      simp only [List.length_take, List.length_drop] at hleft hpadding
      omega
    · simp

/-- Two chunks with an event between them, in frames of three bytes. -/
theorem buffer_refines_stream_eventBetween :
    let calls := [BufferCall.audioWrite [1, 2, 3, 4], .eventWrite mediaFrameTypeEvent,
      .audioWrite [5], .frameRead 0 3, .frameRead 0 3]
    (∀ call ∈ calls, call.Sized) ∧
    (run bufferStep mpfBufferCreate calls).map Prod.snd =
      some [.written, .written, .written, .frame 1 [1, 2, 3], .frame 5 [4, 5, 0]] ∧
    ∃ buffer stream answers,
      run bufferStep mpfBufferCreate calls = some (buffer, answers.map StreamAnswer.seen) ∧
      run byteStreamStep .empty calls = some (stream, answers) ∧
      mpfBufferGetSize buffer + stream.read = stream.written.length := by
  intro calls
  have hsized : ∀ call ∈ calls, call.Sized := by decide
  obtain ⟨buffer, stream, answers, hbuffer, hstream, -, -, hsize, -⟩ :=
    buffer_refines_stream calls hsized
  exact ⟨hsized, by decide, buffer, stream, answers, hbuffer, hstream, hsize⟩

/-! ## Restart -/

/-- The size is that of the bytes left, some of which are in the current chunk. -/
structure Counted (buffer : MpfBuffer) : Prop where
  size : buffer.size = buffer.remainingChunkSize + (chunkBytes buffer.ring).length
  current : buffer.curChunk = none ↔ buffer.remainingChunkSize = 0

theorem frameReadLoop_counted (fuel : Nat) (frame : FrameRead) (h : Counted buffer) :
    Counted (frameReadLoop fuel buffer frame).1 := by
  induction fuel generalizing buffer frame with
  | zero => exact h
  | succ fuel ih =>
    have hfetch : ∀ chunk fetched, chunkFetch buffer = some (chunk, fetched) →
        fetched.curChunk = some chunk ∧
          fetched.size = fetched.remainingChunkSize + (chunkBytes fetched.ring).length := by
      intro chunk fetched hfetch
      unfold chunkFetch at hfetch
      split at hfetch
      · next hcur =>
        cases hfetch
        exact ⟨hcur, h.size⟩
      · next hcur =>
        split at hfetch
        · cases hfetch
        · next hring =>
          cases hfetch
          have hsize := h.size
          rw [h.current.mp hcur, hring] at hsize
          simpa [chunkBytes] using hsize
    rw [frameReadLoop]
    split
    · exact h
    · next chunk fetched hchunk =>
      obtain ⟨hcur, hsize⟩ := hfetch chunk fetched hchunk
      dsimp only
      split
      · refine ⟨by dsimp only; omega, ?_⟩
        simp only [hcur, reduceCtorEq, false_iff]
        omega
      · -- the chunk is used up
        have hnext : Counted { fetched with
            size := fetched.size - fetched.remainingChunkSize
            remainingChunkSize := 0
            curChunk := none } := ⟨by dsimp only; omega, by simp⟩
        split
        · exact hnext
        · exact ih _ hnext

theorem Counted.step {call : BufferCall} {next : MpfBuffer × BufferAnswer} (h : Counted buffer)
    (hstep : bufferStep buffer call = some next) : Counted next.1 := by
  cases call with
  | audioWrite data =>
    cases hstep
    have hsize := h.size
    refine ⟨?_, h.current⟩
    simp only [mpfBufferAudioWrite, chunkBytes, List.flatMap_append, List.flatMap_singleton,
      List.length_append] at hsize ⊢
    omega
  | eventWrite eventType =>
    cases hstep
    refine ⟨?_, h.current⟩
    simpa [mpfBufferEventWrite, chunkBytes] using h.size
  | frameRead type size =>
    obtain rfl := Option.some.inj hstep
    exact frameReadLoop_counted (buffer.ring.length + 2) ⟨type, [], size⟩ h

/-- The answers to calls, and the size behind them. -/
def seen (buffer : MpfBuffer) (calls : List BufferCall) : Option (List BufferAnswer × Nat) :=
  (run bufferStep buffer calls).map (fun final => (final.2, mpfBufferGetSize final.1))

/-- Behind a restart the buffer is as a new one, whatever was called before. -/
def RestartForgets (calls : List BufferCall) : Prop :=
  ∃ final ∈ run bufferStep mpfBufferCreate calls,
    ∀ later, seen (mpfBufferRestart final.1) later = seen mpfBufferCreate later

/-- A restart forgets everything exactly if all the audio has been read. -/
theorem restart_forgets_iff (calls : List BufferCall) :
    RestartForgets calls ↔
      ∃ final ∈ run bufferStep mpfBufferCreate calls, mpfBufferGetSize final.1 = 0 := by
  constructor
  · rintro ⟨final, hrun, hseen⟩
    exact ⟨final, hrun, congrArg Prod.snd (Option.some.inj (hseen []))⟩
  · rintro ⟨final, hrun, hsize⟩
    have hcounted : Counted final.1 :=
      (run_answers (P := fun _ => True) (Q := fun _ => True)
        (fun _ _ _ h _ hstep => ⟨Counted.step h hstep, trivial⟩) calls mpfBufferCreate
        ⟨rfl, by simp [mpfBufferCreate]⟩ (fun _ _ => trivial) hrun).1
    have hremaining : final.1.remainingChunkSize = 0 := by
      have := hcounted.size
      unfold mpfBufferGetSize at hsize
      omega
    have hnew : mpfBufferRestart final.1 = mpfBufferCreate := by
      unfold mpfBufferRestart mpfBufferCreate
      rw [hcounted.current.mpr hremaining, hremaining, show final.1.size = 0 from hsize]
    exact ⟨final, hrun, fun later => by rw [hnew]⟩

/-- The rest of a chunk that was being read is returned behind the restart. -/
theorem restart_keeps_chunk :
    ¬RestartForgets [.audioWrite [1, 2, 3, 4], .frameRead 0 2] ∧
      ∃ final ∈ run bufferStep mpfBufferCreate [.audioWrite [1, 2, 3, 4], .frameRead 0 2],
        seen (mpfBufferRestart final.1) [.frameRead 0 2] = some ([.frame 1 [3, 4]], 0) ∧
        seen mpfBufferCreate [.frameRead 0 2] = some ([.frame 0 [0, 0]], 0) := by
  refine ⟨?_, _, rfl, by decide, by decide⟩
  rintro ⟨final, ⟨⟩, hseen⟩
  exact absurd (hseen [.frameRead 0 2]) (by decide)

end UniMrcp.Mpf
