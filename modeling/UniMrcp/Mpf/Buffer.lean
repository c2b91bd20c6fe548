import Mathlib.Data.List.Basic
import UniMrcp.Apt.TextStream
import UniMrcp.Lib.Traces
import UniMrcp.Mpf.Frame

/-!
# Media buffer

A model of `mpf/src/mpf_buffer.c`: a queue of chunks of audio and of events,
from which frames of any size are read.  The mutex is left out, each call runs
under it.
-/

namespace UniMrcp.Mpf

open UniMrcp.Apt UniMrcp.Lib

/-- `mpf_chunk_t`: the type and the codec frame of its frame. -/
structure Chunk where
  type : Nat
  data : Bytes
  deriving Repr, DecidableEq

/-- `mpf_buffer_t` -/
structure MpfBuffer where
  ring : List Chunk
  curChunk : Option Chunk
  remainingChunkSize : Nat
  size : Nat
  deriving Repr, DecidableEq

/-- `mpf_buffer_create` -/
def mpfBufferCreate : MpfBuffer := ⟨[], none, 0, 0⟩

section

variable (buffer : MpfBuffer)

/-- `mpf_buffer_restart` -/
def mpfBufferRestart : MpfBuffer := { buffer with ring := [] }

/-- `mpf_buffer_audio_write` -/
def mpfBufferAudioWrite (data : Bytes) : MpfBuffer :=
  { buffer with
    ring := buffer.ring ++ [⟨mediaFrameTypeAudio, data⟩]
    size := buffer.size + data.length }

/-- `mpf_buffer_event_write` -/
def mpfBufferEventWrite (eventType : Nat) : MpfBuffer :=
  { buffer with ring := buffer.ring ++ [⟨eventType, []⟩] }

/-- `mpf_buffer_get_size` -/
def mpfBufferGetSize : Nat := buffer.size

/-- The chunk to read from: the current one or the next of the ring. -/
def chunkFetch : Option (Chunk × MpfBuffer) :=
  match buffer.curChunk with
  | some chunk => some (chunk, buffer)
  | none =>
    match buffer.ring with
    | [] => none
    | chunk :: ring => some (chunk, { buffer with
        ring := ring, curChunk := some chunk, remainingChunkSize := chunk.data.length })

/-- A frame while it is read: `type` and the bytes copied so far, and
`remaining_frame_size`. -/
structure FrameRead where
  type : Nat
  copied : Bytes
  remaining : Nat
  deriving Repr, DecidableEq

/-- The loop of `mpf_buffer_frame_read`.  Each pass but the last two uses up a
chunk. -/
def frameReadLoop : Nat → MpfBuffer → FrameRead → MpfBuffer × FrameRead
  | 0, buffer, frame => (buffer, frame)
  | fuel + 1, buffer, frame =>
    match chunkFetch buffer with
    | none => (buffer, frame)
    | some (chunk, buffer) =>
      let type := frame.type ||| chunk.type
      let src := chunk.data.drop (chunk.data.length - buffer.remainingChunkSize)
      if frame.remaining < buffer.remainingChunkSize then
        ({ buffer with
            remainingChunkSize := buffer.remainingChunkSize - frame.remaining
            size := buffer.size - frame.remaining },
          ⟨type, frame.copied ++ src.take frame.remaining, 0⟩)
      else
        let remaining := frame.remaining - buffer.remainingChunkSize
        let frame : FrameRead :=
          ⟨type, frame.copied ++ src.take buffer.remainingChunkSize, remaining⟩
        let buffer := { buffer with
          size := buffer.size - buffer.remainingChunkSize
          remainingChunkSize := 0
          curChunk := none }
        if remaining = 0 then (buffer, frame) else frameReadLoop fuel buffer frame

/-- `mpf_buffer_frame_read` into a frame with the type and the size: the buffer,
the type and the bytes of the frame. -/
def mpfBufferFrameRead (type size : Nat) : MpfBuffer × Nat × Bytes :=
  let (buffer, frame) := frameReadLoop (buffer.ring.length + 2) buffer ⟨type, [], size⟩
  (buffer, frame.type, frame.copied ++ List.replicate frame.remaining 0)

/-! ## Calls -/

/-- A call of the library. -/
inductive BufferCall where
  | audioWrite (data : Bytes)
  | eventWrite (eventType : Nat)
  | frameRead (type size : Nat)
  deriving Repr, DecidableEq

/-- What a call returns: the type and the bytes of a frame that is read. -/
inductive BufferAnswer where
  | written
  | frame (type : Nat) (data : Bytes)
  deriving Repr, DecidableEq

def bufferStep : BufferCall → Option (MpfBuffer × BufferAnswer)
  | .audioWrite data => some (mpfBufferAudioWrite buffer data, .written)
  | .eventWrite eventType => some (mpfBufferEventWrite buffer eventType, .written)
  | .frameRead type size =>
    let (buffer, type, data) := mpfBufferFrameRead buffer type size
    some (buffer, .frame type data)

end

end UniMrcp.Mpf
