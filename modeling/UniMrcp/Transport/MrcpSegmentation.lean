import UniMrcp.Mrcp.StartLineFields
import UniMrcp.Transport.Segmentation

/-!
# Segmentation of MRCP streams

The MRCP parser is line driven, so what the receive loop makes of a stream
does not depend on how the stream was cut into chunks, as long as no number
of a start line is white space up to the end of the line.  `atol` runs over
such a field and over the end of the line into the next line, if that has
already been received: `segmentation_depends_on_cut` is such a stream.
-/

namespace UniMrcp.Transport

open UniMrcp.Lib UniMrcp.Apt UniMrcp.Mrcp

theorem mrcpStartLineMessage_nil (object : MrcpParserObject) (beyond : Bytes) :
    mrcpStartLineMessage object ⟨[], beyond⟩ = none := by
  have h : fieldRead (TextStream.ofStr ⟨[], beyond⟩) = none := fieldRead_none rfl
  simp [mrcpStartLineMessage, mrcpStartLineParse, h]

/-- The MRCP parser as a line driven one. -/
def mrcpLineVtable (object : MrcpParserObject) : LineVtable MrcpMessage where
  toParserVtable := mrcpParserVtable object
  startMessage := mrcpStartLineMessage object
  onStart_eq _ := rfl
  startMessage_nil := mrcpStartLineMessage_nil object
  header_setHeader _ _ := rfl
  setHeader_setHeader _ _ _ := rfl
  setHeader_header _ := rfl

theorem mrcpStartLine_closed (object : MrcpParserObject) {line : Bytes}
    (h : startLineClosed line = true) : StartLineClosed (mrcpLineVtable object) line := by
  intro e beyond he
  show mrcpStartLineMessage object _ = mrcpStartLineMessage object _
  rw [mrcpStartLineMessage, mrcpStartLineMessage, mrcpStartLineParse_closed h he beyond,
    mrcpStartLineParse_closed h he []]

/-- The messages of a fresh connection with a receive buffer of `rxSize` bytes
that receives `chunks`; `none` if it is closed because the buffer is full. -/
def receivedMessages (object : MrcpParserObject) (rxSize : Nat) (chunks : List Bytes) :
    Option (List MrcpMessage) :=
  (Transducer.receiveAll (pollerReceive (mrcpParserVtable object) rxSize)
    (RxState.init MrcpMessage) chunks).map Prod.snd

/-- The messages of a fresh connection that receives `stream` in one chunk. -/
def oneChunkMessages (object : MrcpParserObject) (stream : Bytes) : List MrcpMessage :=
  (receive (mrcpParserVtable object) collect [] (RxState.init MrcpMessage) stream).1

/-- The lines and bodies of the stream do not start with white space, its
lines fit a receive buffer of `rxSize` bytes, and `closed` holds of its start
lines. -/
def StreamOk (object : MrcpParserObject) (closed : Bytes → Prop) (rxSize : Nat)
    (stream : Bytes) : Prop :=
  (lineMachine (mrcpLineVtable object)).Along (ByteOk closed rxSize)
    ⟨.startLine, false, []⟩ stream

instance (object : MrcpParserObject) (closed : Bytes → Prop) [DecidablePred closed]
    (rxSize : Nat) (stream : Bytes) : Decidable (StreamOk object closed rxSize stream) :=
  inferInstanceAs (Decidable ((lineMachine (mrcpLineVtable object)).Along _ _ _))

/-- With room for it, a stream received in one chunk gives the messages of the
byte machine. -/
theorem oneChunkMessages_eq (object : MrcpParserObject) {rxSize : Nat} (hpos : 0 < rxSize)
    {stream : Bytes} (hne : stream ≠ [])
    (hok : StreamOk object (fun line => startLineClosed line = true) rxSize stream) :
    oneChunkMessages object stream =
      ((lineMachine (mrcpLineVtable object)).run ⟨.startLine, false, []⟩ stream).2 := by
  have h := receiveAll_eq_lineMachine
    (fun line h => mrcpStartLine_closed object h) hpos [stream] (by simpa using hne)
    (by simpa [StreamOk] using hok)
  have hfull : ¬ (RxState.init MrcpMessage).held.length ≥ rxSize := by
    show ¬ 0 ≥ rxSize
    omega
  simpa [Transducer.receiveAll, pollerReceive, hfull, oneChunkMessages, mrcpLineVtable]
    using h

/-- **Segmentation invariance.**  However the stream is cut into non-empty
chunks, the connection stays open and its messages are those of the stream
received in one chunk, provided no field of a start line that is read as a
number is white space up to the end of the line. -/
theorem receivedMessages_eq_oneChunkMessages (object : MrcpParserObject) (rxSize : Nat)
    (hpos : 0 < rxSize) (stream : Bytes)
    (hok : StreamOk object (fun line => startLineClosed line = true) rxSize stream)
    (chunks : List Bytes) (hcut : chunks.flatten = stream)
    (hne : ∀ chunk ∈ chunks, chunk ≠ []) :
    receivedMessages object rxSize chunks = some (oneChunkMessages object stream) := by
  subst hcut
  by_cases hnil : chunks = []
  · subst hnil
    rfl
  · have hflat : chunks.flatten ≠ [] := by
      obtain ⟨chunk, rest, rfl⟩ := List.exists_cons_of_ne_nil hnil
      have := hne chunk (by simp)
      simp [this]
    rw [oneChunkMessages_eq object hpos hflat hok]
    exact receiveAll_eq_lineMachine
      (fun line h => mrcpStartLine_closed object h) hpos chunks hne hok

/-- A server with all resources loaded. -/
def loadedParser : MrcpParserObject := ⟨mrcpResourcesLoad, none⟩

/-- A SPEAK with a body, cut between CR and LF and inside the body. -/
def speakChunks : List Bytes :=
  [bytesOf "MRCP/2.0 77 SPEAK 5\r", bytesOf "\nChannel-Identifier:1@speechsynth\r\nCon",
    bytesOf "tent-Length:4\r\n\r\nab", bytesOf "cdMRCP/2.0 10 STOP 6\r\n",
    bytesOf "Channel-Identifier:1@speechsynth\r\n\r\n"]

theorem receivedMessages_speakChunks :
    0 < 64 ∧ StreamOk loadedParser (fun line => startLineClosed line = true) 64
      speakChunks.flatten ∧ (∀ chunk ∈ speakChunks, chunk ≠ []) ∧
    receivedMessages loadedParser 64 speakChunks =
      some (oneChunkMessages loadedParser speakChunks.flatten) :=
  have hok : StreamOk loadedParser (fun line => startLineClosed line = true) 64
      speakChunks.flatten := by decide +kernel
  have hne : ∀ chunk ∈ speakChunks, chunk ≠ [] := by decide
  ⟨by decide, hok, hne, receivedMessages_eq_oneChunkMessages loadedParser 64 (by decide)
    _ hok speakChunks rfl hne⟩

/-- A SPEAK whose request-id is a tab, cut behind its start line. -/
def tabRequestIdChunks : List Bytes :=
  [bytesOf "MRCP/2.0 10 SPEAK \t\r\n", bytesOf "1:x\r\nChannel-Identifier:1@speechsynth\r\n\r\n"]

/-- No line starts with white space and all lines fit, yet the cut decides
the request-id: 1, the name of the first header field, when the stream
arrives in one chunk and 0 when it is cut behind the start line. -/
theorem segmentation_depends_on_cut :
    StreamOk loadedParser (fun _ => True) 64 tabRequestIdChunks.flatten ∧
    (∀ chunk ∈ tabRequestIdChunks, chunk ≠ []) ∧
    (oneChunkMessages loadedParser tabRequestIdChunks.flatten).map MrcpMessage.requestId = [1] ∧
    (receivedMessages loadedParser 64 tabRequestIdChunks).map
      (List.map MrcpMessage.requestId) = some [0] ∧
    receivedMessages loadedParser 64 tabRequestIdChunks ≠
      some (oneChunkMessages loadedParser tabRequestIdChunks.flatten) := by
  decide +kernel

end UniMrcp.Transport
