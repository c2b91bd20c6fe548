import UniMrcp.Lib.Transducer
import UniMrcp.Transport.Receive

/-!
# The parser as a byte machine

The abstract view of the text message parser: a machine that reads one byte
at a time and knows nothing of chunks, buffers or scrolling.  Its state is
the stage of the parser, the bytes of the line it is in, and whether a LF
directly behind is the second half of an end of line.

It says what the parser is for on streams whose lines and bodies do not start
with white space, so that no header value is folded.
`UniMrcp.Transport.Segmentation` proves that the receive loop computes it.
-/

namespace UniMrcp.Transport

open UniMrcp.Lib UniMrcp.Apt

/-- A vtable that reads a message's start line from one line of text. -/
structure LineVtable (M : Type) extends ParserVtable M where
  /-- the message a start line begins, if it is one -/
  startMessage : AptStr → Option M
  onStart_eq : ∀ stream, onStart stream =
    if (aptTextLineRead stream).1 then
      (startMessage (aptTextLineRead stream).2.1, (aptTextLineRead stream).2.2)
    else (none, (aptTextLineRead stream).2.2)
  /-- an empty line is not a start line -/
  startMessage_nil : ∀ beyond, startMessage ⟨[], beyond⟩ = none
  header_setHeader : ∀ m h, header (setHeader m h) = h
  setHeader_setHeader : ∀ m h h', setHeader (setHeader m h) h' = setHeader m h'
  setHeader_header : ∀ m, setHeader m (header m) = m

/-- The state of the byte machine. -/
structure LineState (M : Type) where
  stage : ParserStage M
  skipLf : Bool
  line : Bytes

/-- The stages that read lines. -/
def isLineStage {M : Type} : ParserStage M → Bool
  | .body .. => false
  | _ => true

section Machine

variable {M : Type} (v : LineVtable M)

/-- The stage behind a complete header section, and the message if it has no
body. -/
def headerDone (message : M) : ParserStage M × List M :=
  match v.onHeaderComplete message with
  | (false, message, _) => (.header message, [])
  | (true, message, length) =>
    if length = 0 then (.startLine, [message]) else (.body message length [], [])

/-- The stage behind a line that ends in `eol`, whether a LF is to be skipped,
and the messages completed.  A line that is no start line sets no flag: the
LF behind its CR reads as an empty line, which is no start line either. -/
def lineDone (stage : ParserStage M) (line : Bytes) (eol : UInt8) :
    ParserStage M × Bool × List M :=
  match stage with
  | .startLine =>
    match v.startMessage ⟨line, [eol]⟩ with
    | none => (.startLine, false, [])
    | some message => (.header message, eol == tokenCr, [])
  | .header message =>
    match headerOfLine line with
    | none => (.header message, eol == tokenCr, [])
    | some pair =>
      if pair.name.isEmpty then
        ((headerDone v message).1, eol == tokenCr, (headerDone v message).2)
      else
        (.header (v.setHeader message (headerFieldAppend (v.header message) pair)),
          eol == tokenCr, [])
  | .body .. => (stage, false, [])

/-- One byte of a body. -/
def bodyByte (message : M) (contentLength : Nat) (read : Bytes) (b : UInt8) :
    ParserStage M × List M :=
  let read := read ++ [b]
  if read.length < contentLength then (.body message contentLength read, [])
  else (.startLine, [v.setBody message read])

/-- One byte of the stream. -/
def lineStep (s : LineState M) (b : UInt8) : LineState M × List M :=
  if s.skipLf && b == tokenLf then ({ s with skipLf := false }, [])
  else
    match s.stage with
    | .body message contentLength read =>
      (⟨(bodyByte v message contentLength read b).1, false, []⟩,
        (bodyByte v message contentLength read b).2)
    | stage =>
      if isEol b then
        (⟨(lineDone v stage s.line b).1, (lineDone v stage s.line b).2.1, []⟩,
          (lineDone v stage s.line b).2.2)
      else (⟨stage, false, s.line ++ [b]⟩, [])

/-- The byte machine of a vtable. -/
def lineMachine : Transducer (LineState M) UInt8 M := ⟨lineStep v⟩

theorem lineMachine_step (s : LineState M) (b : UInt8) :
    (lineMachine v).step s b = lineStep v s b := rfl

/-- A start line that reads the same whatever follows it in memory. -/
def StartLineClosed (line : Bytes) : Prop :=
  ∀ e beyond, isEol e = true →
    v.startMessage ⟨line, e :: beyond⟩ = v.startMessage ⟨line, [e]⟩

/-- What is asked of a byte `b` behind the first part `line` of a line: the
line does not start with white space and is shorter than the buffer. -/
def LineByteOk (rxSize : Nat) (line : Bytes) (b : UInt8) : Prop :=
  (line = [] → aptTextIsWsp b = false) ∧ (isEol b = false → line.length + 1 < rxSize)

/-- What is asked of a byte `b` that the machine meets in state `s`, for a
receive buffer of `rxSize` bytes: no line and no body starts with white
space, a line is shorter than the buffer, and the start lines are those
`closed` admits. -/
def ByteOk (closed : Bytes → Prop) (rxSize : Nat) (s : LineState M) (b : UInt8) : Prop :=
  if s.skipLf = true ∧ b = tokenLf then True
  else
    match s.stage with
    | .startLine => LineByteOk rxSize s.line b ∧ (isEol b = true → closed s.line)
    | .header _ => LineByteOk rxSize s.line b
    | .body _ _ read => read = [] → aptTextIsWsp b = false

instance (rxSize : Nat) (line : Bytes) (b : UInt8) : Decidable (LineByteOk rxSize line b) :=
  inferInstanceAs (Decidable (_ ∧ _))

instance (closed : Bytes → Prop) [DecidablePred closed] (rxSize : Nat) (s : LineState M)
    (b : UInt8) : Decidable (ByteOk closed rxSize s b) :=
  if h : s.skipLf = true ∧ b = tokenLf then isTrue (by simp [ByteOk, h])
  else
    match hs : s.stage with
    | .startLine =>
      decidable_of_iff (LineByteOk rxSize s.line b ∧ (isEol b = true → closed s.line))
        (by rw [ByteOk, if_neg h, hs])
    | .header _ => decidable_of_iff (LineByteOk rxSize s.line b) (by rw [ByteOk, if_neg h, hs])
    | .body _ _ read =>
      decidable_of_iff (read = [] → aptTextIsWsp b = false) (by rw [ByteOk, if_neg h, hs])

end Machine

end UniMrcp.Transport
