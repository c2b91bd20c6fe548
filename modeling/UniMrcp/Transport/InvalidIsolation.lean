import UniMrcp.Apt.HeaderText
import UniMrcp.Transport.MrcpSegmentation

/-!
# Invalid messages

Whether a parser that has reported an invalid message is as good as a new one.
A message that is rejected at its start line leaves nothing behind.  A message
that is rejected behind its header section stays in the parser, which goes on
reading header fields into it: some bytes then tell the two parsers apart
(`isolated_iff_startRejected`).
-/

namespace UniMrcp.Transport

open UniMrcp.Lib UniMrcp.Apt UniMrcp.Mrcp

/-- A handler that notes the result of each parser run. -/
def record {M : Type} (results : List (MessageStatus × Option M)) (status : MessageStatus)
    (message : Option M) : List (MessageStatus × Option M) × Bool :=
  (results ++ [(status, message)], true)

section

variable (object : MrcpParserObject) (parser : MessageParser MrcpMessage) (stream : TextStream)

/-- The results of the runs of a parser on the bytes it gets, chunk by chunk. -/
def runResults (chunks : List Bytes) : List (MessageStatus × Option MrcpMessage) :=
  (chunks.foldl (fun (results, state) chunk =>
    receive (mrcpParserVtable object) record results state chunk)
    ([], (⟨parser, []⟩ : RxState MrcpMessage))).1

/-- On whatever bytes follow, the parser runs as a freshly created one. -/
def Isolated : Prop :=
  ∀ chunks, runResults object parser chunks =
    runResults object (aptMessageParserCreate MrcpMessage) chunks

/-- The stream as the stages see it. -/
def enteredStream : TextStream :=
  if parser.skipLf then aptTextCharSkip tokenLf stream else stream

/-- The run rejects a start line. -/
def StartRejected : Prop :=
  parser.stage = .startLine ∧ (mrcpParserOnStart object (enteredStream parser stream)).1 = none

end

variable {stream : TextStream} {parser : MessageParser MrcpMessage}
  {result : ParseResult MrcpMessage}

section

variable {object : MrcpParserObject}

theorem bodyStage_status {message : MrcpMessage} {length : Nat} {read : Bytes} {skipLf : Bool} :
    (bodyStage (mrcpParserVtable object) message length read skipLf stream).status ≠ .invalid := by
  unfold bodyStage
  dsimp only
  split <;> simp

/-- A header section that is rejected stays in the parser. -/
theorem headerStage_invalid {message : MrcpMessage} {skipLf : Bool}
    (h : (headerStage (mrcpParserVtable object) message skipLf stream).status = .invalid) :
    ∃ kept, (headerStage (mrcpParserVtable object) message skipLf stream).parser.stage =
      .header kept := by
  unfold headerStage at h ⊢
  split at h
  · exact nomatch h
  · unfold headerCompleteStage at h ⊢
    split at h
    · exact ⟨_, rfl⟩
    · split at h
      · exact nomatch h
      · exact absurd h bodyStage_status

/-- An invalid message was rejected at its start line, or it is kept. -/
theorem run_invalid (h : (mrcpParserRun object parser stream).status = .invalid) :
    (StartRejected object parser stream ∧
      (mrcpParserRun object parser stream).parser = aptMessageParserCreate MrcpMessage) ∨
    (¬StartRejected object parser stream ∧
      ∃ kept, (mrcpParserRun object parser stream).parser.stage = .header kept) := by
  cases hstage : parser.stage with
  | startLine =>
    have hrun : mrcpParserRun object parser stream =
        startStage (mrcpParserVtable object) (enteredStream parser stream) := by
      simp [mrcpParserRun, aptMessageParserRun, hstage, enteredStream]
    rw [hrun] at h ⊢
    rcases hstart : (mrcpParserVtable object).onStart (enteredStream parser stream) with
      ⟨_ | message, behind⟩
    · have hnone : (mrcpParserOnStart object (enteredStream parser stream)).1 = none :=
        congrArg Prod.fst hstart
      refine .inl ⟨⟨hstage, hnone⟩, ?_⟩
      simp only [startStage, hstart]
      rfl
    · have hsome : (mrcpParserOnStart object (enteredStream parser stream)).1 = some message :=
        congrArg Prod.fst hstart
      simp only [startStage, hstart] at h ⊢
      refine .inr ⟨?_, headerStage_invalid h⟩
      rintro ⟨-, hnone⟩
      cases hsome.symm.trans hnone
  | header message =>
    have hrun : mrcpParserRun object parser stream = headerStage (mrcpParserVtable object)
        message false (enteredStream parser stream) := by
      simp [mrcpParserRun, aptMessageParserRun, hstage, enteredStream]
    rw [hrun] at h ⊢
    refine .inr ⟨?_, headerStage_invalid h⟩
    rintro ⟨hstart, -⟩
    rw [hstage] at hstart
    cases hstart
  | body message length read =>
    have hrun : mrcpParserRun object parser stream = bodyStage (mrcpParserVtable object)
        message length read false (enteredStream parser stream) := by
      simp [mrcpParserRun, aptMessageParserRun, hstage, enteredStream]
    rw [hrun] at h
    exact absurd h bodyStage_status

/-! ## Telling the parsers apart -/

section

variable {chunk : Bytes} (hrun : mrcpParserRun object parser ⟨[], chunk, [], false⟩ = result)
include hrun

/-- A chunk that one run consumes. -/
theorem receive_once (hend : result.stream.isEnd = true)
    (results : List (MessageStatus × Option MrcpMessage)) :
    receive (mrcpParserVtable object) record results ⟨parser, []⟩ chunk =
      (results ++ [(result.status, result.message)], ⟨result.parser, result.stream.rest⟩) := by
  unfold mrcpParserRun at hrun
  simp [receive, messageLoop, record, hrun, hend, aptTextStreamScroll]

theorem runResults_once (hend : result.stream.isEnd = true) :
    runResults object parser [chunk] = [(result.status, result.message)] := by
  simp only [runResults, List.foldl_cons, receive_once hrun hend]
  rfl

theorem runResults_twice {chunk' : Bytes} {result' : ParseResult MrcpMessage}
    (hrest : result.stream.rest = [])
    (hrun' : mrcpParserRun object result.parser ⟨[], chunk', [], false⟩ = result')
    (hend' : result'.stream.isEnd = true) :
    runResults object parser [chunk, chunk'] =
      [(result.status, result.message), (result'.status, result'.message)] := by
  have hend : result.stream.isEnd = true := by simp [TextStream.isEnd, hrest]
  simp only [runResults, List.foldl_cons, receive_once hrun hend, hrest,
    receive_once hrun' hend']
  rfl

end

variable (object)

/-- A freshly created parser takes an empty line for a start line to come. -/
theorem run_crlf_fresh :
    mrcpParserRun object (aptMessageParserCreate MrcpMessage) ⟨[], crlf, [], false⟩ =
      ⟨.incomplete, none, aptMessageParserCreate MrcpMessage, ⟨crlf, [], [], false⟩⟩ := by
  have hstart : mrcpParserOnStart object ⟨[], crlf, [], false⟩ =
      (none, ⟨crlf, [], [], false⟩) := by
    show (mrcpStartLineMessage object ⟨[], crlf⟩, _) = _
    rfl
  have hvtable : (mrcpParserVtable object).onStart ⟨[], crlf, [], false⟩ =
      (none, ⟨crlf, [], [], false⟩) := hstart
  simp [mrcpParserRun, aptMessageParserRun, aptMessageParserCreate, startStage, hvtable,
    TextStream.isEnd]

/-- For a parser in the header stage an empty line ends the header section. -/
theorem run_crlf_header (kept : MrcpMessage) (skipLf : Bool) :
    ∃ message, mrcpParserRun object ⟨.header kept, skipLf⟩ ⟨[], crlf, [], false⟩ =
      headerCompleteStage (mrcpParserVtable object) message false ⟨crlf, [], [], false⟩ := by
  refine ⟨(mrcpParserVtable object).setHeader kept ((mrcpParserVtable object).header kept), ?_⟩
  have hskip : (if skipLf then aptTextCharSkip tokenLf ⟨[], crlf, [], false⟩
      else ⟨[], crlf, [], false⟩) = (⟨[], crlf, [], false⟩ : TextStream) := by
    cases skipLf <;> rfl
  simp only [mrcpParserRun, aptMessageParserRun, hskip]
  rfl

/-- A text without an end of line tells a freshly created parser nothing. -/
theorem run_letters_fresh (n : Nat) :
    mrcpParserRun object (aptMessageParserCreate MrcpMessage)
        ⟨[], List.replicate n 65, [], false⟩ =
      ⟨.incomplete, none, aptMessageParserCreate MrcpMessage,
        ⟨[], List.replicate n 65, [], true⟩⟩ := by
  have hline : aptTextLineRead ⟨[], List.replicate n 65, [], false⟩ =
      (false, ⟨(List.replicate n 65).takeWhile (fun c => !isEol c), []⟩,
        ⟨[], List.replicate n 65, [], true⟩) := by
    have hnone : (List.replicate n (65 : UInt8)).dropWhile (fun c => !isEol c) = [] :=
      dropWhile_noEol (fun b hb => by rw [List.eq_of_mem_replicate hb]; rfl)
    simp [aptTextLineRead, hnone]
  have hvtable : (mrcpParserVtable object).onStart ⟨[], List.replicate n 65, [], false⟩ =
      (none, ⟨[], List.replicate n 65, [], true⟩) := by
    show mrcpParserOnStart object _ = _
    simp [mrcpParserOnStart, hline]
  simp [mrcpParserRun, aptMessageParserRun, aptMessageParserCreate, startStage, hvtable,
    TextStream.isEnd]

/-- The letters complete the body of a message that waits for so many bytes. -/
theorem run_letters_body (message : MrcpMessage) (n : Nat) :
    mrcpParserRun object ⟨.body message n [], false⟩ ⟨[], List.replicate n 65, [], false⟩ =
      ⟨.complete, some ((mrcpParserVtable object).setBody message (List.replicate n 65)),
        aptMessageParserCreate MrcpMessage, ⟨List.replicate n 65, [], [], false⟩⟩ := by
  simp [mrcpParserRun, aptMessageParserRun, bodyStage, aptMessageBodyRead, TextStream.advance,
    aptMessageParserCreate]

variable {object}

/-- A parser that keeps a message is not as good as a new one: an empty line
ends the header section of that message once more. -/
theorem not_isolated_header {kept : MrcpMessage} (hstage : parser.stage = .header kept) :
    ¬Isolated object parser := by
  obtain ⟨stage, skipLf⟩ := parser
  obtain rfl : stage = .header kept := hstage
  intro h
  have hone := h [crlf]
  rw [runResults_once (run_crlf_fresh object) rfl] at hone
  obtain ⟨message, hrun⟩ := run_crlf_header object kept skipLf
  rcases hcomplete : (mrcpParserVtable object).onHeaderComplete message with ⟨ok, message', length⟩
  simp only [headerCompleteStage, hcomplete] at hrun
  cases ok with
  | false =>
    rw [runResults_once hrun rfl] at hone
    simp at hone
  | true =>
    by_cases hzero : length = 0
    · simp only [hzero] at hrun
      rw [runResults_once hrun rfl] at hone
      simp at hone
    · -- the message waits for its body, which the letters of the next chunk are
      have hbody : bodyStage (mrcpParserVtable object) message' length [] false
          ⟨crlf, [], [], false⟩ =
          ⟨.incomplete, none, ⟨.body message' length [], false⟩, ⟨crlf, [], [], false⟩⟩ := by
        have hwait : 0 < length := Nat.pos_of_ne_zero hzero
        simp [bodyStage, aptMessageBodyRead, TextStream.advance, hwait]
      simp only [hzero, hbody] at hrun
      have htwo := h [crlf, List.replicate length 65]
      rw [runResults_twice hrun rfl (run_letters_body object message' length) rfl,
        runResults_twice (run_crlf_fresh object) rfl (run_letters_fresh object length)
          (by simp [TextStream.isEnd])] at htwo
      simp at htwo

/-- After an invalid message the parser is as good as a new one exactly if the
message was rejected at its start line. -/
theorem isolated_iff_startRejected (object : MrcpParserObject)
    (parser : MessageParser MrcpMessage) (stream : TextStream)
    (hinvalid : (mrcpParserRun object parser stream).status = .invalid) :
    Isolated object (mrcpParserRun object parser stream).parser ↔
      StartRejected object parser stream := by
  rcases run_invalid hinvalid with ⟨hstart, hfresh⟩ | ⟨hstart, kept, hstage⟩
  · rw [hfresh]
    exact iff_of_true (fun _ => rfl) hstart
  · exact iff_of_false (not_isolated_header hstage) hstart

end

/-- A start line of nothing, and bytes behind it. -/
def blankStart : TextStream := ⟨[], crlf ++ bytesOf "MRCP/2.0", [], false⟩

theorem isolated_blankStart :
    (mrcpParserRun loadedParser (aptMessageParserCreate MrcpMessage) blankStart).status =
        .invalid ∧
      Isolated loadedParser
        (mrcpParserRun loadedParser (aptMessageParserCreate MrcpMessage) blankStart).parser :=
  have hinvalid : (mrcpParserRun loadedParser (aptMessageParserCreate MrcpMessage)
      blankStart).status = .invalid := by decide +kernel
  ⟨hinvalid, (isolated_iff_startRejected loadedParser (aptMessageParserCreate MrcpMessage)
    blankStart hinvalid).mpr ⟨rfl, by decide +kernel⟩⟩

/-- A SPEAK without a channel identifier. -/
def speakUnnamed : Bytes := bytesOf "MRCP/2.0 25 SPEAK 1\r\n\r\n"

/-- A STOP with a channel identifier. -/
def stopNamed : Bytes :=
  bytesOf "MRCP/2.0 59 STOP 2\r\nChannel-Identifier:1@speechsynth\r\n\r\n"

/-- The rejected SPEAK comes back with the header of the STOP behind it, which
a freshly created parser would have returned. -/
theorem rejected_message_returns :
    (mrcpParserRun loadedParser (aptMessageParserCreate MrcpMessage)
        ⟨[], speakUnnamed, [], false⟩).status = .invalid ∧
      (runResults loadedParser (mrcpParserRun loadedParser (aptMessageParserCreate MrcpMessage)
        ⟨[], speakUnnamed, [], false⟩).parser [stopNamed]).map
          (fun result => (result.1, result.2.map MrcpMessage.requestId)) =
        [(.complete, some 1)] ∧
      (runResults loadedParser (aptMessageParserCreate MrcpMessage) [stopNamed]).map
          (fun result => (result.1, result.2.map MrcpMessage.requestId)) =
        [(.complete, some 2)] ∧
      ¬Isolated loadedParser (mrcpParserRun loadedParser (aptMessageParserCreate MrcpMessage)
        ⟨[], speakUnnamed, [], false⟩).parser := by
  have hkept : (runResults loadedParser (mrcpParserRun loadedParser
      (aptMessageParserCreate MrcpMessage) ⟨[], speakUnnamed, [], false⟩).parser [stopNamed]).map
        (fun result => (result.1, result.2.map MrcpMessage.requestId)) =
      [(.complete, some 1)] := by decide +kernel
  have hfresh : (runResults loadedParser (aptMessageParserCreate MrcpMessage) [stopNamed]).map
      (fun result => (result.1, result.2.map MrcpMessage.requestId)) =
      [(.complete, some 2)] := by decide +kernel
  refine ⟨by decide +kernel, hkept, hfresh, fun h => ?_⟩
  rw [h [stopNamed]] at hkept
  exact absurd hkept (by decide)

end UniMrcp.Transport
