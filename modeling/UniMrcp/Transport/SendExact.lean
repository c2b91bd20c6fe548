import UniMrcp.Transport.RoundTrip

/-!
# What is sent, for any message and any buffer

* `generator_chunks`: the pieces in which a message is sent make up what a
  buffer with room for all of it gets;
* `message_length_exact_iff`: the length of a version 2 message is right as
  long as it has six digits at most, and is left out otherwise;
* `header_emitted_iff`: a header line that does not fit is left out;
* `content_length_agrees_iff`: a Content-Length that is there is not looked at.
-/

namespace UniMrcp.Transport

open UniMrcp.Lib UniMrcp.Apt UniMrcp.Mrcp

section Send

variable (memory : Nat → UInt8) (message : MrcpMessage) (size : Nat)

/-- The header lines of the message after validation. -/
def validLines : List (Bytes × Bytes) := headerLines (mrcpMessageValidate memory message).2

/-- The start line with the gap for the length. -/
def gapLine : Bytes := startLineText message.startLine lengthGap ++ crlf

/-- The start line with all header lines behind it, and the empty line. -/
def wholeHeader : Bytes := gapLine message ++ (headerText (validLines memory message) ++ crlf)

/-- The message is valid, and the texts of its start line and its header lines
are shorter than the buffer. -/
structure LinesFit : Prop where
  valid : (mrcpMessageValidate memory message).1 = true
  known : message.startLine.Known
  room : (wholeHeader memory message).length < size

variable {memory message size}

theorem mrcpMessageValidate_valid (hvalid : (mrcpMessageValidate memory message).1 = true) :
    ∃ header, mrcpMessageValidate memory message = (true, { message with header := header }) ∧
      headerLines { message with header := header } = validLines memory message := by
  obtain ⟨header, hkeeps, -⟩ := mrcpMessageValidate_eq memory message
  exact ⟨header, Prod.ext hvalid hkeeps, by rw [validLines, hkeeps]⟩

theorem LinesFit.header (h : LinesFit memory message size) :
    ∃ m, generatedHeader memory message ⟨[], size⟩ =
      (true, m, ⟨wholeHeader memory message, size⟩) := by
  obtain ⟨hvalid, hknown, hroom⟩ := h
  obtain ⟨header, hvalid, hlines⟩ := mrcpMessageValidate_valid hvalid
  simp only [wholeHeader, gapLine, crlf, List.length_append, List.length_cons, List.length_nil]
    at hroom
  have hstart : mrcpStartLineGenerate message.startLine ⟨[], size⟩ = _ :=
    mrcpStartLineGenerate_text hknown (by omega)
  have hkept : linesKept size (startLineText message.startLine lengthGap ++ crlf).length
      (headerLines { message with header := header }) = some (validLines memory message) := by
    rw [hlines, linesKept_eq_self, List.length_append]
    simp only [crlf, List.length_cons, List.length_nil]
    omega
  exact ⟨_, generatedHeader_eq hvalid hstart hkept⟩

/-- A message is sent in as many pieces as it takes, and the pieces make up what
a run on a buffer with room for the whole message writes.  Either way the length
of the body, in which the generator counts what it has written, is back at the
end. -/
theorem generator_chunks {large : Nat} (hfits : LinesFit memory message size)
    (hlarge : (wholeHeader memory message).length + message.body.length < large) :
    ∃ sent bytes whole stream,
      sendLoop memory size (message.body.length + 1) .startLine message = some (sent, bytes) ∧
      mrcpGeneratorRun memory .startLine message ⟨[], large⟩ =
        ⟨.complete, .startLine, whole, message.body.length, stream⟩ ∧
      stream.out = bytes ∧ sent.body = message.body ∧ whole.body = message.body := by
  have hwhole : LinesFit memory message large := ⟨hfits.valid, hfits.known, by omega⟩
  have hsize : 0 < size := by
    have := hfits.room
    omega
  obtain ⟨m, hheader⟩ := hfits.header
  obtain ⟨m', hheader'⟩ := hwhole.header
  obtain ⟨sent, hbody, hsend⟩ := sendLoop_header hsize hheader
  obtain ⟨whole, size', hbody', -, hroom, hrun⟩ := mrcpGeneratorRun_header hheader'
  dsimp only at hroom hrun
  rw [if_neg (by omega)] at hrun
  exact ⟨sent, _, whole, _, hsend, hrun, rfl, hbody, hbody'⟩

/-! ## The length -/

/-- The second field of a start line of version 2. -/
def messageLengthField (bytes : Bytes) : Bytes := (bytes.drop 9).takeWhile (· != tokenSp)

/-- Six digits are enough below a million bytes, the gap and the body counted. -/
theorem messageLengthField_iff (hversion : message.startLine.version = .v2) (rest : Bytes) :
    let bytes := withLength message (versionText .v2 ++ [tokenSp] ++ lengthGap ++ rest) ++
      message.body
    messageLengthField bytes = decimal bytes.length ↔
      16 + rest.length + message.body.length < 1000000 := by
  have hdrop : ∀ tail, (versionText .v2 ++ [tokenSp] ++ tail).drop 9 = tail := fun _ => rfl
  simp only [withLength_v2 hversion]
  simp only [List.append_assoc (versionText .v2 ++ [tokenSp]), messageLengthField, hdrop]
  generalize hn : 10 + rest.length + message.body.length = n
  unfold lengthText
  by_cases hfits : n < 999994
  · have hdigit : ∀ c ∈ decimal (n + selfCount n), (c != tokenSp) = true := by
      intro c hc
      have hc := isDigit_of_mem_decimal hc
      by_contra hsp
      obtain rfl : c = tokenSp := by simpa using hsp
      cases hc
    have hfield := takeWhile_append_of_stop (t := tokenSp :: rest ++ message.body) hdigit
      (by simp)
    have hcount := length_decimal_selfCount n
    simp only [if_pos hfits, List.append_assoc, List.singleton_append, hfield]
    refine iff_of_true (congrArg decimal ?_) (by omega)
    simp only [List.length_append, List.length_cons, length_versionText]
    omega
  · simp only [if_neg hfits]
    exact iff_of_false (fun h => decimal_ne_nil _ h.symm) (by omega)

/-- A message that the generator completes, or of which it has written the
header section, is sent to its end, and the length in its start line is right
if and only if six digits are enough for it. -/
theorem message_length_exact_iff (hversion : message.startLine.version = .v2)
    (hrun : (mrcpGeneratorRun memory .startLine message ⟨[], size⟩).status = .complete ∨
      (mrcpGeneratorRun memory .startLine message ⟨[], size⟩).stage ≠ .startLine) :
    ∃ sent bytes kept,
      sendLoop memory size (message.body.length + 1) .startLine message = some (sent, bytes) ∧
      linesKept size (gapLine message).length (validLines memory message) = some kept ∧
      (messageLengthField bytes = decimal bytes.length ↔
        (gapLine message).length + (headerText kept).length + 2 + message.body.length <
          1000000) := by
  rcases hheader : generatedHeader memory message ⟨[], size⟩ with ⟨_ | _, m, s⟩
  · -- a run that fails before the empty line stays at the start
    rw [mrcpGeneratorRun_eq, hheader] at hrun
    rcases hrun with hrun | hrun
    · simp only [aptMessageGeneratorBreak] at hrun
      split at hrun <;> cases hrun
    · exact absurd rfl hrun
  · obtain ⟨header, line, out, kept, -, hvalid, hstart, hkept, rfl, hlt⟩ :=
      generatedHeader_ok hheader
    obtain ⟨-, hout⟩ := mrcpStartLineGenerate_v2 hversion hstart
    obtain rfl : out = gapLine message := (TxStream.mk.inj hout).1
    obtain ⟨sent, -, hsend⟩ := sendLoop_header (Nat.zero_lt_of_lt hlt) hheader
    refine ⟨sent, _, kept, hsend, by rw [validLines, hvalid]; exact hkept, ?_⟩
    have hgap : gapLine message ++ (headerText kept ++ crlf) = versionText .v2 ++ [tokenSp] ++
        lengthGap ++ (startLineCore message.startLine ++ (crlf ++ (headerText kept ++ crlf))) := by
      simp [gapLine, startLineText, hversion]
    dsimp only
    rw [hgap]
    refine (messageLengthField_iff hversion _).trans ?_
    simp [gapLine, startLineText, hversion, length_versionText, lengthGap, maxDigitCount, crlf]
    omega

/-! ## The header lines -/

variable (memory message size) in
/-- All header lines stand behind the start line, and the empty line after them. -/
def HeaderEmitted : Prop :=
  (generatedHeader memory message ⟨[], size⟩).1 = true ∧
    (generatedHeader memory message ⟨[], size⟩).2.2.out =
      (mrcpStartLineGenerate message.startLine ⟨[], size⟩).2.2.out ++
        (headerText (validLines memory message) ++ crlf)

variable (memory message size) in
/-- By the lengths of the texts: all header lines fit behind the start line, or
the generator is stopped by the end of the buffer, short of it. -/
def NoLineLost : Prop :=
  if (mrcpMessageValidate memory message).1 then
    match startLineTaken message.startLine size with
    | some used => used + (headerText (validLines memory message)).length + 2 < size ∨
        linesKept size used (validLines memory message) = none
    | none => forcedLength message.startLine < size
  else 0 < size

/-- A run that fails is invalid unless the buffer has been overrun. -/
theorem mrcpGeneratorRun_invalid {m : MrcpMessage} {out : Bytes}
    (h : generatedHeader memory message ⟨[], size⟩ = (false, m, ⟨out, size⟩)) :
    (mrcpGeneratorRun memory .startLine message ⟨[], size⟩).status = .invalid ↔
      out.length < size := by
  rw [mrcpGeneratorRun_eq, h]
  by_cases hlt : out.length < size <;> simp [aptMessageGeneratorBreak, TxStream.isEnd, hlt]

/-- No header line is lost without notice if and only if all of them fit, or
there is no room for the empty line in a buffer that has not been overrun. -/
theorem header_emitted_iff :
    ((mrcpGeneratorRun memory .startLine message ⟨[], size⟩).status ≠ .invalid →
      HeaderEmitted memory message size) ↔ NoLineLost memory message size := by
  have hfailed : ∀ {m o}, generatedHeader memory message ⟨[], size⟩ = (false, m, ⟨o, size⟩) →
      (((mrcpGeneratorRun memory .startLine message ⟨[], size⟩).status ≠ .invalid →
        HeaderEmitted memory message size) ↔ o.length < size) := by
    intro m o h
    rw [← mrcpGeneratorRun_invalid h]
    simp [HeaderEmitted, h]
  unfold NoLineLost
  cases hvalid : (mrcpMessageValidate memory message).1 with
  | false =>
    refine (hfailed (m := (mrcpMessageValidate memory message).2) (o := []) ?_).trans ?_
    · rw [generatedHeader, ← Prod.mk.eta (p := mrcpMessageValidate memory message), hvalid]
    · simp
  | true =>
    obtain ⟨header, hvalid, hlines⟩ := mrcpMessageValidate_valid hvalid
    obtain ⟨ok, line, out, hstart, htaken, hlt⟩ :=
      mrcpStartLineGenerate_taken message.startLine size
    rw [if_pos rfl, htaken]
    cases ok with
    | false =>
      refine (hfailed (m := { message with header := header, startLine := line }) (o := out)
        ?_).trans (by simpa using hlt)
      simp only [generatedHeader, hvalid, hstart]
    | true =>
      rw [if_pos rfl]
      dsimp only
      cases hkept : linesKept size out.length (validLines memory message) with
      | none =>
        obtain ⟨out', hclogged, hlt'⟩ := eolInsert_clogged hkept (hlt.mpr (.inl rfl))
        have hheader : generatedHeader memory message ⟨[], size⟩ =
            (false, { message with header := header, startLine := line }, ⟨out', size⟩) := by
          simp only [generatedHeader, hvalid, hstart, hlines, hclogged]
        exact iff_of_true ((hfailed hheader).mpr hlt') (.inr rfl)
      | some kept =>
        have hheader := generatedHeader_eq hvalid hstart (hlines ▸ hkept)
        obtain ⟨m', size', -, -, -, hrun⟩ := mrcpGeneratorRun_header hheader
        have hstatus :
            (mrcpGeneratorRun memory .startLine message ⟨[], size⟩).status ≠ .invalid := by
          rw [hrun]
          split <;> simp
        -- the lines that are written are all lines if the texts are the same
        have htext : headerText kept = headerText (validLines memory message) ↔
            out.length + (headerText (validLines memory message)).length + 2 < size := by
          constructor
          · intro heq
            rw [← heq]
            exact (linesKept_sublist hkept).2
          · intro hfits
            rw [linesKept_eq_self.mpr hfits] at hkept
            cases hkept
            rfl
        simp [HeaderEmitted, hstatus, hheader, hstart, htext]

/-- The values of the Content-Length lines. -/
def contentLengths (lines : List (Bytes × Bytes)) : List Bytes :=
  (lines.filter (fun pair => aptStringTableIdFind genericHeaderStringTable
    pair.1 = genericHeaderContentLength)).map Prod.snd

/-- Validation adds a Content-Length unless the property is set. -/
theorem contentLengths_validLines (hbody : message.body ≠ [])
    (hvalid : (mrcpMessageValidate memory message).1 = true) :
    contentLengths (validLines memory message) =
      contentLengths message.header.headerSection.pairs ++
        if mrcpGenericHeaderPropertyCheck message genericHeaderContentLength then []
        else [decimal message.body.length] := by
  have hdata : message.header.data ≠ none := by
    intro hnone
    simp [mrcpMessageValidate, hbody, hnone] at hvalid
  have hname : aptStringTableIdFind genericHeaderStringTable contentLengthName =
      genericHeaderContentLength := by decide +kernel
  have hchannel : aptStringTableIdFind genericHeaderStringTable mrcpChannelIdName ≠
      genericHeaderContentLength := by decide +kernel
  have hfield : contentLengthField message.body =
      [(contentLengthName, decimal message.body.length)] := by simp [contentLengthField, hbody]
  obtain ⟨header, hkeeps, hpairs⟩ := mrcpMessageValidate_eq memory message
  rw [validLines, hkeeps, headerLines, (hpairs hdata).2, hfield]
  by_cases hv2 : message.startLine.version = .v2 <;>
    cases mrcpGenericHeaderPropertyCheck message genericHeaderContentLength <;>
      simp [contentLengths, channelIdField, hv2, hname, hchannel]

end Send

/-- A SPEAK of 100 bytes goes through a buffer of 100 bytes. -/
theorem generator_chunks_speakRequest :
    ∃ sent bytes whole stream,
      sendLoop (fun _ => 0) 100 101 .startLine (speakRequest (List.replicate 100 97)) =
        some (sent, bytes) ∧
      mrcpGeneratorRun (fun _ => 0) .startLine (speakRequest (List.replicate 100 97)) ⟨[], 200⟩ =
        ⟨.complete, .startLine, whole, 100, stream⟩ ∧ stream.out = bytes := by
  obtain ⟨sent, bytes, whole, stream, hsend, hrun, hout, -⟩ := @generator_chunks
    (fun _ => 0) (speakRequest (List.replicate 100 97)) 100 200
    ⟨by decide +kernel, by decide, by decide +kernel⟩ (by decide +kernel)
  exact ⟨sent, bytes, whole, stream, hsend, hrun, hout⟩

theorem message_length_exact_speakRequest :
    ∃ sent bytes, sendLoop (fun _ => 0) 1024 6 .startLine (speakRequest (bytesOf "hello")) =
      some (sent, bytes) ∧ messageLengthField bytes = decimal bytes.length := by
  obtain ⟨sent, bytes, kept, hsend, hkept, hiff⟩ := @message_length_exact_iff (fun _ => 0)
    (speakRequest (bytesOf "hello")) 1024 rfl (.inl (by decide +kernel))
  have hroom := (linesKept_sublist hkept).2
  have hbody : (speakRequest (bytesOf "hello")).body.length = 5 := by decide
  exact ⟨sent, bytes, hsend, hiff.mpr (by omega)⟩

/-- The message-length field of a SPEAK with a million bytes is empty. -/
theorem million_bytes_without_length :
    ∃ sent bytes, messageSend (fun _ => 0) 1024 (speakRequest (List.replicate 1000000 97)) =
      some (sent, bytes) ∧ messageLengthField bytes ≠ decimal bytes.length := by
  generalize hbody : List.replicate 1000000 (97 : UInt8) = body
  have hlength : body.length = 1000000 := by rw [← hbody, List.length_replicate]
  have hwire : WireMessage .synthesizer (speakRequest body) :=
    wireMessage_speakRequest (by rw [hlength]; decide)
  have hlines : wireLines (speakRequest body) =
      wireLines (speakRequest []) ++ [(contentLengthName, decimal 1000000)] := by
    have hne : (speakRequest body).body.isEmpty = false := by rw [← hbody]; rfl
    rw [wireLines, contentLengthField, hne, ← hlength]
    rfl
  have hfits : HeaderFits (mrcpConnectionTxSizeSet 1024) (speakRequest body) := by
    rw [HeaderFits, hlines]
    show (startLineText (speakRequest []).startLine lengthGap ++ crlf).length + _ + 2 < _
    decide +kernel
  obtain ⟨sent, hsend⟩ := messageSend_fits hwire hfits
  refine ⟨sent, _, hsend, ?_⟩
  rw [wireText, ← withLength_wire hwire]
  refine fun h => absurd ((messageLengthField_iff rfl _).mp h) ?_
  show ¬ _ + body.length < _
  omega

/-- A SPEAK on a channel with an id of a thousand bytes: the Channel-Identifier
line is left out, and the message is complete without it. -/
def longSession : MrcpMessage :=
  { speakRequest [] with
    channelId := ⟨List.replicate 1000 49, MrcpResource.synthesizer.name⟩ }

theorem channel_identifier_lost :
    (mrcpGeneratorRun (fun _ => 0) .startLine longSession ⟨[], 1024⟩).status = .complete ∧
      ¬HeaderEmitted (fun _ => 0) longSession 1024 := by
  unfold HeaderEmitted
  decide +kernel

/-- A SPEAK whose Content-Length was set for another body. -/
def staleRequest : MrcpMessage :=
  let message := speakRequest (bytesOf "hello")
  (mrcpGenericHeaderPropertyAdd (fun _ => 0)
    (message.setGeneric { mrcpGenericHeaderInit with contentLength := 3 })
    genericHeaderContentLength).2

/-- A SPEAK with a vendor's header field that leaves no room for Content-Length. -/
def fillerRequest : MrcpMessage :=
  let message := speakRequest (bytesOf "hello")
  { message with
    header := { message.header with
      headerSection := { message.header.headerSection with
        ring := [⟨0, bytesOf "X-Filler", List.replicate 940 97, unknownHeaderFieldId⟩] } } }

end UniMrcp.Transport
