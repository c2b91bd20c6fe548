import UniMrcp.Mrcp.HeaderComplete
import UniMrcp.Transport.SendText

/-!
# Messages read back

A message that is sent and parsed comes back as it was, with the
`Content-Length` the validation added, if and only if

* its start line and header section fit the transmit buffer: a field that
  does not is left out without notice;
* its body does not start with white space: the header parser takes such a
  body for a continuation of the empty line;
* in version 2, it has fewer than 999994 bytes besides its length: the length
  has room for six digits, and is left out if it needs more.
-/

namespace UniMrcp.Transport

open UniMrcp.Lib UniMrcp.Apt UniMrcp.Mrcp

/-- `parsed` is `message` as far as the text carries it: a response does not
carry its method, and version 1 neither the session nor the length. -/
structure SameMessage (message parsed : MrcpMessage) : Prop where
  messageType : parsed.startLine.messageType = message.startLine.messageType
  version : parsed.startLine.version = message.startLine.version
  requestId : parsed.startLine.requestId = message.startLine.requestId
  method : message.startLine.messageType ≠ .response →
    parsed.startLine.methodName = message.startLine.methodName ∧
      parsed.startLine.methodId = message.startLine.methodId
  statusCode : parsed.startLine.statusCode = message.startLine.statusCode
  requestState : parsed.startLine.requestState = message.startLine.requestState
  resourceName : parsed.channelId.resourceName = message.channelId.resourceName
  sessionId : message.startLine.version = .v2 →
    parsed.channelId.sessionId = message.channelId.sessionId
  fields : parsed.header.headerSection.pairs =
    message.header.headerSection.pairs ++ contentLengthField message.body
  body : parsed.body = message.body

/-- One run of a fresh parser on a text. -/
def parseText (object : MrcpParserObject) (text : Bytes) : ParseResult MrcpMessage :=
  mrcpParserRun object (aptMessageParserCreate MrcpMessage) (TextStream.ofStr ⟨text, []⟩)

/-- The message is sent, and one run of the parser on the bytes sent reads all
of them and returns the message.  In version 2 the length of its start line
is the number of bytes. -/
def RoundTrips (object : MrcpParserObject) (memory : Nat → UInt8) (size : Nat)
    (message : MrcpMessage) : Prop :=
  ∃ sent bytes parsed, messageSend memory size message = some (sent, bytes) ∧
    (parseText object bytes).status = .complete ∧
    (parseText object bytes).stream.rest = [] ∧
    (parseText object bytes).message = some parsed ∧
    SameMessage message parsed ∧
    (message.startLine.version = .v2 → parsed.startLine.length = bytes.length)

/-! ## One run of the parser -/

section Parse

variable {object : MrcpParserObject} {start : Bytes} {lines : List (Bytes × Bytes)}

theorem isEol_tokenCr : isEol tokenCr = true := rfl

theorem length_le_headerText (lines : List (Bytes × Bytes)) :
    lines.length ≤ (headerText lines).length := by
  induction lines with
  | nil => exact Nat.le_refl _
  | cons line lines ih =>
    rw [headerText_cons_length, List.length_cons]
    omega

theorem parseText_eq (text : Bytes) : parseText object text =
    startStage (mrcpParserVtable object) (TextStream.ofStr ⟨text, []⟩) := rfl

/-- The start line is the first line. -/
theorem mrcpParserOnStart_line (object : MrcpParserObject)
    (hstart : ∀ c ∈ start, isEol c = false) (tail : Bytes) :
    (mrcpParserVtable object).onStart (TextStream.ofStr ⟨start ++ tokenCr :: tail, []⟩) =
      (mrcpStartLineMessage object ⟨start, tokenCr :: tail⟩,
        behindLine [] start (tokenCr :: tail)) := by
  show mrcpParserOnStart object ⟨[], start ++ tokenCr :: tail, [], false⟩ = _
  rw [mrcpParserOnStart, aptTextLineRead_line [] hstart isEol_tokenCr]
  rfl

/-- A text that starts with no start line is no message. -/
theorem parseText_invalid (hstart : ∀ c ∈ start, isEol c = false) (tail : Bytes)
    (hnone : mrcpStartLineMessage object ⟨start, tokenCr :: tail⟩ = none) :
    (parseText object (start ++ tokenCr :: tail)).status ≠ .complete := by
  rw [parseText_eq, startStage, mrcpParserOnStart_line object hstart, hnone]
  dsimp only
  split <;> decide

/-- The lines of the header section are read, and the white space behind
them. -/
theorem headerStage_lines (hlines : ∀ p ∈ lines, WireField p) (started : MrcpMessage)
    (skipLf : Bool) (before body : Bytes) :
    ∃ skipLf' before', headerStage (mrcpParserVtable object) started skipLf
        ⟨before, headerText lines ++ crlf ++ body, [], false⟩ =
      headerCompleteStage (mrcpParserVtable object) (started.withLines lines) skipLf'
        (foldedLines body.length ⟨before', body, [], false⟩ []).2 := by
  have hfuel : lines.length < (headerText lines ++ crlf ++ body).length + 1 := by
    have := length_le_headerText lines
    simp only [List.length_append]
    omega
  obtain ⟨before', hloop⟩ := headerSectionLoop_headerText hlines
    started.header.headerSection before body hfuel
  have hparse : aptHeaderSectionParse ((mrcpParserVtable object).header started)
      ⟨before, headerText lines ++ crlf ++ body, [], false⟩ =
      (true, appendFields started.header.headerSection lines,
        (foldedLines body.length ⟨before', body, [], false⟩ []).2) := hloop
  exact ⟨_, before', by rw [headerStage, hparse]; rfl⟩

/-- A text that starts with a start line is read up to its body. -/
theorem parseText_lines (hstart : ∀ c ∈ start, isEol c = false)
    (hlines : ∀ p ∈ lines, WireField p) (body : Bytes) {started : MrcpMessage}
    (hsome : mrcpStartLineMessage object
      ⟨start, tokenCr :: tokenLf :: (headerText lines ++ crlf ++ body)⟩ = some started) :
    ∃ skipLf before, parseText object
        (start ++ tokenCr :: tokenLf :: (headerText lines ++ crlf ++ body)) =
      headerCompleteStage (mrcpParserVtable object) (started.withLines lines) skipLf
        (foldedLines body.length ⟨before, body, [], false⟩ []).2 := by
  have hread := mrcpParserOnStart_line object hstart
    (tokenLf :: (headerText lines ++ crlf ++ body))
  rw [parseText_eq, startStage, hread, hsome]
  exact headerStage_lines hlines started _ _ body

end Parse

/-! ## Reading what was sent -/

section Wire

variable {resource : MrcpResource} {message : MrcpMessage} {object : MrcpParserObject}
variable {lines : List (Bytes × Bytes)}

/-- The length the start line gives; version 1 has none. -/
def sentLength (message : MrcpMessage) (lines : List (Bytes × Bytes)) : Nat :=
  if message.startLine.version = .v2 then
    plainLength message lines + selfCount (plainLength message lines)
  else 0

theorem wireText_eq (message : MrcpMessage) (lines : List (Bytes × Bytes)) :
    wireText message lines =
      startLineText message.startLine (lengthText (plainLength message lines)) ++
        tokenCr :: tokenLf :: (headerText lines ++ crlf ++ message.body) := by
  simp [wireText, wireHead, crlf]

theorem lengthText_eol (n : Nat) : ∀ c ∈ lengthText n, isEol c = false := by
  unfold lengthText
  split
  · simp only [List.forall_mem_append]
    exact ⟨decimal_eol _, by decide +kernel⟩
  · decide +kernel

/-- The start line as it is sent, with its length. -/
theorem startLineText_sent (h : WireMessage resource message)
    (hlong : message.startLine.version = .v2 → plainLength message lines < 999994) :
    startLineText message.startLine (lengthText (plainLength message lines)) =
      startLineText message.startLine (decimal (sentLength message lines) ++ [tokenSp]) := by
  cases hversion : message.startLine.version with
  | unknown => exact absurd hversion h.version_ne
  | v1 => simp [startLineText, hversion]
  | v2 => rw [lengthText, if_pos (hlong hversion), sentLength, if_pos hversion]

theorem sentLength_lt
    (hlong : message.startLine.version = .v2 → plainLength message lines < 999994) :
    sentLength message lines < 2 ^ 63 := by
  unfold sentLength
  split
  · rename_i hversion
    have hn := hlong hversion
    have hcount := (selfCount_le_iff _).mpr hn
    unfold maxDigitCount at hcount
    omega
  · decide

/-- The length of the start line is the number of bytes sent. -/
theorem sentLength_eq (hversion : message.startLine.version = .v2)
    (hlong : plainLength message lines < 999994) :
    sentLength message lines = (wireText message lines).length := by
  have hcount := length_decimal_selfCount (plainLength message lines)
  have htext : startLineText message.startLine (lengthText (plainLength message lines)) =
      versionText .v2 ++ [tokenSp] ++ (decimal (plainLength message lines +
        selfCount (plainLength message lines)) ++ [tokenSp]) ++
          startLineCore message.startLine := by
    simp [startLineText, hversion, lengthText, if_pos hlong]
  rw [sentLength, if_pos hversion, wireText, wireHead, htext]
  simp only [List.length_append, hcount, length_versionText, List.length_cons,
    List.length_nil]
  unfold plainLength
  simp only [List.length_append]
  omega

/-- A version 2 message that is too long is sent without its length. -/
theorem parseText_long (h : WireMessage resource message)
    (hversion : message.startLine.version = .v2)
    (hlong : ¬plainLength message lines < 999994) :
    (parseText object (wireText message lines)).status ≠ .complete := by
  rw [wireText_eq]
  apply parseText_invalid (h.startLine.text_eol (lengthText_eol _))
  rw [lengthText, if_neg hlong]
  simp [mrcpStartLineMessage, mrcpStartLineParse_gap h.startLine hversion isEol_tokenCr]

theorem parseText_started (h : WireMessage resource message)
    (hobject : message.startLine.version = .v1 → object.resource = some resource)
    (hlines : ∀ p ∈ lines, WireField p)
    (hlong : message.startLine.version = .v2 → plainLength message lines < 999994) :
    ∃ skipLf before, parseText object (wireText message lines) =
      headerCompleteStage (mrcpParserVtable object)
        ((startedMessage resource message.startLine (sentLength message lines)).withLines
          lines) skipLf
        (foldedLines message.body.length ⟨before, message.body, [], false⟩ []).2 := by
  rw [wireText_eq]
  apply parseText_lines (h.startLine.text_eol (lengthText_eol _)) hlines
  rw [startLineText_sent h hlong]
  exact mrcpStartLineMessage_wire h hobject (sentLength_lt hlong) isEol_tokenCr _

/-- A body that has arrived is read. -/
theorem headerCompleteStage_read {started arrived : MrcpMessage} {length : Nat}
    (hheader : mrcpParserOnHeaderComplete object started = (true, arrived, length))
    {stream : TextStream} (hlength : length ≤ stream.rest.length) (skipLf : Bool) :
    headerCompleteStage (mrcpParserVtable object) started skipLf stream =
      ⟨.complete, some (if length = 0 then arrived
          else { arrived with body := stream.rest.take length }),
        ⟨.startLine, skipLf⟩, stream.advance length⟩ := by
  have hvtable : (mrcpParserVtable object).onHeaderComplete started = (true, arrived, length) :=
    hheader
  rw [headerCompleteStage, hvtable]
  by_cases hzero : length = 0
  · subst hzero
    simp [TextStream.advance]
  · have hroom : ¬length - 0 > stream.rest.length := by omega
    have hread : aptMessageBodyRead length [] stream =
        (true, stream.rest.take length, stream.advance length) := by
      rw [aptMessageBodyRead, List.length_nil, if_neg hroom]
      rfl
    simp only [if_neg hzero, bodyStage, hread]
    rfl

/-- A message is complete only if its header section is, and its body has
arrived. -/
theorem headerCompleteStage_complete {started : MrcpMessage} {skipLf : Bool}
    {stream : TextStream}
    (h : (headerCompleteStage (mrcpParserVtable object) started skipLf stream).status =
      .complete) :
    ∃ arrived length, mrcpParserOnHeaderComplete object started = (true, arrived, length) ∧
      length ≤ stream.rest.length := by
  obtain ⟨ok, arrived, length, hheader⟩ : ∃ ok arrived length,
    mrcpParserOnHeaderComplete object started = (ok, arrived, length) := ⟨_, _, _, rfl⟩
  have hvtable : (mrcpParserVtable object).onHeaderComplete started = (ok, arrived, length) :=
    hheader
  rw [headerCompleteStage, hvtable] at h
  cases ok with
  | false => cases h
  | true =>
    refine ⟨arrived, length, hheader, ?_⟩
    by_contra hlength
    have hread : aptMessageBodyRead length [] stream =
        (false, stream.rest, stream.advance stream.rest.length) := by
      rw [aptMessageBodyRead, List.length_nil, if_pos (by omega)]
      rfl
    have hzero : ¬length = 0 := by omega
    simp only [if_neg hzero, bodyStage, hread] at h
    cases h

theorem startedMessage_pairs (resource : MrcpResource) (line : StartLine) (n : Nat)
    (lines : List (Bytes × Bytes)) :
    ((startedMessage resource line n).withLines lines).header.headerSection.pairs = lines := by
  have harr : (startedMessage resource line n).header.headerSection.arr.length ≤
      unknownHeaderFieldId := by
    unfold startedMessage
    split
    · exact Nat.zero_le _
    · exact arr_length_le mrcpMessageHeaderInit resource _
  have hring : (startedMessage resource line n).header.headerSection.ring = [] := by
    unfold startedMessage
    split
    · rfl
    · rw [headerSection_dataAlloc]
      rfl
  show (appendFields (startedMessage resource line n).header.headerSection lines).pairs = lines
  rw [appendFields_eq harr, hring, pairs_eq]
  simp

/-- A complete message has lost no field and no byte of its body. -/
theorem parseText_complete (h : WireMessage resource message)
    (hfactory : resource ∈ object.factory)
    (hobject : message.startLine.version = .v1 → object.resource = some resource)
    (hsub : lines.Sublist (wireLines message))
    (hlong : message.startLine.version = .v2 → plainLength message lines < 999994)
    (hstatus : (parseText object (wireText message lines)).status = .complete)
    {parsed : MrcpMessage}
    (hparsed : (parseText object (wireText message lines)).message = some parsed)
    (hfields : parsed.header.headerSection.pairs = wireFields message) :
    lines = wireLines message ∧ ∀ c ∈ message.body.head?, aptTextIsWsp c = false := by
  have hlines : ∀ p ∈ lines, WireField p := fun p hp => h.lines p (hsub.subset hp)
  obtain ⟨skipLf, before, hrun⟩ := parseText_started h hobject hlines hlong
  rw [hrun] at hstatus hparsed
  obtain ⟨arrived, length, hheader, hlength⟩ := headerCompleteStage_complete hstatus
  rw [headerCompleteStage_read hheader hlength] at hparsed
  -- the parser never adds a field, so no line was left out
  have heq : lines = wireLines message := by
    apply hsub.eq_of_length_le
    have hcount := mrcpParserOnHeaderComplete_length hheader
    have harrived : arrived.header = parsed.header := by
      cases hparsed
      split <;> rfl
    have hversion : ((startedMessage resource message.startLine
        (sentLength message lines)).withLines lines).startLine.version =
          message.startLine.version := by
      simp only [startedMessage]
      split <;> rfl
    rw [startedMessage_pairs, harrived, hfields, hversion] at hcount
    calc (wireLines message).length = (wireFields message).length +
            (if message.startLine.version = .v2 then 1 else 0) := by
          simp only [wireLines, wireFields, channelIdField, List.length_append]
          split <;> simp only [List.length_cons, List.length_nil] <;> omega
      _ ≤ lines.length := hcount
  refine ⟨heq, ?_⟩
  subst heq
  obtain ⟨arrived', hheader', -⟩ := headerCompletes h hfactory
    (sentLength message (wireLines message))
  have hbody : length = message.body.length :=
    (congrArg (fun r => r.2.2) (hheader.symm.trans hheader'))
  intro c hc
  cases hcons : message.body with
  | nil => rw [hcons] at hc; cases hc
  | cons b tail =>
    rw [hcons] at hc hbody hlength
    cases hc
    by_contra hwsp
    have hshort := foldedLines_length_lt (Bool.eq_true_of_not_eq_false hwsp) before tail
      tail.length []
    rw [List.length_cons] at hlength
    omega

/-- The header fields say nothing about the body that is there. -/
theorem mrcpParserOnHeaderComplete_body (object : MrcpParserObject) (started : MrcpMessage) :
    (mrcpParserOnHeaderComplete object started).2.1.body = started.body := by
  have hresource : ∀ (message : MrcpMessage) (resource : MrcpResource),
      (mrcpMessageResourceSet message resource).2.body = message.body := by
    intro message resource
    unfold mrcpMessageResourceSet
    dsimp only
    split <;> rfl
  have hset : (mrcpParserResourceSet object started).2.body = started.body := by
    unfold mrcpParserResourceSet
    split
    · rfl
    · split
      · rfl
      · exact hresource _ _
  unfold mrcpParserOnHeaderComplete
  dsimp only
  split <;> split <;> simp_all

theorem sameMessage_of_arrived (h : WireMessage resource message) {arrived : MrcpMessage}
    {length : Nat} (harrived : HeaderArrived resource message arrived length) :
    SameMessage message { arrived with body := message.body } where
  messageType := by rw [harrived.startLine_eq]; rfl
  version := by rw [harrived.startLine_eq]; rfl
  requestId := by rw [harrived.startLine_eq]; rfl
  method hne := by
    rw [harrived.startLine_eq]
    exact ⟨if_neg hne, if_neg hne⟩
  statusCode := by rw [harrived.startLine_eq]; rfl
  requestState := by rw [harrived.startLine_eq]; rfl
  resourceName := harrived.resourceName_eq.trans h.resourceName.symm
  sessionId := harrived.sessionId_eq
  fields := harrived.pairs_eq
  body := rfl

/-- The whole message is read back. -/
theorem parseText_roundTrip (h : WireMessage resource message)
    (hfactory : resource ∈ object.factory)
    (hobject : message.startLine.version = .v1 → object.resource = some resource)
    (hlong : message.startLine.version = .v2 → plainLength message (wireLines message) < 999994)
    (hbody : ∀ c ∈ message.body.head?, aptTextIsWsp c = false) :
    ∃ parsed, (parseText object (wireText message (wireLines message))).status = .complete ∧
      (parseText object (wireText message (wireLines message))).stream.rest = [] ∧
      (parseText object (wireText message (wireLines message))).message = some parsed ∧
      SameMessage message parsed ∧ (message.startLine.version = .v2 →
        parsed.startLine.length = (wireText message (wireLines message)).length) := by
  obtain ⟨skipLf, before, hrun⟩ := parseText_started h hobject h.lines hlong
  obtain ⟨arrived, hheader, harrived⟩ := headerCompletes h hfactory
    (sentLength message (wireLines message))
  have hstop : foldedLines message.body.length ⟨before, message.body, [], false⟩ [] =
      ([], ⟨before, message.body, [], false⟩) := foldedLines_stop hbody _ _
  have hempty : arrived.body = [] := by
    have hkept := mrcpParserOnHeaderComplete_body object ((startedMessage resource
      message.startLine (sentLength message (wireLines message))).withLines (wireLines message))
    rw [hheader] at hkept
    refine hkept.trans ?_
    simp only [startedMessage]
    split <;> rfl
  have hparsed : (if message.body.length = 0 then arrived
      else { arrived with body := message.body.take message.body.length }) =
        { arrived with body := message.body } := by
    split
    · rename_i hzero
      rw [List.length_eq_zero_iff.mp hzero, ← hempty]
    · rw [List.take_length]
  rw [hrun, hstop, headerCompleteStage_read hheader (Nat.le_refl _), hparsed]
  refine ⟨_, rfl, ?_, rfl, sameMessage_of_arrived h harrived, ?_⟩
  · exact List.drop_eq_nil_of_le (Nat.le_refl _)
  · intro hversion
    rw [← sentLength_eq hversion (hlong hversion)]
    rw [harrived.startLine_eq]
    exact if_pos hversion

/-- A message comes back as it was sent if and only if its header section
fits the transmit buffer, its body does not start with white space, and, in
version 2, its length has at most six digits. -/
theorem roundTrips_iff (h : WireMessage resource message)
    (hfactory : resource ∈ object.factory)
    (hobject : message.startLine.version = .v1 → object.resource = some resource)
    (memory : Nat → UInt8) (size : Nat) :
    RoundTrips object memory size message ↔
      HeaderFits (mrcpConnectionTxSizeSet size) message ∧
        (∀ c ∈ message.body.head?, aptTextIsWsp c = false) ∧
        (message.startLine.version = .v2 →
          plainLength message (wireLines message) < 999994) := by
  constructor
  · rintro ⟨sent, bytes, parsed, hsend, hstatus, -, hparsed, hsame, -⟩
    obtain ⟨lines, hsub, rfl, hfits⟩ := messageSend_sublist h hsend
    have hlong : message.startLine.version = .v2 → plainLength message lines < 999994 := by
      intro hversion
      by_contra hge
      exact parseText_long h hversion hge hstatus
    obtain ⟨rfl, hbody⟩ := parseText_complete h hfactory hobject hsub hlong hstatus hparsed
      hsame.fields
    exact ⟨hfits rfl, hbody, hlong⟩
  · rintro ⟨hfits, hbody, hlong⟩
    obtain ⟨sent, hsend⟩ := messageSend_fits h hfits
    obtain ⟨parsed, hparsed⟩ := parseText_roundTrip h hfactory hobject hlong hbody
    exact ⟨sent, _, parsed, hsend, hparsed⟩

end Wire

/-- A SPEAK request of version 2 on channel `1@speechsynth`. -/
def speakRequest (body : Bytes) : MrcpMessage :=
  { mrcpMessageCreate with
    startLine := { mrcpStartLineInit with
      messageType := .request
      version := .v2
      requestId := 1
      methodName := bytesOf "SPEAK"
      methodId := 2 }
    channelId := ⟨bytesOf "1", MrcpResource.synthesizer.name⟩
    resource := some .synthesizer
    header := mrcpMessageHeaderDataAlloc mrcpMessageHeaderInit .synthesizer .v2
    body := body }

theorem wireMessage_speakRequest {body : Bytes} (hbody : body.length < 2 ^ 63) :
    WireMessage .synthesizer (speakRequest body) where
  version_ne := by simp [speakRequest]
  type_ne := by simp [speakRequest]
  request _ := by
    show aptStringTableStrGet synthMethodStringTable 2 = some (bytesOf "SPEAK")
    decide
  event h := by cases h
  status _ := rfl
  state_iff := ⟨fun _ => rfl, fun _ => rfl⟩
  resourceName := rfl
  session _ := by
    show WireSession (bytesOf "1")
    exact ⟨by decide +kernel, by decide +kernel, by decide +kernel⟩
  field p hp := by cases hp
  field_ne p hp := by cases hp
  unset := by
    show aptHeaderSectionFieldCheck (speakRequest []).header.headerSection
      genericHeaderContentLength = false
    decide
  data := by simp [speakRequest, mrcpMessageHeaderDataAlloc]
  body_length := hbody

theorem roundTrips_speakRequest :
    RoundTrips ⟨mrcpResourcesLoad, none⟩ (fun _ => 0) 1024 (speakRequest (bytesOf "hello")) :=
  (roundTrips_iff (wireMessage_speakRequest (by decide))
    (by show MrcpResource.synthesizer ∈ mrcpResourcesLoad; decide) (by intro h; cases h)
      _ _).mpr
    ⟨by unfold HeaderFits; decide +kernel, by decide +kernel, by intro _; decide +kernel⟩

/-- A body that starts with a space: the parser takes `" hello"` for the
continuation of the empty line and waits for a body that has gone by. -/
theorem speakRequest_space_lost :
    WireMessage .synthesizer (speakRequest (bytesOf " hello")) ∧
      ¬RoundTrips ⟨mrcpResourcesLoad, none⟩ (fun _ => 0) 1024
        (speakRequest (bytesOf " hello")) := by
  refine ⟨wireMessage_speakRequest (by decide), ?_⟩
  rintro ⟨sent, bytes, parsed, hsend, hstatus, -⟩
  have hrun : (messageSend (fun _ => 0) 1024 (speakRequest (bytesOf " hello"))).map
      (fun p => (parseText ⟨mrcpResourcesLoad, none⟩ p.2).status) = some .incomplete := by
    decide +kernel
  rw [hsend, Option.map_some, hstatus] at hrun
  cases hrun

end UniMrcp.Transport
