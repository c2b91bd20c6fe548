import UniMrcp.Transport.SendLoop

/-!
# What is sent

The bytes of a message on the wire, for the header lines that were written.

* `messageSend_fits`: if start line and header section fit the transmit
  buffer, the whole message is sent, in as many pieces as it takes;
* `messageSend_sublist`: in any case each header line is sent or left out as
  a whole, and none is left out only if all fit.
-/

namespace UniMrcp.Transport

open UniMrcp.Lib UniMrcp.Apt UniMrcp.Mrcp

/-- The number of bytes of a version 2 message with the header lines `lines`,
without those of its length. -/
def plainLength (message : MrcpMessage) (lines : List (Bytes × Bytes)) : Nat :=
  10 + (startLineCore message.startLine ++ (crlf ++ headerText lines ++ crlf)).length +
    message.body.length

/-- Start line and header section with the header lines `lines`. -/
def wireHead (message : MrcpMessage) (lines : List (Bytes × Bytes)) : Bytes :=
  startLineText message.startLine (lengthText (plainLength message lines)) ++
    (crlf ++ headerText lines ++ crlf)

/-- The message with the header lines `lines`. -/
def wireText (message : MrcpMessage) (lines : List (Bytes × Bytes)) : Bytes :=
  wireHead message lines ++ message.body

/-- The header section fits the transmit buffer, with the gap for the length
still open. -/
def HeaderFits (size : Nat) (message : MrcpMessage) : Prop :=
  (startLineText message.startLine lengthGap ++ crlf).length +
    (headerText (wireLines message)).length + 2 < size

/-! ## The header section -/

section Header

variable {resource : MrcpResource} {message : MrcpMessage} {size : Nat}

section

variable (h : WireMessage resource message)
include h

/-- The start line is written, and the header lines behind it are those of the
wire. -/
theorem generatedHeader_wire (memory : Nat → UInt8) (hsize : 1024 ≤ size) :
    ∃ header line, mrcpMessageValidate memory message = (true, { message with header := header }) ∧
      mrcpStartLineGenerate message.startLine ⟨[], size⟩ =
        (true, line, ⟨startLineText message.startLine lengthGap ++ crlf, size⟩) ∧
      headerLines { message with header := header } = wireLines message := by
  obtain ⟨header, hkeeps, -⟩ := mrcpMessageValidate_eq memory message
  obtain ⟨valid, hvalid, -, -, -, hpairs⟩ := mrcpMessageValidate_wire h memory
  obtain rfl : valid = { message with header := header } := by rw [← hkeeps, hvalid]
  have hlength := h.startLine.length_text_le
  have hknown : message.startLine.Known := ⟨h.version_ne, fun _ => h.startLine.type_ne⟩
  refine ⟨header, _, hvalid, mrcpStartLineGenerate_text hknown (by omega), ?_⟩
  rw [headerLines, hpairs, wireLines, channelIdField, channelIdField, wireFields]

/-- The header section with its length is that of the wire. -/
theorem withLength_wire (lines : List (Bytes × Bytes)) :
    withLength message (startLineText message.startLine lengthGap ++
      (crlf ++ headerText lines ++ crlf)) = wireHead message lines := by
  cases hversion : message.startLine.version with
  | unknown => exact absurd hversion h.version_ne
  | v1 => simp [withLength, wireHead, startLineText, hversion]
  | v2 =>
    have hlength : (startLineText message.startLine lengthGap ++
        (crlf ++ headerText lines ++ crlf)).length - 6 + message.body.length =
        plainLength message lines := by
      simp [startLineText, hversion, plainLength, length_versionText, lengthGap, maxDigitCount]
      omega
    rw [withLength, hlength, wireHead, startLineText, startLineText, hversion]
    simp only [List.append_assoc]
    rfl

/-- A message whose empty line finds room is sent to its end. -/
theorem sendLoop_kept {memory : Nat → UInt8} (hsize : 1024 ≤ size) {lines : List (Bytes × Bytes)}
    (hkept : linesKept size (startLineText message.startLine lengthGap ++ crlf).length
      (wireLines message) = some lines) :
    ∃ message', sendLoop memory size (message.body.length + 1) .startLine message =
      some (message', wireText message lines) := by
  obtain ⟨header, line, hvalid, hstart, hlines⟩ := generatedHeader_wire h memory hsize
  obtain ⟨message', -, hsend⟩ := sendLoop_header (by omega)
    (generatedHeader_eq hvalid hstart (hlines ▸ hkept))
  refine ⟨message', ?_⟩
  rw [hsend, wireText, ← withLength_wire h]
  simp

end

end Header

section Send

variable {resource : MrcpResource} {message : MrcpMessage} {memory : Nat → UInt8}

theorem le_mrcpConnectionTxSizeSet (size : Nat) : 1024 ≤ mrcpConnectionTxSizeSet size := by
  unfold mrcpConnectionTxSizeSet mrcpStreamBufferSize
  split <;> omega

/-- A message whose header section fits is sent as a whole. -/
theorem messageSend_fits (h : WireMessage resource message) {size : Nat}
    (hfits : HeaderFits (mrcpConnectionTxSizeSet size) message) :
    ∃ message', messageSend memory size message =
      some (message', wireText message (wireLines message)) := by
  exact sendLoop_kept h (le_mrcpConnectionTxSizeSet size) (linesKept_eq_self.mpr hfits)

/-- If a message is sent at all, then each header line is sent or left out,
and all are sent only if they fit. -/
theorem messageSend_sublist (h : WireMessage resource message) {size : Nat}
    {message' : MrcpMessage} {bytes : Bytes}
    (hsend : messageSend memory size message = some (message', bytes)) :
    ∃ lines, lines.Sublist (wireLines message) ∧ bytes = wireText message lines ∧
      (lines = wireLines message → HeaderFits (mrcpConnectionTxSizeSet size) message) := by
  have hsize := le_mrcpConnectionTxSizeSet size
  cases hkept : linesKept (mrcpConnectionTxSizeSet size)
      (startLineText message.startLine lengthGap ++ crlf).length (wireLines message) with
  | some lines =>
    obtain ⟨message'', hloop⟩ := sendLoop_kept h hsize hkept
    rw [messageSend, hloop] at hsend
    cases hsend
    refine ⟨lines, (linesKept_sublist hkept).1, rfl, ?_⟩
    rintro rfl
    exact linesKept_eq_self.mp hkept
  | none =>
    -- without room for the empty line the generator fails
    obtain ⟨header, line, hvalid, hstart, hlines⟩ := generatedHeader_wire h memory hsize
    have hlength := h.startLine.length_text_le
    obtain ⟨out, hclogged, hlt⟩ := eolInsert_clogged hkept (by simp [crlf]; omega)
    simp [messageSend, sendLoop, mrcpGeneratorRun_eq, generatedHeader, hvalid, hstart, hlines,
      hclogged, aptMessageGeneratorBreak, TxStream.isEnd, Nat.not_le.mpr hlt] at hsend

end Send

end UniMrcp.Transport
