import UniMrcp.Mrcp.WireMessage
import UniMrcp.Transport.Send

/-!
# The send loop for any message

What the generator and the send loop do with a message, whatever stands in its
start line and its header.

* `mrcpGeneratorRun_eq`: a run from the start writes start line and header
  section, puts the length in and goes on to the body;
* `sendLoop_header`: once the header section is in the buffer, the message is
  sent to its end.
-/

namespace UniMrcp.Transport

open UniMrcp.Lib UniMrcp.Apt UniMrcp.Mrcp

/-- The lines between the start line and the empty line. -/
def headerLines (message : MrcpMessage) : List (Bytes × Bytes) :=
  channelIdField message ++ message.header.headerSection.pairs

/-- The generator up to the empty line: the status, the message, and the
buffer with start line and header section. -/
def generatedHeader (memory : Nat → UInt8) (message : MrcpMessage) (stream : TxStream) :
    Bool × MrcpMessage × TxStream :=
  match mrcpMessageValidate memory message with
  | (false, message) => (false, message, stream)
  | (true, message) =>
    match mrcpStartLineGenerate message.startLine stream with
    | (false, line, stream) => (false, { message with startLine := line }, stream)
    | (true, line, stream) =>
      match aptTextEolInsert (insertFields (headerLines message) stream) with
      | (ok, stream) => (ok, { message with startLine := line }, stream)

section Run

variable (memory : Nat → UInt8) (message : MrcpMessage) (stream : TxStream)

theorem mrcpStartLineGenerate_version (line : StartLine) :
    (mrcpStartLineGenerate line stream).2.1.version = line.version := by
  unfold mrcpStartLineGenerate
  cases hversion : line.version with
  | unknown | v2 => exact hversion
  | v1 => cases line.messageType <;> exact hversion

/-- One run of the generator from the start. -/
theorem mrcpGeneratorRun_eq : mrcpGeneratorRun memory .startLine message stream =
    match generatedHeader memory message stream with
    | (false, message, stream) =>
      ⟨aptMessageGeneratorBreak stream, .startLine, message, message.body.length, stream⟩
    | (true, message, stream) =>
      match mrcpGeneratorOnHeaderComplete message stream with
      | (message, stream) =>
        if message.body.isEmpty then ⟨.complete, .startLine, message, 0, stream⟩
        else generatorBodyStage (mrcpGeneratorVtable memory) message 0 stream := by
  simp only [mrcpGeneratorRun, aptMessageGeneratorRun, mrcpGeneratorVtable, mrcpGeneratorOnStart,
    generatedHeader]
  obtain ⟨ok, valid⟩ := mrcpMessageValidate memory message
  cases ok with
  | false => rfl
  | true =>
    have hversion := mrcpStartLineGenerate_version stream valid.startLine
    rcases hstart : mrcpStartLineGenerate valid.startLine stream with ⟨_ | _, line, s⟩
    · simp [hstart]
    · rw [hstart] at hversion
      have hlines : aptHeaderSectionGenerate valid.header.headerSection
          (if line.version = .v2 then (mrcpChannelIdGenerate valid.channelId s).2 else s) =
          aptTextEolInsert (insertFields (headerLines valid) s) := by
        rw [aptHeaderSectionGenerate_eq, headerLines, channelIdField, ← hversion,
          mrcpChannelIdGenerate_eq]
        split <;> rfl
      simp only [hstart, hlines]
      rcases aptTextEolInsert (insertFields (headerLines valid) s) with ⟨_ | _, s'⟩ <;> rfl

end Run

/-! ## The header section -/

/-- What stands for the length of a version 2 message in its start line, if
the message has `n` bytes besides. -/
def lengthText (n : Nat) : Bytes :=
  if n < 999994 then decimal (n + selfCount n) ++ [tokenSp] else lengthGap

/-- The header section of a message with the length in the place of the
gap. -/
def withLength (message : MrcpMessage) (out : Bytes) : Bytes :=
  if message.startLine.version = .v2 then
    versionText .v2 ++ [tokenSp] ++ lengthText (out.length - 6 + message.body.length) ++
      out.drop 16
  else out

theorem withLength_v2 {message : MrcpMessage} (hversion : message.startLine.version = .v2)
    (rest : Bytes) :
    withLength message (versionText .v2 ++ [tokenSp] ++ lengthGap ++ rest) =
      versionText .v2 ++ [tokenSp] ++ lengthText (10 + rest.length + message.body.length) ++
        rest := by
  have hlength : (versionText .v2 ++ [tokenSp] ++ lengthGap ++ rest).length - 6 =
      10 + rest.length := by
    simp [length_versionText, lengthGap, maxDigitCount]
    omega
  rw [withLength, if_pos hversion, hlength]
  rfl

theorem mrcpStartLineFinalize_gap {message : MrcpMessage} {line : StartLine} {size : Nat}
    (hversion : message.startLine.version = .v2)
    (hline : line = { message.startLine with length := 9 }) (rest : Bytes)
    (hsize : (versionText .v2 ++ [tokenSp] ++ lengthGap ++ rest).length < size) :
    let out := versionText .v2 ++ [tokenSp] ++ lengthGap ++ rest
    ∃ ok line' size', mrcpStartLineFinalize line message.body.length ⟨out, size⟩ =
      (ok, line', ⟨withLength message out, size'⟩) ∧ (withLength message out).length < size' ∧
      (withLength message out).length + size = out.length + size' := by
  dsimp only
  rw [withLength_v2 hversion, mrcpStartLineFinalize_text (by rw [hline, hversion]) (by rw [hline])]
  generalize 10 + rest.length + message.body.length = n
  have hcount := length_decimal_selfCount n
  have hgap : lengthGap.length = 7 := rfl
  dsimp only [lengthText]
  by_cases hfits : n < 999994
  · have hle := (selfCount_le_iff n).mpr hfits
    simp only [if_pos hfits]
    refine ⟨_, _, _, rfl, ?_⟩
    simp only [List.length_append, List.length_singleton, hgap,
      maxDigitCount] at *
    omega
  · simp only [if_neg hfits]
    exact ⟨_, _, _, rfl, hsize, rfl⟩

variable {memory : Nat → UInt8} {message m : MrcpMessage} {s : TxStream} {size : Nat}

/-- A start line of version 2 is written in full or not at all. -/
theorem mrcpStartLineGenerate_v2 {line line' : StartLine} (hversion : line.version = .v2)
    (h : mrcpStartLineGenerate line ⟨[], size⟩ = (true, line', s)) :
    line' = { line with length := 9 } ∧ s = ⟨startLineText line lengthGap ++ crlf, size⟩ := by
  have hknown : line.Known := by simp [StartLine.Known, hversion]
  obtain ⟨ok, line'', out, hline, htaken, -⟩ := mrcpStartLineGenerate_taken line size
  obtain ⟨rfl, rfl, rfl⟩ : true = ok ∧ line' = line'' ∧ s = ⟨out, size⟩ := by
    simpa using h.symm.trans hline
  by_cases hfits : (startLineText line lengthGap).length + 2 < size
  · rw [mrcpStartLineGenerate_text hknown hfits, if_pos hversion] at hline
    simpa [eq_comm] using hline
  · simp [startLineTaken, hknown, hfits, hversion] at htaken

section

variable {header : MessageHeader} {line : StartLine} {out : Bytes} {kept : List (Bytes × Bytes)}

theorem generatedHeader_eq
    (hvalid : mrcpMessageValidate memory message = (true, { message with header := header }))
    (hstart : mrcpStartLineGenerate message.startLine ⟨[], size⟩ = (true, line, ⟨out, size⟩))
    (hkept : linesKept size out.length (headerLines { message with header := header }) =
      some kept) :
    generatedHeader memory message ⟨[], size⟩ =
      (true, { message with header := header, startLine := line },
        ⟨out ++ (headerText kept ++ crlf), size⟩) := by
  simp only [generatedHeader, hvalid, hstart, eolInsert_kept hkept]

end

section

variable (h : generatedHeader memory message ⟨[], size⟩ = (true, m, s))
include h

/-- A header section in the buffer: the start line, the lines that found room,
and the empty line. -/
theorem generatedHeader_ok :
    ∃ header line out kept, m = { message with header := header, startLine := line } ∧
      mrcpMessageValidate memory message = (true, { message with header := header }) ∧
      mrcpStartLineGenerate message.startLine ⟨[], size⟩ = (true, line, ⟨out, size⟩) ∧
      linesKept size out.length (headerLines { message with header := header }) = some kept ∧
      s = ⟨out ++ (headerText kept ++ crlf), size⟩ ∧ s.out.length < s.size := by
  obtain ⟨header, hkeeps, -⟩ := mrcpMessageValidate_eq memory message
  obtain ⟨ok, line, out, hstart, -, hlt⟩ := mrcpStartLineGenerate_taken message.startLine size
  rcases hvalid : mrcpMessageValidate memory message with ⟨_ | _, valid⟩
  · simp [generatedHeader, hvalid] at h
  obtain rfl : valid = { message with header := header } := by rw [← hkeeps, hvalid]
  cases ok with
  | false => simp [generatedHeader, hvalid, hstart] at h
  | true =>
    cases hkept : linesKept size out.length (headerLines { message with header := header }) with
    | none =>
      obtain ⟨out', hclogged, -⟩ := eolInsert_clogged hkept (hlt.mpr (.inl rfl))
      simp [generatedHeader, hvalid, hstart, hclogged] at h
    | some kept =>
      rw [generatedHeader_eq hvalid hstart hkept] at h
      cases h
      refine ⟨header, line, out, kept, rfl, rfl, hstart, hkept, rfl, ?_⟩
      have hroom := (linesKept_sublist hkept).2
      simp only [List.length_append, crlf, List.length_cons, List.length_nil]
      omega

/-- The length is put in its place, and the buffer still has room. -/
theorem mrcpGeneratorOnHeaderComplete_ok :
    ∃ m' size', mrcpGeneratorOnHeaderComplete m s = (m', ⟨withLength message s.out, size'⟩) ∧
      m'.body = message.body ∧ (withLength message s.out).length < size' ∧
      (withLength message s.out).length + s.size = s.out.length + size' := by
  obtain ⟨header, line, out, kept, rfl, -, hstart, -, rfl, hlt⟩ := generatedHeader_ok h
  have hversion := mrcpStartLineGenerate_version ⟨[], size⟩ message.startLine
  rw [hstart] at hversion
  have hfinal : ∃ ok line' size', mrcpStartLineFinalize line message.body.length
      ⟨out ++ (headerText kept ++ crlf), size⟩ =
        (ok, line', ⟨withLength message (out ++ (headerText kept ++ crlf)), size'⟩) ∧
      (withLength message (out ++ (headerText kept ++ crlf))).length < size' ∧
      (withLength message (out ++ (headerText kept ++ crlf))).length + size =
        (out ++ (headerText kept ++ crlf)).length + size' := by
    by_cases hv2 : message.startLine.version = .v2
    · obtain ⟨rfl, hout⟩ := mrcpStartLineGenerate_v2 hv2 hstart
      obtain ⟨rest, hrest⟩ : ∃ rest, out ++ (headerText kept ++ crlf) =
          versionText .v2 ++ [tokenSp] ++ lengthGap ++ rest :=
        ⟨startLineCore message.startLine ++ (crlf ++ (headerText kept ++ crlf)),
          by simp [(TxStream.mk.inj hout).1, startLineText, hv2]⟩
      rw [hrest] at hlt ⊢
      exact mrcpStartLineFinalize_gap hv2 rfl _ hlt
    · rw [mrcpStartLineFinalize, hversion, withLength, if_neg hv2, if_neg hv2]
      exact ⟨_, _, _, rfl, hlt, rfl⟩
  obtain ⟨ok, line', size', hfinal, hroom⟩ := hfinal
  refine ⟨{ message with header := header, startLine := line' }, size', ?_, rfl, hroom⟩
  rw [mrcpGeneratorOnHeaderComplete, hfinal]

end

/-! ## The loop -/

theorem generatorBodyStage_eq (message : MrcpMessage) {written : Nat} (out : Bytes)
    (hwritten : written < message.body.length) :
    generatorBodyStage (mrcpGeneratorVtable memory) message written ⟨out, size⟩ =
      if message.body.length - written > size - out.length then
        ⟨.incomplete, .body (written + (size - out.length)), message,
          written + (size - out.length),
          ⟨out ++ (message.body.drop written).take (size - out.length), size⟩⟩
      else ⟨.complete, .startLine, message, message.body.length,
        ⟨out ++ message.body.drop written, size⟩⟩ := by
  by_cases hmore : message.body.length - written > size - out.length
  · have hend : TxStream.isEnd
        ⟨out ++ (message.body.drop written).take (size - out.length), size⟩ = true := by
      simp only [TxStream.isEnd, List.length_append, List.length_take, List.length_drop,
        decide_eq_true_eq]
      omega
    simp [generatorBodyStage, mrcpGeneratorVtable, aptMessageBodyWrite, hwritten, hmore,
      TxStream.put, aptMessageGeneratorBreak, hend]
  · simp [generatorBodyStage, mrcpGeneratorVtable, aptMessageBodyWrite, hwritten, hmore,
      TxStream.put]

/-- Once the header section is out, the rest of the body follows buffer by
buffer. -/
theorem sendLoop_body (hsize : 0 < size) (message : MrcpMessage) {fuel written : Nat}
    (hwritten : written < message.body.length) (hfuel : message.body.length - written ≤ fuel) :
    sendLoop memory size fuel (.body written) message =
      some (message, message.body.drop written) := by
  induction fuel generalizing written with
  | zero => omega
  | succ fuel ih =>
    have hrun : mrcpGeneratorRun memory (.body written) message ⟨[], size⟩ =
        generatorBodyStage (mrcpGeneratorVtable memory) message written ⟨[], size⟩ := rfl
    rw [sendLoop, hrun, generatorBodyStage_eq message [] hwritten, List.length_nil, Nat.sub_zero]
    by_cases hmore : message.body.length - written > size
    · rw [if_pos hmore]
      rw [ih (by omega) (by omega)]
      simp [← List.drop_drop]
    · rw [if_neg hmore]
      simp

/-- The first run writes what the buffer holds. -/
theorem mrcpGeneratorRun_header (h : generatedHeader memory message ⟨[], size⟩ = (true, m, s)) :
    let head := withLength message s.out
    ∃ m' size', m'.body = message.body ∧ head.length < size' ∧
      head.length + s.size = s.out.length + size' ∧
      mrcpGeneratorRun memory .startLine message ⟨[], size⟩ =
        if message.body.length > size' - head.length then
          ⟨.incomplete, .body (size' - head.length), m', size' - head.length,
            ⟨head ++ message.body.take (size' - head.length), size'⟩⟩
        else ⟨.complete, .startLine, m', message.body.length,
          ⟨head ++ message.body, size'⟩⟩ := by
  obtain ⟨m', size', hcomplete, hbody, hlt, hroom⟩ := mrcpGeneratorOnHeaderComplete_ok h
  refine ⟨m', size', hbody, hlt, hroom, ?_⟩
  rw [mrcpGeneratorRun_eq, h]
  dsimp only
  rw [hcomplete]
  rw [hbody]
  by_cases hempty : message.body = []
  · simp [hempty]
  · have hpos : 0 < m'.body.length := by
      rw [hbody]
      exact List.length_pos_iff.mpr hempty
    rw [if_neg (by simpa using hempty), generatorBodyStage_eq m' _ hpos, hbody]
    simp

/-- A message whose header section is out is sent to its end. -/
theorem sendLoop_header (hsize : 0 < size)
    (h : generatedHeader memory message ⟨[], size⟩ = (true, m, s)) :
    ∃ m', m'.body = message.body ∧
      sendLoop memory size (message.body.length + 1) .startLine message =
        some (m', withLength message s.out ++ message.body) := by
  obtain ⟨m', size', hbody, hlt, -, hrun⟩ := mrcpGeneratorRun_header h
  refine ⟨m', hbody, ?_⟩
  have hrestored : { m' with body := m'.body.take message.body.length } = m' := by
    rw [← hbody, List.take_length]
  rw [sendLoop, hrun]
  by_cases hmore : message.body.length > size' - (withLength message s.out).length
  · rw [if_pos hmore]
    rw [sendLoop_body hsize m' (by rw [hbody]; exact hmore) (by rw [hbody]; omega), hbody]
    simp
  · rw [if_neg hmore]
    simp only [hrestored]

end UniMrcp.Transport
