import UniMrcp.Apt.HeaderText
import UniMrcp.Mrcp.StartLineFields

/-!
# Start lines as text

The text of a start line, with the text of the length of a version 2 message
as a parameter.

* `mrcpStartLineGenerate_text`: the generator writes the text with a gap of
  spaces for the length, if it fits the buffer;
* `mrcpStartLineGenerate_taken`: whether it writes a line, and how many bytes
  this takes, is told by the lengths of the fields;
* `mrcpStartLineFinalize_text`: the length is put in the gap and the gap is
  closed, unless the length has more than six digits.

`UniMrcp.Mrcp.StartLineRoundTrip` reads the text back.
-/

namespace UniMrcp.Mrcp

open UniMrcp.Lib UniMrcp.Apt

/-- `MRCP/1.0` or `MRCP/2.0` -/
def versionText (version : MrcpVersion) : Bytes :=
  mrcpName ++ [47] ++ decimal version.number ++ [46, 48]

/-- The name of a request state. -/
def stateText (state : RequestState) : Bytes :=
  (aptStringTableStrGet mrcpRequestStateStringTable state.id).getD []

/-- The fields of a start line that both versions have. -/
def startLineCore (line : StartLine) : Bytes :=
  match line.messageType with
  | .response => requestIdText line.requestId ++ [tokenSp] ++ decimal line.statusCode.toNat ++
      [tokenSp] ++ stateText line.requestState
  | .event => line.methodName ++ [tokenSp] ++ requestIdText line.requestId ++ [tokenSp] ++
      stateText line.requestState
  | _ => line.methodName ++ [tokenSp] ++ requestIdText line.requestId

/-- The status code of a request of version 1, if it has one. -/
def statusField (line : StartLine) : Bytes :=
  if line.messageType = .request ∧ line.statusCode ≠ statusCodeUnknown then
    decimal line.statusCode.toNat ++ [tokenSp]
  else []

/-- A start line; `gap` is what stands between the version and the rest in
version 2. -/
def startLineText (line : StartLine) (gap : Bytes) : Bytes :=
  match line.version with
  | .v2 => versionText .v2 ++ [tokenSp] ++ gap ++ startLineCore line
  | version =>
    if line.messageType = .response then versionText version ++ [tokenSp] ++ startLineCore line
    else startLineCore line ++ [tokenSp] ++ statusField line ++ versionText version

/-- The spaces the generator writes before it knows the length. -/
def lengthGap : Bytes := List.replicate (maxDigitCount + 1) tokenSp

/-- A method name: capital letters and hyphens, a letter first, and nothing
that could be taken for the version. -/
def isMethodToken (name : Bytes) : Bool :=
  name.head?.any (fun c => 65 ≤ c && c ≤ 90) &&
    name.all (fun c => (65 ≤ c && c ≤ 90) || c == 45) &&
    name.length ≤ 40 && !mrcpName.isPrefixOf name

/-- A start line that has what its kind needs, and nothing its text would not
carry. -/
structure WireStartLine (line : StartLine) : Prop where
  version_ne : line.version ≠ .unknown
  type_ne : line.messageType ≠ .unknown
  method : line.messageType ≠ .response → isMethodToken line.methodName = true
  status : line.messageType ≠ .response → line.statusCode = statusCodeUnknown
  state_iff : line.requestState = .unknown ↔ line.messageType = .request

/-! ## Lengths -/

theorem length_statusText_le (statusCode : UInt32) :
    (decimal statusCode.toNat).length ≤ 10 := by
  have h := statusCode.toNat_lt
  exact (length_decimal_le_iff (by decide)).mpr (by omega)

theorem length_stateText_le (state : RequestState) : (stateText state).length ≤ 11 := by
  cases state <;> decide

theorem length_versionText (version : MrcpVersion) : (versionText version).length = 8 := by
  cases version <;> rfl

theorem isMethodToken_length {name : Bytes} (h : isMethodToken name = true) :
    name.length ≤ 40 := by
  simp only [isMethodToken, Bool.and_eq_true, decide_eq_true_eq] at h
  exact h.1.2

variable {line : StartLine} {size : Nat}

theorem WireStartLine.length_core_le (h : WireStartLine line) :
    (startLineCore line).length ≤ 64 := by
  have hid := length_requestIdText_le line.requestId
  have hstatus := length_statusText_le line.statusCode
  have hstate := length_stateText_le line.requestState
  have hmethod : line.messageType ≠ .response → line.methodName.length ≤ 40 :=
    fun hne => isMethodToken_length (h.method hne)
  unfold startLineCore
  cases hm : line.messageType with
  | response =>
    simp only [List.length_append, List.length_singleton]
    omega
  | event | request | unknown =>
    have := hmethod (by rw [hm]; decide)
    simp only [List.length_append, List.length_singleton]
    omega

theorem WireStartLine.statusField_eq (h : WireStartLine line) : statusField line = [] := by
  rw [statusField, if_neg]
  rintro ⟨hm, hstatus⟩
  exact hstatus (h.status (by rw [hm]; decide))

theorem WireStartLine.length_text_le (h : WireStartLine line) :
    (startLineText line lengthGap).length ≤ 80 := by
  have hcore := h.length_core_le
  have hstatus := h.statusField_eq
  have hgap : lengthGap.length = 7 := rfl
  unfold startLineText
  split
  · simp only [List.length_append, List.length_singleton, length_versionText]
    omega
  · split
    · simp only [List.length_append, List.length_singleton, length_versionText]
      omega
    · simp only [hstatus, List.length_append, List.length_singleton, List.length_nil,
        length_versionText]
      omega

/-! ## Generation -/

/-- `f` appends `text` to a stream that has the room for it. -/
def Writes (f : TxStream → TxStream) (text : Bytes) : Prop :=
  ∀ s : TxStream, s.out.length + text.length < s.size → f s = s.put text

theorem put_length (s : TxStream) (bytes : Bytes) :
    (s.put bytes).out.length = s.out.length + bytes.length :=
  List.length_append

theorem put_size (s : TxStream) (bytes : Bytes) : (s.put bytes).size = s.size := rfl

theorem Writes.comp {f g : TxStream → TxStream} {a b : Bytes} (hf : Writes f a)
    (hg : Writes g b) : Writes (fun s => g (f s)) (a ++ b) := by
  intro s h
  rw [List.length_append] at h
  show g (f s) = _
  rw [hf s (by omega), hg _ (by rw [put_length, put_size]; omega)]
  simp [TxStream.put]

theorem writes_put (bytes : Bytes) : Writes (·.put bytes) bytes := fun _ _ => rfl

theorem writes_printf {bytes : Bytes} (hne : bytes ≠ []) :
    Writes (fun s => (s.printf bytes).2) bytes := by
  intro s h
  have htake : bytes.take (s.size - s.out.length - 1) = bytes :=
    List.take_of_length_le (by omega)
  simp [TxStream.printf, htake, hne]

/-- A version is written in full, in part or not at all. -/
theorem mrcpVersionGenerate_eq (version : MrcpVersion) (s : TxStream) :
    mrcpVersionGenerate version s =
      if s.out.length + 8 < s.size then (true, s.put (versionText version))
      else if s.out.length + 6 < s.size then
        (false, s.put (mrcpName ++ [47] ++ decimal version.number))
      else if s.out.length + 5 < s.size then (false, s.put (mrcpName ++ [47]))
      else (false, s) := by
  obtain ⟨d, hd⟩ : ∃ d, decimal version.number = [d] := by cases version <;> exact ⟨_, rfl⟩
  have hname : mrcpName.length = 4 := rfl
  have htake : [d].take (s.size - (s.out.length + 5) - 1) =
      if s.out.length + 6 < s.size then [d] else [] := by
    split
    · exact List.take_of_length_le (by simp; omega)
    · rw [show s.size - (s.out.length + 5) - 1 = 0 by omega, List.take_zero]
  simp only [mrcpVersionGenerate, aptTextSizeValueInsert, TxStream.printf, TxStream.hasRoom,
    TxStream.put, hname, hd, List.length_append, List.length_singleton, versionText, htake]
  by_cases h6 : s.out.length + 6 < s.size
  · have h5 : s.out.length + 5 < s.size := by omega
    by_cases h8 : s.out.length + 8 < s.size <;> simp [h6, h8, h5, hname, Nat.add_assoc]
  · have h8 : ¬ s.out.length + 8 < s.size := by omega
    by_cases h5 : s.out.length + 5 < s.size <;> simp [h6, h8, h5]

theorem writes_version (version : MrcpVersion) :
    Writes (fun s => (mrcpVersionGenerate version s).2) (versionText version) := by
  intro s h
  rw [length_versionText] at h
  simp only [mrcpVersionGenerate_eq, if_pos h]

theorem writes_requestId (requestId : UInt32) :
    Writes (fun s => (mrcpRequestIdGenerate requestId s).2) (requestIdText requestId) :=
  writes_printf (decimalInt_ne_nil _)

theorem writes_statusCode (statusCode : UInt32) :
    Writes (fun s => (mrcpStatusCodeGenerate statusCode s).2) (decimal statusCode.toNat) :=
  writes_printf (decimal_ne_nil _)

theorem state_eq (s : TxStream) (state : RequestState) :
    mrcpRequestStateGenerate state s = s.put (stateText state) := by
  unfold mrcpRequestStateGenerate stateText
  cases aptStringTableStrGet mrcpRequestStateStringTable state.id with
  | none => simp [TxStream.put]
  | some name => rfl

/-- The two kinds of line that start with a method, in version 1. -/
theorem writes_requestLine
    (htype : line.messageType = .request ∨ line.messageType = .event) :
    Writes (mrcpRequestLineGenerate line)
      (startLineCore line ++ [tokenSp] ++ statusField line ++ versionText line.version) := by
  have hhead := (((writes_put line.methodName).comp (writes_put [tokenSp])).comp
    (writes_requestId line.requestId)).comp (writes_put [tokenSp])
  have hversion := writes_version line.version
  unfold mrcpRequestLineGenerate startLineCore statusField
  rcases htype with hm | hm
  · by_cases hstatus : line.statusCode = statusCodeUnknown
    · simpa [hm, hstatus] using hhead.comp hversion
    · simpa [hm, hstatus] using
        ((hhead.comp (writes_statusCode _)).comp (writes_put [tokenSp])).comp hversion
  · simpa [hm, state_eq] using
      ((hhead.comp (writes_put _)).comp (writes_put [tokenSp])).comp hversion

/-- What a response has behind the version, in both versions. -/
theorem writes_response (line : StartLine) : Writes (fun s =>
    mrcpRequestStateGenerate line.requestState ((mrcpStatusCodeGenerate line.statusCode
      ((mrcpRequestIdGenerate line.requestId s).2.put [tokenSp])).2.put [tokenSp]))
    (requestIdText line.requestId ++ [tokenSp] ++ decimal line.statusCode.toNat ++ [tokenSp] ++
      stateText line.requestState) := by
  simpa [state_eq] using ((((writes_requestId line.requestId).comp (writes_put [tokenSp])).comp
    (writes_statusCode line.statusCode)).comp (writes_put [tokenSp])).comp (writes_put _)

theorem writes_responseLine (htype : line.messageType = .response) :
    Writes (mrcpResponseLineGenerate line)
      (versionText line.version ++ [tokenSp] ++ startLineCore line) := by
  unfold mrcpResponseLineGenerate startLineCore
  rw [htype]
  exact ((writes_version line.version).comp (writes_put [tokenSp])).comp (writes_response line)

theorem writes_v2StartLine (hversion : line.version = .v2) :
    Writes (fun s => (mrcpV2StartLineGenerate line s).2) (startLineText line lengthGap) := by
  have hhead := ((writes_version .v2).comp (writes_put [tokenSp])).comp (writes_put lengthGap)
  have hmethod := (hhead.comp (writes_put line.methodName)).comp (writes_put [tokenSp])
  have hid := hmethod.comp (writes_requestId line.requestId)
  unfold mrcpV2StartLineGenerate startLineText startLineCore
  cases hm : line.messageType with
  | response => simpa [hm, hversion, lengthGap] using hhead.comp (writes_response line)
  | request | unknown => simpa [hm, hversion, lengthGap] using hid
  | event =>
    simpa [hm, hversion, state_eq, lengthGap] using
      (hid.comp (writes_put [tokenSp])).comp (writes_put _)

theorem mrcpV2StartLineGenerate_line (hversion : line.version = .v2) (hsize : 8 < size) :
    (mrcpV2StartLineGenerate line ⟨[], size⟩).1 = { line with length := 9 } := by
  simp [mrcpV2StartLineGenerate, hversion, mrcpVersionGenerate_eq, hsize, TxStream.put,
    length_versionText]

/-- A start line that the generator does not refuse. -/
def StartLine.Known (line : StartLine) : Prop :=
  line.version ≠ .unknown ∧ (line.version = .v1 → line.messageType ≠ .unknown)

instance (line : StartLine) : Decidable line.Known := inferInstanceAs (Decidable (_ ∧ (_ → _)))

/-- What the generator makes of a start line: the text, and in version 2 the
offset of the gap. -/
theorem mrcpStartLineGenerate_text (hknown : line.Known)
    (hfits : (startLineText line lengthGap).length + 2 < size) :
    mrcpStartLineGenerate line ⟨[], size⟩ =
      (true, if line.version = .v2 then { line with length := 9 } else line,
        ⟨startLineText line lengthGap ++ crlf, size⟩) := by
  have heol : aptTextEolInsert ⟨startLineText line lengthGap, size⟩ =
      (true, ⟨startLineText line lengthGap ++ crlf, size⟩) := by
    rw [aptTextEolInsert_eq, if_pos hfits]
  have hwrites {f : TxStream → TxStream} (h : Writes f (startLineText line lengthGap)) :
      f ⟨[], size⟩ = ⟨startLineText line lengthGap, size⟩ :=
    h _ (by simpa using Nat.lt_of_add_right_lt hfits)
  unfold mrcpStartLineGenerate
  cases hversion : line.version with
  | unknown => exact absurd hversion hknown.1
  | v2 =>
    have hsize : 8 < size := by
      simp only [startLineText, hversion, List.length_append, length_versionText] at hfits
      omega
    simp only [hwrites (writes_v2StartLine hversion), heol,
      mrcpV2StartLineGenerate_line hversion hsize, hversion, if_true]
  | v1 =>
    cases hm : line.messageType with
    | unknown => exact absurd hm (hknown.2 hversion)
    | response =>
      have htext := writes_responseLine hm
      rw [show _ ++ _ = startLineText line lengthGap by simp [startLineText, hversion, hm]] at htext
      simp only [hwrites htext, heol]
      rfl
    | request | event =>
      have htext : Writes (mrcpRequestLineGenerate line) _ := writes_requestLine (by simp [hm])
      rw [show _ ++ _ = startLineText line lengthGap by simp [startLineText, hversion, hm]] at htext
      simp only [hwrites htext, heol]
      rfl

/-! ## Buffers that are too small -/

/-- The bytes that a start line takes in a buffer of `size` bytes, with its end.
The generator does not look whether the version at the end of a request has
found room. -/
def startLineTaken (line : StartLine) (size : Nat) : Option Nat :=
  let length := (startLineText line lengthGap).length
  if ¬ line.Known then none
  else if length + 2 < size then some (length + 2)
  else if line.version = .v1 ∧ line.messageType ≠ .response ∧ size + 3 ≤ length ∧
      length ≤ size + 5 then some (length - 6)
  else none

/-- The bytes of a start line up to the last one that is written without a look
at the room. -/
def forcedLength (line : StartLine) : Nat :=
  let length := (startLineText line lengthGap).length
  match line.version, line.messageType with
  | .v1, .response | .v2, .response | .v2, .event => length
  | .v2, _ => length - (requestIdText line.requestId).length
  | .v1, .request | .v1, .event => length - 8
  | _, _ => 0

section Short

variable (s : TxStream)

theorem printf_size (bytes : Bytes) : (s.printf bytes).2.size = s.size := by
  unfold TxStream.printf
  dsimp only
  split <;> rfl

theorem printf_length (bytes : Bytes) : (s.printf bytes).2.out.length =
    s.out.length + min (s.size - s.out.length - 1) bytes.length := by
  have htake := List.length_take (l := bytes) (i := s.size - s.out.length - 1)
  unfold TxStream.printf
  dsimp only
  split
  · next hempty =>
    rw [← htake, List.isEmpty_iff.mp hempty]
    rfl
  · rw [put_length, htake]

theorem version_size (version : MrcpVersion) : (mrcpVersionGenerate version s).2.size = s.size := by
  rw [mrcpVersionGenerate_eq]
  split_ifs <;> rfl

theorem version_length (version : MrcpVersion) : ∃ n,
    (mrcpVersionGenerate version s).2.out.length = s.out.length + n ∧
      (s.out.length + 8 < s.size ∧ n = 8 ∨
        s.size ≤ s.out.length + 8 ∧ s.out.length + 6 < s.size ∧ n = 6 ∨
        s.size = s.out.length + 6 ∧ n = 5 ∨ s.size ≤ s.out.length + 5 ∧ n = 0) := by
  have hdigit : (decimal version.number).length = 1 := by cases version <;> rfl
  have hname : mrcpName.length = 4 := rfl
  rw [mrcpVersionGenerate_eq]
  split_ifs
  · exact ⟨8, by simp [put_length, length_versionText], by omega⟩
  · exact ⟨6, by simp [put_length, hdigit, hname], by omega⟩
  · exact ⟨5, by simp [put_length, hname], by omega⟩
  · exact ⟨0, rfl, by omega⟩

end Short

/-- `n` bytes are in a buffer that the line does not fit, before its end. -/
structure Cut (line : StartLine) (size n : Nat) : Prop where
  ended : n + 2 < size ↔ line.version = .v1 ∧ line.messageType ≠ .response ∧
    size + 3 ≤ (startLineText line lengthGap).length ∧
      (startLineText line lengthGap).length ≤ size + 5
  taken : n + 2 < size → n + 8 = (startLineText line lengthGap).length
  forced : n < size ↔ forcedLength line < size

theorem startLine_cut (hknown : line.Known)
    (hshort : size ≤ (startLineText line lengthGap).length + 2) :
    ∃ line' s, mrcpStartLineGenerate line ⟨[], size⟩ =
        ((aptTextEolInsert s).1, line', (aptTextEolInsert s).2) ∧
      s.size = size ∧ Cut line size s.out.length := by
  have hid : 0 < (requestIdText line.requestId).length :=
    List.length_pos_iff.mpr (decimalInt_ne_nil _)
  have hstatus : 0 < (decimal line.statusCode.toNat).length :=
    List.length_pos_iff.mpr (decimal_ne_nil _)
  have hgap : lengthGap.length = 7 := rfl
  unfold mrcpStartLineGenerate
  cases hversion : line.version with
  | unknown => exact absurd hversion hknown.1
  | v2 =>
    obtain ⟨n, hn, hcases⟩ := version_length ⟨[], size⟩ .v2
    have hgap' : (List.replicate (maxDigitCount + 1) tokenSp).length = 7 := rfl
    refine ⟨_, _, rfl, ?_⟩
    simp only [startLineText, hversion, List.length_append, List.length_singleton, hgap,
      length_versionText] at hshort
    unfold startLineCore at hshort
    cases hm : line.messageType with
    | response | event | request | unknown =>
      simp only [hm, List.length_append, List.length_singleton, List.length_nil] at hshort hcases
      refine ⟨?_, ?_, ?_, ?_⟩ <;> simp only [mrcpV2StartLineGenerate, mrcpRequestIdGenerate,
        mrcpStatusCodeGenerate, aptTextSizeValueInsert, state_eq, put_size, printf_size,
        version_size, put_length, printf_length, hn, hm, hversion, forcedLength, startLineText,
        startLineCore, List.length_append, List.length_singleton, List.length_nil, hgap, hgap',
        length_versionText, if_true, if_false, reduceCtorEq, false_and, iff_false] <;> omega
  | v1 =>
    cases hm : line.messageType with
    | unknown => exact absurd hm (hknown.2 hversion)
    | response =>
      obtain ⟨n, hn, hcases⟩ := version_length ⟨[], size⟩ .v1
      simp only [startLineText, hversion, startLineCore, hm, if_true, List.length_append,
        List.length_singleton, List.length_nil, length_versionText] at hshort hcases
      refine ⟨_, _, rfl, ?_, ?_, ?_, ?_⟩ <;> simp only [mrcpResponseLineGenerate,
        mrcpRequestIdGenerate, mrcpStatusCodeGenerate, aptTextSizeValueInsert, state_eq, put_size,
        printf_size, version_size, put_length, printf_length, hn, hm, hversion, forcedLength,
        startLineText, startLineCore, List.length_append, List.length_singleton, List.length_nil,
        length_versionText, if_true, ne_eq, not_true_eq_false, false_and, and_false,
        iff_false] <;> omega
    | request | event =>
      have hline : ∃ s, mrcpRequestLineGenerate line ⟨[], size⟩ =
          (mrcpVersionGenerate line.version s).2 ∧ s.size = size ∧
          (s.out.length + 8 = (startLineText line lengthGap).length ∨ size ≤ s.out.length ∧
            size + 8 ≤ (startLineText line lengthGap).length) := by
        refine ⟨_, rfl, ?_⟩
        by_cases hcode : line.statusCode = statusCodeUnknown <;>
          simp [mrcpRequestIdGenerate, mrcpStatusCodeGenerate, aptTextSizeValueInsert, state_eq,
            put_size, printf_size, put_length, printf_length, hm, hversion, startLineText,
            startLineCore, statusField, length_versionText, hcode] <;> omega
      obtain ⟨s, hs, hsize, hlength⟩ := hline
      obtain ⟨n, hn, hcases⟩ := version_length s .v1
      rw [hsize] at hcases
      rw [hversion] at hs
      refine ⟨_, _, rfl, ?_, ?_, ?_, ?_⟩ <;>
        simp only [hs, hn, version_size, hsize, hm, hversion, forcedLength, ne_eq, reduceCtorEq,
          not_false_eq_true, true_and] <;> omega

/-- The generator writes a start line, or stops before the buffer is full or
behind its end, as the lengths tell. -/
theorem mrcpStartLineGenerate_taken (line : StartLine) (size : Nat) :
    ∃ ok line' out, mrcpStartLineGenerate line ⟨[], size⟩ = (ok, line', ⟨out, size⟩) ∧
      startLineTaken line size = (if ok then some out.length else none) ∧
      (out.length < size ↔ ok = true ∨ forcedLength line < size) := by
  unfold startLineTaken
  by_cases hknown : line.Known
  · rw [if_neg (not_not.mpr hknown)]
    by_cases hfits : (startLineText line lengthGap).length + 2 < size
    · refine ⟨_, _, _, mrcpStartLineGenerate_text hknown hfits, ?_, ?_⟩ <;> simp [hfits, crlf]
    · obtain ⟨line', ⟨out, size'⟩, hline, rfl, hcut⟩ := startLine_cut hknown (Nat.not_lt.mp hfits)
      rw [hline, aptTextEolInsert_eq, if_neg hfits]
      by_cases hended : out.length + 2 < size'
      · have htaken := hcut.taken hended
        refine ⟨true, line', out ++ crlf, by rw [if_pos hended], ?_, by simp [crlf, hended]⟩
        rw [if_pos (hcut.ended.mp hended), ← htaken]
        simp [crlf]
      · refine ⟨false, line', out, by rw [if_neg hended], ?_, by simpa using hcut.forced⟩
        rw [if_neg (fun h => hended (hcut.ended.mpr h))]
        rfl
  · have hunknown : line.version = .unknown ∨ line.version = .v1 ∧ line.messageType = .unknown := by
      unfold StartLine.Known at hknown
      tauto
    refine ⟨false, line, [], ?_, ?_, ?_⟩
    · rcases hunknown with hversion | ⟨hversion, hm⟩ <;> simp [mrcpStartLineGenerate, *]
    · simp [hknown]
    · rcases hunknown with hversion | ⟨hversion, hm⟩ <;> simp [forcedLength, *]

/-! ## The length of the message -/

theorem length_decimal_div {n : Nat} (h : 10 ≤ n) :
    (decimal n).length = (decimal (n / 10)).length + 1 := by
  have hpos := List.length_pos_iff.mpr (decimal_ne_nil (n / 10))
  have hone := length_decimal_le_iff (n := n) Nat.one_pos
  refine eq_of_forall_ge_iff fun k => ?_
  match k with
  | 0 | 1 => omega
  | k + 2 =>
    rw [length_decimal_le_iff (by omega), Nat.succ_le_succ_iff, length_decimal_le_iff (by omega),
      Nat.div_lt_iff_lt_mul (by decide), ← Nat.pow_succ]

/-- The loop counts the digits. -/
theorem digitCountLoop_eq {fuel n : Nat} (hfuel : n < fuel) (count : Nat) :
    digitCountLoop fuel n count = count + (decimal n).length := by
  induction fuel generalizing n count with
  | zero => omega
  | succ fuel ih =>
    unfold digitCountLoop
    split
    · have h1 : (decimal n).length ≤ 1 := (length_decimal_le_iff (by decide)).mpr (by omega)
      have h2 := List.length_pos_iff.mpr (decimal_ne_nil n)
      omega
    · rw [ih (by omega), length_decimal_div (n := n) (by omega)]
      omega

/-- The number of digits of the number that is `n` and its own number of
digits. -/
def selfCount (n : Nat) : Nat :=
  if n ≥ 10 ^ (decimal n).length - (decimal n).length then (decimal n).length + 1
  else (decimal n).length

theorem selfCount_le_iff_lt {n c : Nat} (hc : 0 < c) : selfCount n ≤ c ↔ n + c < 10 ^ c := by
  have hlt := (length_decimal_le_iff (List.length_pos_iff.mpr (decimal_ne_nil n))).mp le_rfl
  have hle := length_decimal_le_iff (n := n) hc
  unfold selfCount
  generalize (decimal n).length = d at hlt hle ⊢
  have hself : d < 10 ^ d := Nat.lt_pow_self (by decide)
  rcases Nat.lt_trichotomy c d with h | rfl | h
  · split <;> omega
  · split <;> omega
  · obtain ⟨k, rfl⟩ := Nat.exists_eq_add_of_lt h
    have hk : d + k < 10 ^ (d + k) := Nat.lt_pow_self (by decide)
    have hpow : 10 ^ d ≤ 10 ^ (d + k) := Nat.pow_le_pow_right (by decide) (Nat.le_add_right d k)
    rw [Nat.pow_succ]
    split <;> omega

theorem length_decimal_selfCount (n : Nat) :
    (decimal (n + selfCount n)).length = selfCount n := by
  have hpos : selfCount n ≠ 0 := by
    unfold selfCount
    split <;> simp [decimal_ne_nil]
  refine eq_of_forall_ge_iff fun k => ?_
  rcases Nat.eq_zero_or_pos k with rfl | hk
  · simp [decimal_ne_nil, hpos]
  · have hcount := selfCount_le_iff_lt (n := n) hk
    rw [length_decimal_le_iff hk]
    omega

theorem aptVarLengthValueGenerate_eq (n maxCount : Nat) :
    aptVarLengthValueGenerate n maxCount = (n + selfCount n,
      if selfCount n > maxCount then none else some (decimal (n + selfCount n))) := by
  have hcount := digitCountLoop_eq (Nat.lt_succ_self n) 0
  rw [Nat.zero_add] at hcount
  simp only [aptVarLengthValueGenerate, hcount]
  rfl

/-- No smaller number of digits does. -/
theorem selfCount_le_of_eq {n m : Nat} (h : m = n + (decimal m).length) :
    selfCount n ≤ (decimal m).length := by
  have hpos := List.length_pos_iff.mpr (decimal_ne_nil m)
  have hlt := (length_decimal_le_iff hpos).mp (Nat.le_refl _)
  exact (selfCount_le_iff_lt hpos).mpr (by omega)

/-- The value that is generated counts its own digits, and it is generated if
there is one with so many digits. -/
theorem self_inclusive_length (value maxCount : Nat) :
    (∀ v text, aptVarLengthValueGenerate value maxCount = (v, some text) →
      v = value + (decimal v).length ∧ text = decimal v) ∧
    ((∃ v, v = value + (decimal v).length ∧ (decimal v).length ≤ maxCount) →
      (aptVarLengthValueGenerate value maxCount).2.isSome = true) := by
  rw [aptVarLengthValueGenerate_eq]
  refine ⟨fun v text heq => ?_, fun ⟨v, hv, hmax⟩ => ?_⟩
  · simp only [Prod.mk.injEq, Option.ite_none_left_eq_some, Option.some.injEq] at heq
    obtain ⟨rfl, -, rfl⟩ := heq
    rw [length_decimal_selfCount]
    exact ⟨rfl, rfl⟩
  · have hfits : ¬ selfCount value > maxCount :=
      Nat.not_lt.mpr ((selfCount_le_of_eq hv).trans hmax)
    simp only [if_neg hfits, Option.isSome_some]

/-- Six digits are enough below 999994. -/
theorem selfCount_le_iff (n : Nat) : selfCount n ≤ maxDigitCount ↔ n < 999994 := by
  rw [selfCount_le_iff_lt (by decide), maxDigitCount]
  omega

/-- The length goes to the front of the gap, and what stands before the gap
moves up to it. -/
theorem finalize_gap (digits rest : Bytes) (size : Nat) (h : digits.length ≤ 6) :
    let stream := TxStream.overwrite ⟨versionText .v2 ++ [tokenSp] ++ lengthGap ++ rest, size⟩ 9
      (digits ++ [tokenSp])
    let moved := maxDigitCount - digits.length
    (if moved = 0 then stream
      else (stream.overwrite moved (stream.out.take (9 + digits.length))).skip moved) =
    ⟨versionText .v2 ++ [tokenSp] ++ (digits ++ [tokenSp]) ++ rest,
      size - (maxDigitCount - digits.length)⟩ := by
  match digits, h with
  | [], _ => rfl
  | [_], _ => rfl
  | [_, _], _ => rfl
  | [_, _, _], _ => rfl
  | [_, _, _, _], _ => rfl
  | [_, _, _, _, _], _ => rfl
  | [_, _, _, _, _, _], _ => rfl

/-- `mrcp_start_line_finalize` of a version 2 message: `n` is the length of
the message without its length. -/
theorem mrcpStartLineFinalize_text (hversion : line.version = .v2) (hlength : line.length = 9)
    (rest : Bytes) (size contentLength : Nat) :
    mrcpStartLineFinalize line contentLength
        ⟨versionText .v2 ++ [tokenSp] ++ lengthGap ++ rest, size⟩ =
      (let n := 10 + rest.length + contentLength
       if n < 999994 then
        (true, { line with length := n + selfCount n },
          ⟨versionText .v2 ++ [tokenSp] ++ (decimal (n + selfCount n) ++ [tokenSp]) ++ rest,
            size - (maxDigitCount - selfCount n)⟩)
       else (false, line, ⟨versionText .v2 ++ [tokenSp] ++ lengthGap ++ rest, size⟩)) := by
  have hlen : (versionText .v2 ++ [tokenSp] ++ lengthGap ++ rest).length + contentLength -
      maxDigitCount = 10 + rest.length + contentLength := by
    have h16 : (versionText .v2 ++ [tokenSp] ++ lengthGap).length = 16 := rfl
    rw [List.length_append, maxDigitCount]
    omega
  generalize hn : 10 + rest.length + contentLength = n at hlen
  have hcount := length_decimal_selfCount n
  simp only [mrcpStartLineFinalize, hversion, hlen, aptVarLengthValueGenerate_eq,
    hlength]
  by_cases hfits : n < 999994
  · have hle := (selfCount_le_iff n).mpr hfits
    have hgap := finalize_gap (decimal (n + selfCount n)) rest size (by rw [hcount]; exact hle)
    rw [hcount] at hgap
    simp only [hfits, if_true, if_neg (Nat.not_lt.mpr hle), hcount]
    rw [hgap]
  · have hgt : maxDigitCount < selfCount n :=
      Nat.lt_of_not_le (fun hle => hfits ((selfCount_le_iff n).mp hle))
    simp [hfits, hgt]

end UniMrcp.Mrcp
