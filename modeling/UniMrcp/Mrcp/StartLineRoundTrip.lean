import UniMrcp.Mrcp.StartLineText

/-!
# Start lines read back

* `mrcpStartLineParse_text`: the parser reads the text of a start line back;
* `mrcpStartLineParse_gap`: it rejects a version 2 text whose gap was left.
-/

namespace UniMrcp.Mrcp

open UniMrcp.Lib UniMrcp.Apt

/-! ## Fields of the text -/

/-- The next field of a stream, with spaces before it and one space or
nothing behind it. -/
theorem fieldRead_text {s : TextStream} (gap field tail : Bytes)
    (hrest : s.rest = gap ++ (field ++ tail)) (hgap : ∀ c ∈ gap, c = tokenSp)
    (hne : field ≠ []) (hfield : ∀ c ∈ field, c ≠ tokenSp)
    (htail : ∀ c ∈ tail.head?, c = tokenSp) :
    ∃ s', fieldRead s = some (⟨field, tail ++ s.beyond⟩, s') ∧ s'.rest = tail.drop 1 ∧
      s'.beyond = s.beyond := by
  obtain ⟨c, cs, rfl⟩ := List.exists_cons_of_ne_nil hne
  have hskip : skipSpaces s.rest = c :: cs ++ tail := by
    have hc : (c == tokenSp) = false := by simpa using hfield c (by simp)
    rw [skipSpaces, hrest, List.dropWhile_append_of_pos (by simpa using hgap)]
    simp [hc]
  have hin : ∀ b ∈ c :: cs, (b != tokenSp) = true := fun b hb => by simpa using hfield b hb
  have hout : ∀ b ∈ tail.head?, (b != tokenSp) = false := fun b hb => by simp [htail b hb]
  have hfirst : firstField s.rest = c :: cs := by
    rw [firstField, hskip, takeWhile_append_of_stop hin hout]
  have hdrop : (skipSpaces s.rest).dropWhile (· != tokenSp) = tail := by
    rw [hskip, List.dropWhile_append_of_pos hin]
    cases tail with
    | nil => rfl
    | cons b t => simp [hout b (by simp)]
  have hsome : skipSpaces s.rest ≠ [] := by rw [hskip]; simp
  obtain ⟨s', hread, hs', hbeyond⟩ := fieldRead_some hsome
  refine ⟨s', ?_, ?_, hbeyond⟩
  · rw [hread, fieldOf, hfirst, hdrop]
  · rw [hs', behindField, hdrop]

theorem toInt_emod (requestId : UInt32) :
    (requestId.toInt32.toInt % 2 ^ 32).toNat = requestId.toNat := by
  have h : requestId.toInt32.toInt = (requestId.toNat : Int).bmod (2 ^ 32) :=
    BitVec.toInt_eq_toNat_bmod _
  have hlt := requestId.toNat_lt
  have hpow : (2 : Int) ^ 32 = ((2 ^ 32 : Nat) : Int) := by norm_cast
  rw [h, hpow, Int.bmod_emod]
  omega

/-- A request-id reads back. -/
theorem mrcpRequestIdParse_requestIdText (requestId : UInt32) {t : Bytes}
    (ht : ∀ b ∈ t.head?, isDigit b = false) :
    mrcpRequestIdParse (requestIdText requestId ++ t) = requestId := by
  have h1 := requestId.toInt32.minValue_le_toInt
  have h2 := requestId.toInt32.toInt_le
  have hmin : Int32.minValue.toInt = -2 ^ 31 := by decide
  have hmax : Int32.maxValue.toInt = 2 ^ 31 - 1 := by decide
  rw [mrcpRequestIdParse, requestIdText, strtol_decimalInt_append (by omega) (by omega) ht,
    toInt_emod]
  exact UInt32.ofNat_toNat

theorem aptSizeValueParse_decimal {n : Nat} (hn : n < 2 ^ 63) {t : Bytes}
    (ht : ∀ b ∈ t.head?, isDigit b = false) : aptSizeValueParse (decimal n ++ t) = n := by
  rw [aptSizeValueParse, strtol_decimal_append hn ht]
  omega

variable {state : RequestState} {name : Bytes} {line : StartLine}

theorem mrcpRequestStateParse_stateText (h : state ≠ .unknown) (beyond : Bytes) :
    mrcpRequestStateParse ⟨stateText state, beyond⟩ = state := by
  show requestStateOfId (aptStringTableIdFind _ (stateText state)) = state
  cases state with
  | unknown => exact absurd rfl h
  | complete | inProgress | pending => decide

theorem mrcpVersionParse_versionText (version : MrcpVersion) (beyond : Bytes) :
    mrcpVersionParse ⟨versionText version, beyond⟩ = version := by
  cases version <;> rfl

/-! ### Method names -/

section

variable (h : isMethodToken name = true)
include h

theorem isMethodToken_cons : ∃ c t, name = c :: t ∧ 65 ≤ c ∧ c ≤ 90 := by
  cases name with
  | nil => cases h
  | cons c t =>
    simp only [isMethodToken, List.head?_cons, Option.any_some, Bool.and_eq_true,
      decide_eq_true_eq] at h
    exact ⟨c, t, rfl, h.1.1.1⟩

theorem isMethodToken_mem {c : UInt8} (hc : c ∈ name) : (65 ≤ c ∧ c ≤ 90) ∨ c = 45 := by
  simp only [isMethodToken, Bool.and_eq_true] at h
  have := List.all_eq_true.mp h.1.1.2 c hc
  simpa using this

theorem isMethodToken_not_mrcp : mrcpName.isPrefixOf name = false := by
  simp only [isMethodToken, Bool.and_eq_true, Bool.not_eq_true'] at h
  exact h.2

/-- `atol` reads 0 from a method name. -/
theorem strtol_methodToken (t : Bytes) : strtol (name ++ t) = 0 := by
  obtain ⟨c, name, rfl, h65, h90⟩ := isMethodToken_cons h
  have hspace : isSpace c = false := by grind [isSpace]
  have hdigit : isDigit c = false := by grind [isDigit]
  have h45 : (c == 45) = false := by grind
  have h43 : (c == 43) = false := by grind
  rw [strtol, List.cons_append, List.dropWhile_cons, hspace]
  simp [strtolSigned, h45, h43, hdigit, digitsValue, clampLong]

theorem isMethodToken_head : name.head? ≠ some 48 := by
  obtain ⟨c, t, rfl, h65, -⟩ := isMethodToken_cons h
  rintro hc
  obtain rfl : c = 48 := by simpa using hc
  exact absurd h65 (by decide)

end

/-! ## Words of a line -/

/-- What stands between two spaces. -/
def IsWord (word : Bytes) : Prop := word ≠ [] ∧ ∀ c ∈ word, c ≠ tokenSp

/-- Words with a space between them. -/
def spaced : List Bytes → Bytes
  | [] => []
  | [word] => word
  | word :: words => word ++ tokenSp :: spaced words

theorem spaced_cons (word : Bytes) {words : List Bytes} (h : words ≠ []) :
    spaced (word :: words) = word ++ tokenSp :: spaced words := by
  obtain ⟨next, words, rfl⟩ := List.exists_cons_of_ne_nil h
  rfl

theorem spaced_concat {words : List Bytes} (h : words ≠ []) (word : Bytes) :
    spaced (words ++ [word]) = spaced words ++ tokenSp :: word := by
  induction words with
  | nil => exact absurd rfl h
  | cons first words ih =>
    cases words with
    | nil => rfl
    | cons next words =>
      rw [List.cons_append, spaced_cons first (by simp), ih (by simp), spaced_cons first (by simp)]
      simp

/-- What stands behind a word: a space, the end of the line, or nothing. -/
def Behind (beyond : Bytes) : Prop := ∀ b ∈ beyond.head?, b = tokenSp ∨ isEol b = true

/-- `atol` of a word stops behind it. -/
theorem Behind.stop {beyond : Bytes} (h : Behind beyond) :
    ∀ b ∈ beyond.head?, isDigit b = false := by
  intro b hb
  rcases h b hb with rfl | heol
  · decide
  · exact isDigit_false_of_isEol heol

/-- The words of a stream are read one after the other. -/
inductive WordsRead : TextStream → List Bytes → Prop where
  | nil {s : TextStream} (hread : fieldRead s = none) : WordsRead s []
  | cons {s s' : TextStream} {word beyond : Bytes} {words : List Bytes}
      (hread : fieldRead s = some (⟨word, beyond⟩, s'))
      (hbehind : Behind beyond) (hwords : WordsRead s' words) : WordsRead s (word :: words)

theorem wordsRead {e : UInt8} {x : Bytes} (he : isEol e = true) (words : List Bytes)
    (hwords : ∀ word ∈ words, IsWord word) (gap : Bytes) (hgap : ∀ c ∈ gap, c = tokenSp)
    {s : TextStream} (hrest : s.rest = gap ++ spaced words) (hbeyond : s.beyond = e :: x) :
    WordsRead s words := by
  induction words generalizing s gap with
  | nil =>
    refine .nil (fieldRead_none ?_)
    rw [hrest, spaced]
    exact List.dropWhile_eq_nil_iff.mpr (by simpa using hgap)
  | cons word words ih =>
    obtain ⟨tail, hspaced, hdrop, htail⟩ : ∃ tail, spaced (word :: words) = word ++ tail ∧
        tail.drop 1 = spaced words ∧ ∀ c ∈ tail.head?, c = tokenSp := by
      cases words with
      | nil => exact ⟨[], by simp [spaced], rfl, by simp⟩
      | cons next words => exact ⟨tokenSp :: spaced (next :: words), rfl, rfl, by simp⟩
    obtain ⟨hne, hword⟩ := hwords word (by simp)
    rw [hspaced] at hrest
    obtain ⟨s', hread, hs', hb⟩ := fieldRead_text gap word tail hrest hgap hne hword htail
    refine .cons hread (fun b hb => ?_)
      (ih (fun w hw => hwords w (List.mem_cons_of_mem _ hw)) [] (by simp) (hs'.trans hdrop)
        (hb.trans hbeyond))
    rw [hbeyond] at hb
    cases tail with
    | nil =>
      obtain rfl : e = b := by simpa using hb
      exact .inr he
    | cons c t =>
      obtain rfl : c = b := by simpa using hb
      exact .inl (htail c (by simp))

theorem requestIdText_word (requestId : UInt32) : IsWord (requestIdText requestId) := by
  refine ⟨decimalInt_ne_nil _, ?_⟩
  rintro c hc rfl
  exact nomatch isSpace_false_of_mem_decimalInt hc

theorem decimal_word (n : Nat) : IsWord (decimal n) := by
  refine ⟨decimal_ne_nil _, ?_⟩
  rintro c hc rfl
  exact nomatch isDigit_of_mem_decimal hc

theorem stateText_word (h : state ≠ .unknown) : IsWord (stateText state) := by
  cases state with
  | unknown => exact absurd rfl h
  | complete | inProgress | pending => exact ⟨by decide +kernel, by decide +kernel⟩

theorem versionText_word (version : MrcpVersion) : IsWord (versionText version) := by
  cases version <;> exact ⟨by decide +kernel, by decide +kernel⟩

theorem isMethodToken_word (h : isMethodToken name = true) : IsWord name := by
  refine ⟨?_, ?_⟩
  · obtain ⟨c, t, rfl, -⟩ := isMethodToken_cons h
    simp
  · rintro c hc rfl
    rcases isMethodToken_mem h hc with ⟨h65, -⟩ | h45
    · exact absurd h65 (by decide)
    · cases h45

/-! ## Parsing -/

/-- The words of a start line that both versions have. -/
def coreWords (line : StartLine) : List Bytes :=
  match line.messageType with
  | .response =>
    [requestIdText line.requestId, decimal line.statusCode.toNat, stateText line.requestState]
  | .event => [line.methodName, requestIdText line.requestId, stateText line.requestState]
  | _ => [line.methodName, requestIdText line.requestId]

theorem startLineCore_eq (line : StartLine) : startLineCore line = spaced (coreWords line) := by
  unfold startLineCore coreWords
  cases line.messageType <;> simp [spaced]

theorem coreWords_cons (h : line.messageType ≠ .response) :
    coreWords line = line.methodName :: (coreWords line).drop 1 := by
  unfold coreWords
  cases hm : line.messageType with
  | response => exact absurd hm h
  | request | event | unknown => rfl

theorem coreWords_ne_nil (line : StartLine) : coreWords line ≠ [] := by
  unfold coreWords
  cases line.messageType <;> simp

theorem WireStartLine.words (h : WireStartLine line) :
    ∀ word ∈ coreWords line, IsWord word := by
  have hid := requestIdText_word line.requestId
  have hstate : line.messageType ≠ .request → IsWord (stateText line.requestState) :=
    fun hne => stateText_word fun hunknown => hne (h.state_iff.mp hunknown)
  unfold coreWords
  cases hm : line.messageType with
  | unknown => exact absurd hm h.type_ne
  | response => simpa using ⟨hid, decimal_word _, hstate (by rw [hm]; decide)⟩
  | event =>
    simpa using ⟨isMethodToken_word (h.method (by rw [hm]; decide)), hid,
      hstate (by rw [hm]; decide)⟩
  | request => simpa using ⟨isMethodToken_word (h.method (by rw [hm]; decide)), hid⟩

section Parse

variable {s : TextStream} {t : Bytes} {line : StartLine}

theorem mrcpStatusCodeParse_decimal (statusCode : UInt32)
    (ht : ∀ b ∈ t.head?, isDigit b = false) :
    mrcpStatusCodeParse (decimal statusCode.toNat ++ t) = statusCode := by
  have hlt := statusCode.toNat_lt
  rw [mrcpStatusCodeParse, aptSizeValueParse_decimal (by omega) ht]
  exact UInt32.ofNat_toNat

/-- A number is never taken for a method name. -/
theorem requestId_not_method (requestId : UInt32)
    (ht : ∀ b ∈ t.head?, isDigit b = false) :
    ¬(mrcpRequestIdParse (requestIdText requestId ++ t) = 0 ∧
      (requestIdText requestId).head? ≠ some 48) := by
  rw [mrcpRequestIdParse_requestIdText requestId ht]
  rintro ⟨rfl, h⟩
  exact h (by decide)

theorem statusCode_not_method (statusCode : UInt32)
    (ht : ∀ b ∈ t.head?, isDigit b = false) :
    ¬(mrcpRequestIdParse (decimal statusCode.toNat ++ t) = 0 ∧
      (decimal statusCode.toNat).head? ≠ some 48) := by
  have hlt := statusCode.toNat_lt
  rw [mrcpRequestIdParse, strtol_decimal_append (by omega) ht,
    show ((statusCode.toNat : Nat) % 2 ^ 32 : Int).toNat = statusCode.toNat by omega,
    UInt32.ofNat_toNat]
  rintro ⟨rfl, h⟩
  exact h (by decide)

theorem mrcpRequestIdParse_method (hname : isMethodToken name = true) (t : Bytes) :
    mrcpRequestIdParse (name ++ t) = 0 := by
  rw [mrcpRequestIdParse, strtol_methodToken hname]
  decide

theorem mrcpRequestStateParse_versionText (version : MrcpVersion) (beyond : Bytes) :
    mrcpRequestStateParse ⟨versionText version, beyond⟩ = .unknown := by
  show requestStateOfId (aptStringTableIdFind _ (versionText version)) = _
  cases version <;> decide

section

variable (h : WireStartLine line)
include h

theorem mrcpRequestLineParse_words (htype : line.messageType ≠ .response) {name : Bytes}
    (hs : WordsRead s ((coreWords line).drop 1 ++ [versionText .v1])) :
    mrcpRequestLineParse { mrcpStartLineInit with methodName := name } s =
      some { mrcpStartLineInit with
        methodName := name, requestId := line.requestId, requestState := line.requestState,
        messageType := line.messageType, version := .v1 } := by
  unfold coreWords at hs
  cases hm : line.messageType with
  | unknown => exact absurd hm h.type_ne
  | response => exact absurd hm htype
  | request =>
    rw [hm] at hs
    rcases hs with _ | ⟨h1, p1, _ | ⟨h2, -, -⟩⟩
    simp [mrcpRequestLineParse, h1, h2, AptStr.memory, mrcpRequestIdParse_requestIdText _ p1.stop,
      mrcpVersionParse_versionText, mrcpRequestStateParse_versionText, h.state_iff.mpr hm]
  | event =>
    have hstate : line.requestState ≠ .unknown := by
      intro hunknown
      cases hm.symm.trans (h.state_iff.mp hunknown)
    rw [hm] at hs
    rcases hs with _ | ⟨h1, p1, _ | ⟨h2, -, _ | ⟨h3, -, -⟩⟩⟩
    simp [mrcpRequestLineParse, h1, h2, h3, AptStr.memory,
      mrcpRequestIdParse_requestIdText _ p1.stop,
      mrcpVersionParse_versionText, mrcpRequestStateParse_stateText hstate, hstate]

theorem mrcpResponseLineParse_words {line' : StartLine} (htype : line.messageType = .response)
    (hversion : line'.version = .v1) (hs : WordsRead s (coreWords line)) :
    mrcpResponseLineParse line' s = some { line' with
      length := 0, requestId := line.requestId, statusCode := line.statusCode,
      requestState := line.requestState } := by
  have hstate : line.requestState ≠ .unknown := fun hunknown =>
    nomatch htype.symm.trans (h.state_iff.mp hunknown)
  rw [coreWords, htype] at hs
  rcases hs with _ | ⟨h1, p1, _ | ⟨h2, p2, _ | ⟨h3, -, -⟩⟩⟩
  simp [mrcpResponseLineParse, hversion, h1, h2, h3, AptStr.memory,
    mrcpRequestIdParse_requestIdText _ p1.stop, mrcpStatusCodeParse_decimal _ p2.stop,
    mrcpRequestStateParse_stateText hstate]

theorem mrcpV2StartLineParse_words {n : Nat} (hn : n < 2 ^ 63)
    (hs : WordsRead s (decimal n :: coreWords line)) (version : MrcpVersion) :
    mrcpV2StartLineParse { mrcpStartLineInit with version := version } s =
      some { mrcpStartLineInit with
        version := version, length := n, requestId := line.requestId,
        messageType := line.messageType, statusCode := line.statusCode,
        requestState := line.requestState,
        methodName := if line.messageType = .response then [] else line.methodName } := by
  have hstate : line.messageType ≠ .request → line.requestState ≠ .unknown :=
    fun hne hunknown => hne (h.state_iff.mp hunknown)
  rcases hs with _ | ⟨h1, p1, hs⟩
  unfold coreWords at hs
  cases hm : line.messageType with
  | unknown => exact absurd hm h.type_ne
  | response =>
    rw [hm] at hs
    rcases hs with _ | ⟨h2, p2, _ | ⟨h3, p3, _ | ⟨h4, -, -⟩⟩⟩
    have hmethod := requestId_not_method line.requestId p2.stop
    simp [mrcpV2StartLineParse, h1, h2, h3, h4, AptStr.memory, aptSizeValueParse_decimal hn p1.stop,
      mrcpRequestIdParse_requestIdText _ p2.stop, mrcpStatusCodeParse_decimal _ p3.stop,
      mrcpRequestStateParse_stateText (hstate (by rw [hm]; decide)), mrcpStartLineInit] at hmethod ⊢
    exact hmethod
  | request =>
    have hmethod := h.method (by rw [hm]; decide)
    rw [hm] at hs
    rcases hs with _ | ⟨h2, -, _ | ⟨h3, p3, ⟨h4⟩⟩⟩
    simp [mrcpV2StartLineParse, h1, h2, h3, h4, AptStr.memory, aptSizeValueParse_decimal hn p1.stop,
      mrcpRequestIdParse_method hmethod, isMethodToken_head hmethod,
      mrcpRequestIdParse_requestIdText _ p3.stop, h.status (by rw [hm]; decide), h.state_iff.mpr hm,
      mrcpStartLineInit]
  | event =>
    have hmethod := h.method (by rw [hm]; decide)
    rw [hm] at hs
    rcases hs with _ | ⟨h2, -, _ | ⟨h3, p3, _ | ⟨h4, -, -⟩⟩⟩
    simp [mrcpV2StartLineParse, h1, h2, h3, h4, AptStr.memory, aptSizeValueParse_decimal hn p1.stop,
      mrcpRequestIdParse_method hmethod, isMethodToken_head hmethod,
      mrcpRequestIdParse_requestIdText _ p3.stop, h.status (by rw [hm]; decide),
      mrcpRequestStateParse_stateText (hstate (by rw [hm]; decide)), mrcpStartLineInit]

/-- A version 2 line whose gap was left is rejected: without the length the
second word is read as that of a response, and then a word is missing. -/
theorem mrcpV2StartLineParse_gap (hs : WordsRead s (coreWords line)) (line' : StartLine) :
    mrcpV2StartLineParse line' s = none := by
  unfold coreWords at hs
  cases hm : line.messageType with
  | unknown => exact absurd hm h.type_ne
  | response =>
    rw [hm] at hs
    rcases hs with _ | ⟨h1, -, _ | ⟨h2, p2, _ | ⟨h3, -, ⟨h4⟩⟩⟩⟩
    have hmethod := statusCode_not_method line.statusCode p2.stop
    simp [mrcpV2StartLineParse, h1, h2, h3, h4, AptStr.memory, hmethod]
  | request =>
    rw [hm] at hs
    rcases hs with _ | ⟨h1, -, _ | ⟨h2, -, ⟨h3⟩⟩⟩
    simp [mrcpV2StartLineParse, h1, h2, h3]
  | event =>
    rw [hm] at hs
    rcases hs with _ | ⟨h1, -, _ | ⟨h2, p2, _ | ⟨h3, -, ⟨h4⟩⟩⟩⟩
    have hmethod := requestId_not_method line.requestId p2.stop
    simp [mrcpV2StartLineParse, h1, h2, h3, h4, AptStr.memory, hmethod]

end

end Parse

/-- The start line a parser has after reading the text of `line`. -/
def parsedStartLine (line : StartLine) (length : Nat) : StartLine :=
  { line with
    length := if line.version = .v2 then length else 0
    methodId := 0
    methodName := if line.messageType = .response then [] else line.methodName }

section Text

variable {line : StartLine} {e : UInt8}

/-- The first word of a line is the version. -/
theorem mrcpStartLineParse_version {version : MrcpVersion} {str : AptStr} {words : List Bytes}
    (h : WordsRead (TextStream.ofStr str) (versionText version :: words)) :
    ∃ s, WordsRead s words ∧ mrcpStartLineParse str =
      (let line := { mrcpStartLineInit with version := version }
       match version with
       | .v1 => mrcpResponseLineParse { line with messageType := .response } s
       | .v2 => mrcpV2StartLineParse line s
       | .unknown => none) := by
  cases h with
  | @cons _ s _ beyond _ hread hstop hwords =>
    refine ⟨s, hwords, ?_⟩
    simp only [mrcpStartLineParse, hread, AptStr.memory]
    cases version <;> rfl

/-- The first word of a line is a method name. -/
theorem mrcpStartLineParse_method (hname : isMethodToken name = true) {str : AptStr}
    {words : List Bytes} (h : WordsRead (TextStream.ofStr str) (name :: words)) :
    ∃ s, WordsRead s words ∧ mrcpStartLineParse str =
      mrcpRequestLineParse { mrcpStartLineInit with methodName := name } s := by
  cases h with
  | @cons _ s _ beyond _ hread hbehind hwords =>
    have hname : mrcpName.isPrefixOf (name ++ beyond) = false := by
      cases beyond with
      | nil => simpa using isMethodToken_not_mrcp hname
      | cons b beyond =>
        have hb : b ∉ mrcpName := by
          intro hmem
          have hno : ∀ c ∈ mrcpName, ¬(c = tokenSp ∨ isEol c = true) := by decide +kernel
          exact hno b hmem (hbehind b rfl)
        rw [isPrefixOf_append_cons hb]
        exact isMethodToken_not_mrcp hname
    refine ⟨s, hwords, ?_⟩
    simp only [mrcpStartLineParse, hread, Option.bind_eq_bind, Option.bind_some, AptStr.memory,
      hname]
    rfl

/-- The text of a start line reads back, whatever follows its end of line. -/
theorem mrcpStartLineParse_text (h : WireStartLine line) {n : Nat} (hn : n < 2 ^ 63)
    (he : isEol e = true) (x : Bytes) :
    mrcpStartLineParse ⟨startLineText line (decimal n ++ [tokenSp]), e :: x⟩ =
      some (parsedStartLine line n) := by
  have hread : ∀ words, (∀ word ∈ words, IsWord word) →
      startLineText line (decimal n ++ [tokenSp]) = spaced words →
      WordsRead (TextStream.ofStr ⟨startLineText line (decimal n ++ [tokenSp]), e :: x⟩) words :=
    fun words hwords htext => wordsRead he words hwords [] (by simp) htext rfl
  have hwords := h.words
  have hcore := startLineCore_eq line
  have hsome := coreWords_ne_nil line
  cases hversion : line.version with
  | unknown => exact absurd hversion h.version_ne
  | v1 =>
    by_cases hm : line.messageType = .response
    · obtain ⟨s, hs, hparse⟩ := mrcpStartLineParse_version
        (hread (versionText .v1 :: coreWords line)
          (List.forall_mem_cons.mpr ⟨versionText_word .v1, hwords⟩)
          (by simp [startLineText, hversion, hm, hcore, spaced_cons _ hsome]))
      rw [hparse]
      dsimp only
      rw [mrcpResponseLineParse_words h hm rfl hs]
      simp [parsedStartLine, hversion, hm, mrcpStartLineInit]
    · have hs := hread (coreWords line ++ [versionText .v1])
        (List.forall_mem_append.mpr ⟨hwords, by simpa using versionText_word .v1⟩)
        (by simp [startLineText, hversion, hm, hcore, h.statusField_eq, spaced_concat hsome])
      rw [coreWords_cons hm] at hs
      obtain ⟨s, hs, hparse⟩ := mrcpStartLineParse_method (h.method hm) hs
      rw [hparse, mrcpRequestLineParse_words h hm hs]
      simp [parsedStartLine, hversion, hm, mrcpStartLineInit, h.status hm]
  | v2 =>
    obtain ⟨s, hs, hparse⟩ := mrcpStartLineParse_version
      (hread (versionText .v2 :: decimal n :: coreWords line)
        (by simpa using ⟨versionText_word .v2, decimal_word n, hwords⟩)
        (by simp [startLineText, hversion, hcore, spaced_cons, hsome]))
    rw [hparse]
    dsimp only
    rw [mrcpV2StartLineParse_words h hn hs]
    simp [parsedStartLine, hversion, mrcpStartLineInit]

/-- A version 2 line without its length is no start line. -/
theorem mrcpStartLineParse_gap (h : WireStartLine line) (hversion : line.version = .v2)
    (he : isEol e = true) (x : Bytes) :
    mrcpStartLineParse ⟨startLineText line lengthGap, e :: x⟩ = none := by
  have htext : startLineText line lengthGap =
      [] ++ (versionText .v2 ++ tokenSp :: (lengthGap ++ spaced (coreWords line))) := by
    simp [startLineText, hversion, startLineCore_eq]
  obtain ⟨hne, hword⟩ := versionText_word .v2
  obtain ⟨s', hread, hs', hb⟩ := fieldRead_text
    (s := TextStream.ofStr ⟨startLineText line lengthGap, e :: x⟩) [] _ _ htext (by simp) hne hword
    (by simp)
  have hwords := wordsRead he (coreWords line) h.words lengthGap (by decide +kernel) hs' hb
  have hfirst : WordsRead _ (versionText .v2 :: coreWords line) :=
    .cons hread (fun b hb => .inl (by simpa using hb.symm)) hwords
  obtain ⟨s, hs, hparse⟩ := mrcpStartLineParse_version hfirst
  rw [hparse]
  exact mrcpV2StartLineParse_gap h hs _

/-! ## The text is one line -/

theorem isEol_false_of_isDigit {c : UInt8} (h : isDigit c = true) : isEol c = false := by
  grind [isEol, isDigit, tokenCr, tokenLf]

theorem requestIdText_eol (requestId : UInt32) :
    ∀ c ∈ requestIdText requestId, isEol c = false := by
  intro c hc
  rcases of_mem_decimalInt hc with rfl | h
  · decide
  · exact isEol_false_of_isDigit h

theorem decimal_eol (n : Nat) : ∀ c ∈ decimal n, isEol c = false :=
  fun _ hc => isEol_false_of_isDigit (isDigit_of_mem_decimal hc)

theorem isMethodToken_eol (h : isMethodToken name = true) : ∀ c ∈ name, isEol c = false := by
  intro c hc
  have hcases := isMethodToken_mem h hc
  grind [isEol, tokenCr, tokenLf]

theorem WireStartLine.core_eol (h : WireStartLine line) :
    ∀ c ∈ startLineCore line, isEol c = false := by
  have hsp : ∀ c ∈ [tokenSp], isEol c = false := by decide +kernel
  have hid := requestIdText_eol line.requestId
  have hcode := decimal_eol line.statusCode.toNat
  have hstate : ∀ c ∈ stateText line.requestState, isEol c = false := by
    cases line.requestState <;> decide +kernel
  have hmethod : line.messageType ≠ .response → ∀ c ∈ line.methodName, isEol c = false :=
    fun hne => isMethodToken_eol (h.method hne)
  unfold startLineCore
  cases hm : line.messageType with
  | unknown => exact absurd hm h.type_ne
  | response =>
    simp only [List.forall_mem_append]
    exact ⟨⟨⟨⟨hid, hsp⟩, hcode⟩, hsp⟩, hstate⟩
  | event =>
    simp only [List.forall_mem_append]
    exact ⟨⟨⟨⟨hmethod (by rw [hm]; decide), hsp⟩, hid⟩, hsp⟩, hstate⟩
  | request =>
    simp only [List.forall_mem_append]
    exact ⟨⟨hmethod (by rw [hm]; decide), hsp⟩, hid⟩

theorem WireStartLine.text_eol (h : WireStartLine line) {gap : Bytes}
    (hgap : ∀ c ∈ gap, isEol c = false) : ∀ c ∈ startLineText line gap, isEol c = false := by
  have hsp : ∀ c ∈ [tokenSp], isEol c = false := by decide +kernel
  have hversion : ∀ version, ∀ c ∈ versionText version, isEol c = false := by
    intro version
    cases version <;> decide +kernel
  unfold startLineText
  split
  · simp only [List.forall_mem_append]
    exact ⟨⟨⟨hversion _, hsp⟩, hgap⟩, h.core_eol⟩
  · split
    · simp only [List.forall_mem_append]
      exact ⟨⟨hversion _, hsp⟩, h.core_eol⟩
    · simp only [h.statusField_eq, List.append_nil, List.forall_mem_append]
      exact ⟨⟨h.core_eol, hsp⟩, hversion _⟩

end Text

end UniMrcp.Mrcp
