import UniMrcp.Apt.Lines

/-!
# Header sections as text

The text of a header section is a line for each field and an empty line.

* `headerSectionLoop_headerText`: the parser reads it back, field by field,
  and then folds whatever white space follows the empty line into it;
* `eolInsert_kept`, `eolInsert_clogged`: the generator writes the lines that
  `linesKept` finds room for by their lengths, or it fails.
-/

namespace UniMrcp.Apt

open UniMrcp.Lib

/-- CR LF -/
def crlf : Bytes := [tokenCr, tokenLf]

/-- The line of a header field. -/
def fieldLine (pair : Bytes × Bytes) : Bytes := pair.1 ++ [58, tokenSp] ++ pair.2

/-- The lines of a list of header fields. -/
def headerText (pairs : List (Bytes × Bytes)) : Bytes :=
  pairs.flatMap (fun pair => fieldLine pair ++ crlf)

@[simp] theorem headerText_nil : headerText [] = [] := rfl

theorem headerText_cons (pair : Bytes × Bytes) (pairs : List (Bytes × Bytes)) :
    headerText (pair :: pairs) = fieldLine pair ++ tokenCr :: tokenLf :: headerText pairs := by
  simp [headerText, crlf]

/-- A field that a line can carry: a name without a colon, no end of line, and
neither part starts with white space. -/
structure WireField (pair : Bytes × Bytes) : Prop where
  name_ne : pair.1 ≠ []
  name_colon : ∀ c ∈ pair.1, c ≠ 58
  name_eol : ∀ c ∈ pair.1, isEol c = false
  name_wsp : ∀ c ∈ pair.1.head?, aptTextIsWsp c = false
  value_eol : ∀ c ∈ pair.2, isEol c = false
  value_wsp : ∀ c ∈ pair.2.head?, aptTextIsWsp c = false

theorem WireField.fieldLine_eol {pair : Bytes × Bytes} (h : WireField pair) :
    ∀ c ∈ fieldLine pair, isEol c = false := by
  intro c hc
  simp only [fieldLine, List.mem_append, List.mem_cons, List.not_mem_nil, or_false] at hc
  rcases hc with (hc | rfl | rfl) | hc
  · exact h.name_eol c hc
  · decide
  · decide
  · exact h.value_eol c hc

/-! ## Reading a field -/

/-- Inside the name. -/
theorem foldl_step_name (name : Bytes) (hcolon : ∀ c ∈ name, c ≠ 58) (n : Bytes) :
    name.foldl HeaderScan.step ⟨some n, false, none⟩ = ⟨some (n ++ name), false, none⟩ := by
  induction name generalizing n with
  | nil => simp
  | cons c name ih =>
    have hc : (c == 58) = false := by simpa using hcolon c (by simp)
    have hstep : HeaderScan.step ⟨some n, false, none⟩ c = ⟨some (n ++ [c]), false, none⟩ := by
      simp [HeaderScan.step, hc]
    rw [List.foldl_cons, hstep, ih (fun d hd => hcolon d (by simp [hd]))]
    simp

/-- Inside the value. -/
theorem foldl_step_value (value : Bytes) (n v : Bytes) :
    value.foldl HeaderScan.step ⟨some n, true, some v⟩ = ⟨some n, true, some (v ++ value)⟩ := by
  induction value generalizing v with
  | nil => simp
  | cons c value ih =>
    have hstep : HeaderScan.step ⟨some n, true, some v⟩ c = ⟨some n, true, some (v ++ [c])⟩ := by
      simp [HeaderScan.step]
    rw [List.foldl_cons, hstep, ih]
    simp

/-- The line of a field reads as the field. -/
theorem headerOfLine_fieldLine {pair : Bytes × Bytes} (h : WireField pair) :
    headerOfLine (fieldLine pair) = some ⟨pair.1, pair.2⟩ := by
  obtain ⟨name, value⟩ := pair
  obtain ⟨c, name, rfl⟩ := List.exists_cons_of_ne_nil h.name_ne
  have hwsp : aptTextIsWsp c = false := h.name_wsp c rfl
  have hfirst : HeaderScan.step ⟨none, false, none⟩ c = ⟨some [c], false, none⟩ := by
    simp [HeaderScan.step, hwsp]
  have hsep : [58, tokenSp].foldl HeaderScan.step ⟨some (c :: name), false, none⟩ =
      ⟨some (c :: name), true, none⟩ := by
    simp [HeaderScan.step, aptTextIsWsp]
  have hname : (c :: name).foldl HeaderScan.step ⟨none, false, none⟩ =
      ⟨some (c :: name), false, none⟩ := by
    rw [List.foldl_cons, hfirst, foldl_step_name name (fun d hd => h.name_colon d (by simp [hd]))]
    rfl
  have hscan : (fieldLine (c :: name, value)).foldl HeaderScan.step ⟨none, false, none⟩ =
      value.foldl HeaderScan.step ⟨some (c :: name), true, none⟩ := by
    show (c :: name ++ [58, tokenSp] ++ value).foldl HeaderScan.step _ = _
    rw [List.foldl_append, List.foldl_append, hname, hsep]
  cases value with
  | nil =>
    rw [headerOfLine, hscan]
    rfl
  | cons d value =>
    have hd : aptTextIsWsp d = false := h.value_wsp d rfl
    have hstep : HeaderScan.step ⟨some (c :: name), true, none⟩ d =
        ⟨some (c :: name), true, some [d]⟩ := by
      simp [HeaderScan.step, hd]
    rw [headerOfLine, hscan, List.foldl_cons, hstep, foldl_step_value]
    rfl

/-! ## Reading a header section -/

/-- The header section with the fields appended as the parser does. -/
def appendFields (header : HeaderSection) (pairs : List (Bytes × Bytes)) : HeaderSection :=
  pairs.foldl (fun header pair => headerFieldAppend header ⟨pair.1, pair.2⟩) header

/-- The empty line takes the white space behind it along. -/
theorem headerFieldParse_empty (B tail : Bytes) :
    ∃ value B', aptHeaderFieldParse ⟨B, crlf ++ tail, [], false⟩ =
      (some ⟨[], value⟩, (foldedLines tail.length ⟨B', tail, [], false⟩ []).2) := by
  have hline : ∀ b ∈ ([] : Bytes), isEol b = false := by simp
  have hcr : isEol tokenCr = true := rfl
  have hread : aptTextHeaderRead ⟨B, [] ++ tokenCr :: tokenLf :: tail, [], false⟩ =
      (some ⟨[], []⟩, behindLine B [] (tokenCr :: tokenLf :: tail)) := by
    simp only [aptTextHeaderRead, takeWhile_line hline hcr, dropWhile_line hline hcr,
      advance_line]
    rfl
  let B' := B ++ [] ++ [tokenCr, tokenLf]
  refine ⟨(foldedLines tail.length ⟨B', tail, [], false⟩ []).1, B', ?_⟩
  show aptHeaderFieldParse ⟨B, [] ++ tokenCr :: tokenLf :: tail, [], false⟩ = _
  rw [aptHeaderFieldParse, hread]
  rfl

variable {pairs : List (Bytes × Bytes)} {out : Bytes} {size : Nat}

/-- What follows a field's line starts with the next name or with a CR. -/
theorem headerText_head (hwire : ∀ p ∈ pairs, WireField p) (tail : Bytes) :
    ∀ c ∈ (headerText pairs ++ crlf ++ tail).head?, aptTextIsWsp c = false := by
  intro c hc
  cases pairs with
  | nil =>
    obtain rfl : tokenCr = c := by simpa [crlf] using hc
    decide
  | cons pair pairs =>
    have h := hwire pair (by simp)
    obtain ⟨d, name, hname⟩ := List.exists_cons_of_ne_nil h.name_ne
    rw [headerText_cons, fieldLine, hname] at hc
    exact h.name_wsp c (by rw [hname]; simpa using hc)

theorem headerSectionLoop_headerText (hwire : ∀ p ∈ pairs, WireField p) (header : HeaderSection)
    (B tail : Bytes) {fuel : Nat} (hfuel : pairs.length < fuel) :
    ∃ B', headerSectionLoop fuel header ⟨B, headerText pairs ++ crlf ++ tail, [], false⟩ =
      (true, appendFields header pairs,
        (foldedLines tail.length ⟨B', tail, [], false⟩ []).2) := by
  induction pairs generalizing header B fuel with
  | nil =>
    obtain ⟨fuel, rfl⟩ : ∃ k, fuel = k + 1 := ⟨fuel - 1, by simp at hfuel; omega⟩
    obtain ⟨value, B', hparse⟩ := headerFieldParse_empty B tail
    refine ⟨B', ?_⟩
    simp [headerSectionLoop, hparse, appendFields]
  | cons pair pairs ih =>
    obtain ⟨fuel, rfl⟩ : ∃ k, fuel = k + 1 := ⟨fuel - 1, by simp at hfuel; omega⟩
    have h := hwire pair (by simp)
    have hwire' : ∀ p ∈ pairs, WireField p := fun p hp => hwire p (by simp [hp])
    have htext : headerText (pair :: pairs) ++ crlf ++ tail = fieldLine pair ++
        tokenCr :: tokenLf :: (headerText pairs ++ crlf ++ tail) := by
      rw [headerText_cons]
      simp
    have hnext : ∀ c ∈ (eolRest (tokenCr :: tokenLf ::
        (headerText pairs ++ crlf ++ tail))).head?, aptTextIsWsp c = false :=
      headerText_head hwire' tail
    have hparse := headerFieldParse_line B h.fieldLine_eol rfl hnext
    rw [headerOfLine_fieldLine h] at hparse
    have hfuel' : pairs.length < fuel := by simp at hfuel; omega
    obtain ⟨B', hloop⟩ := ih hwire' (headerFieldAppend header ⟨pair.1, pair.2⟩)
      (B ++ fieldLine pair ++ crlf) hfuel'
    refine ⟨B', ?_⟩
    rw [htext, headerSectionLoop, hparse]
    have hname : pair.1.isEmpty = false := by simpa using h.name_ne
    have hend : (behindLine B (fieldLine pair)
        (tokenCr :: tokenLf :: (headerText pairs ++ crlf ++ tail))).isEnd = false := by
      simp [behindLine, eolRest, eolLength, TextStream.isEnd, crlf]
    simp only [hname, hend]
    exact hloop

/-! ## Folding -/

section

variable (fuel : Nat) (header : HeaderSection) (stream : TextStream)

theorem aptTextLineRead_suffix : (aptTextLineRead stream).2.2.rest <:+ stream.rest := by
  rw [aptTextLineRead]
  split
  · exact List.suffix_rfl
  · exact List.drop_suffix _ _

theorem foldedLines_suffix (value : Bytes) :
    (foldedLines fuel stream value).2.rest <:+ stream.rest := by
  induction fuel generalizing stream value with
  | zero => exact List.suffix_rfl
  | succ fuel ih =>
    rw [foldedLines]
    split
    · exact List.suffix_rfl
    · split
      · refine ((ih _ _).trans (aptTextLineRead_suffix _)).trans ?_
        exact (List.drop_suffix _ _).trans (List.drop_suffix 1 _)
      · exact List.suffix_rfl

theorem aptHeaderFieldParse_suffix_read :
    (aptHeaderFieldParse stream).2.rest <:+ (aptTextHeaderRead stream).2.rest := by
  unfold aptHeaderFieldParse
  rcases aptTextHeaderRead stream with ⟨_ | pair, rest⟩
  · exact List.suffix_rfl
  · exact foldedLines_suffix _ _ _

theorem aptHeaderFieldParse_suffix : (aptHeaderFieldParse stream).2.rest <:+ stream.rest := by
  refine (aptHeaderFieldParse_suffix_read stream).trans ?_
  rw [aptTextHeaderRead]
  split
  · exact List.suffix_rfl
  · exact List.drop_suffix _ _

theorem headerSectionLoop_suffix :
    (headerSectionLoop fuel header stream).2.2.rest <:+ stream.rest := by
  induction fuel generalizing header stream with
  | zero => exact List.suffix_rfl
  | succ fuel ih =>
    have hread := aptHeaderFieldParse_suffix stream
    rw [headerSectionLoop]
    dsimp only
    split_ifs
    · exact hread
    · exact hread
    · exact (ih _ _).trans hread

end

/-- White space behind a field is consumed with it. -/
theorem foldedLines_length_lt {c : UInt8} (hc : aptTextIsWsp c = true) (B tail : Bytes)
    (fuel : Nat) (value : Bytes) :
    (foldedLines (fuel + 1) ⟨B, c :: tail, [], false⟩ value).2.rest.length <
      (c :: tail).length := by
  rw [foldedLines]
  simp only [hc]
  calc _ ≤ _ := (foldedLines_suffix _ _ _).length_le
    _ ≤ _ := (aptTextLineRead_suffix _).length_le
    _ < (c :: tail).length := by
      simp only [aptTextWhiteSpacesSkip, TextStream.advance, List.length_drop,
        List.length_cons]
      omega

/-! ## Writing fields -/

/-- The fields inserted one after the other, whatever the statuses. -/
def insertFields (pairs : List (Bytes × Bytes)) (stream : TxStream) : TxStream :=
  pairs.foldl (fun stream pair => (aptTextNameValueInsert pair.1 pair.2 stream).2) stream

section

variable (pair : Bytes × Bytes) (out : Bytes) (size : Nat) (pairs : List (Bytes × Bytes))

theorem insertFields_cons (stream : TxStream) :
    insertFields (pair :: pairs) stream =
      insertFields pairs (aptTextNameValueInsert pair.1 pair.2 stream).2 := rfl

theorem length_fieldLine : (fieldLine pair).length = pair.1.length + pair.2.length + 2 := by
  simp [fieldLine]
  omega

theorem aptTextEolInsert_eq : aptTextEolInsert ⟨out, size⟩ =
      if out.length + 2 < size then (true, ⟨out ++ crlf, size⟩) else (false, ⟨out, size⟩) := by
  simp [aptTextEolInsert, TxStream.hasRoom, TxStream.put, crlf]

theorem aptTextNameValueInsert_eq : aptTextNameValueInsert pair.1 pair.2 ⟨out, size⟩ =
      if out.length + (fieldLine pair).length < size then
        aptTextEolInsert ⟨out ++ fieldLine pair, size⟩
      else (false, ⟨out, size⟩) := by
  simp only [aptTextNameValueInsert, TxStream.hasRoom, length_fieldLine,
    decide_eq_true_eq]
  rfl

/-- What inserting a field does: nothing, half of it, or the field. -/
theorem aptTextNameValueInsert_cases : (size ≤ out.length + (fieldLine pair).length ∧
      (aptTextNameValueInsert pair.1 pair.2 ⟨out, size⟩).2 = ⟨out, size⟩) ∨
    (out.length + (fieldLine pair).length < size ∧
      size ≤ out.length + (fieldLine pair).length + 2 ∧
      (aptTextNameValueInsert pair.1 pair.2 ⟨out, size⟩).2 = ⟨out ++ fieldLine pair, size⟩) ∨
    (out.length + (fieldLine pair).length + 2 < size ∧
      (aptTextNameValueInsert pair.1 pair.2 ⟨out, size⟩).2 =
        ⟨out ++ (fieldLine pair ++ crlf), size⟩) := by
  rw [aptTextNameValueInsert_eq, aptTextEolInsert_eq, List.length_append]
  split
  · rename_i hline
    split
    · rename_i heol
      exact Or.inr (Or.inr ⟨heol, by simp⟩)
    · exact Or.inr (Or.inl ⟨hline, by omega, rfl⟩)
  · exact Or.inl ⟨by omega, rfl⟩

theorem headerText_cons_length : (headerText (pair :: pairs)).length =
      (fieldLine pair).length + 2 + (headerText pairs).length := by
  rw [headerText_cons]
  simp
  omega

end

/-- The header lines that a buffer of `size` bytes with `used` bytes in it takes,
by their lengths: a line that does not fit is left out.  There are none if the
empty line does not fit in the end. -/
def linesKept (size : Nat) : Nat → List (Bytes × Bytes) → Option (List (Bytes × Bytes))
  | used, [] => if used + 2 < size then some [] else none
  | used, pair :: pairs =>
    if used + (fieldLine pair).length + 2 < size then
      (linesKept size (used + (fieldLine pair).length + 2) pairs).map (pair :: ·)
    -- the line without its end leaves no room for anything
    else if used + (fieldLine pair).length < size then none
    else linesKept size used pairs

section Kept

variable {used : Nat} {kept : List (Bytes × Bytes)}

theorem linesKept_sublist (h : linesKept size used pairs = some kept) :
    kept.Sublist pairs ∧ used + (headerText kept).length + 2 < size := by
  induction pairs generalizing used kept with
  | nil =>
    rw [linesKept] at h
    split at h
    · cases h
      exact ⟨.refl _, by assumption⟩
    · cases h
  | cons pair pairs ih =>
    rw [linesKept] at h
    split at h
    · obtain ⟨rest, hrest, rfl⟩ := Option.map_eq_some_iff.mp h
      obtain ⟨hsub, hroom⟩ := ih hrest
      refine ⟨hsub.cons_cons _, ?_⟩
      rw [headerText_cons_length]
      omega
    · split at h
      · cases h
      · exact ⟨(ih h).1.cons _, (ih h).2⟩

/-- All lines are kept exactly if they fit with the empty line. -/
theorem linesKept_eq_self :
    linesKept size used pairs = some pairs ↔ used + (headerText pairs).length + 2 < size := by
  refine ⟨fun h => (linesKept_sublist h).2, fun h => ?_⟩
  induction pairs generalizing used with
  | nil => exact if_pos h
  | cons pair pairs ih =>
    rw [headerText_cons_length] at h
    rw [linesKept, if_pos (by omega), ih (by omega)]
    rfl

theorem eolInsert_kept (h : linesKept size out.length pairs = some kept) :
    aptTextEolInsert (insertFields pairs ⟨out, size⟩) =
      (true, ⟨out ++ (headerText kept ++ crlf), size⟩) := by
  induction pairs generalizing out kept with
  | nil =>
    rw [linesKept] at h
    split at h
    · next hroom =>
      cases h
      exact (aptTextEolInsert_eq out size).trans (if_pos hroom)
    · cases h
  | cons pair pairs ih =>
    rw [linesKept] at h
    rw [insertFields_cons]
    rcases aptTextNameValueInsert_cases pair out size with ⟨hle, hi⟩ | ⟨hlt, hle, -⟩ | ⟨hlt, hi⟩
    · rw [if_neg (by omega), if_neg (by omega)] at h
      rw [hi, ih h]
    · rw [if_neg (by omega), if_pos hlt] at h
      cases h
    · rw [if_pos hlt] at h
      obtain ⟨rest, hrest, rfl⟩ := Option.map_eq_some_iff.mp h
      rw [hi, @ih _ rest (by simpa [crlf, Nat.add_assoc] using hrest)]
      simp [headerText]

/-- Without room for an end of line no field is written. -/
theorem insertFields_full (hfull : size ≤ out.length + 2) :
    insertFields pairs ⟨out, size⟩ = ⟨out, size⟩ := by
  induction pairs with
  | nil => rfl
  | cons pair pairs ih =>
    have hlen := length_fieldLine pair
    rw [insertFields_cons]
    rcases aptTextNameValueInsert_cases pair out size with ⟨-, h⟩ | ⟨h, -, -⟩ | ⟨h, -⟩
    · rw [h, ih]
    · omega
    · omega

/-- The generator fails before it has filled the buffer. -/
theorem eolInsert_clogged (h : linesKept size out.length pairs = none) (hout : out.length < size) :
    ∃ out', aptTextEolInsert (insertFields pairs ⟨out, size⟩) = (false, ⟨out', size⟩) ∧
      out'.length < size := by
  induction pairs generalizing out with
  | nil =>
    rw [linesKept] at h
    split at h
    · cases h
    · next hfull => exact ⟨out, (aptTextEolInsert_eq out size).trans (if_neg hfull), hout⟩
  | cons pair pairs ih =>
    rw [linesKept] at h
    rw [insertFields_cons]
    rcases aptTextNameValueInsert_cases pair out size with ⟨hle, hi⟩ | ⟨hlt, hle, hi⟩ | ⟨hlt, hi⟩
    · rw [if_neg (by omega), if_neg (by omega)] at h
      rw [hi]
      exact ih h hout
    · have hfull : size ≤ (out ++ fieldLine pair).length + 2 := by simpa using hle
      rw [hi, insertFields_full hfull, aptTextEolInsert_eq, if_neg (by omega)]
      exact ⟨_, rfl, by simpa using hlt⟩
    · rw [if_pos hlt, Option.map_eq_none_iff] at h
      rw [hi]
      exact ih (by simpa [crlf, Nat.add_assoc] using h) (by simpa [crlf, Nat.add_assoc] using hlt)

end Kept

/-- `apt_header_section_generate` in terms of names and values. -/
theorem aptHeaderSectionGenerate_eq (header : HeaderSection) (stream : TxStream) :
    aptHeaderSectionGenerate header stream =
      aptTextEolInsert (insertFields header.pairs stream) := by
  rw [insertFields, HeaderSection.pairs, List.foldl_map]
  rfl

/-! ## Progress

Each pass of the header section loop leaves a line less, or ends the stream. -/

/-- The number of lines: CR LF is the end of one, and what is behind the last end
is a line unless it is empty. -/
def lineCount : Bytes → Nat
  | [] => 0
  | [_] => 1
  | c :: d :: text =>
    if isEol c && !(c == tokenCr && d == tokenLf) then lineCount (d :: text) + 1
    else lineCount (d :: text)

theorem lineCount_le_cons (c : UInt8) (text : Bytes) : lineCount text ≤ lineCount (c :: text) := by
  cases text with
  | nil => exact Nat.zero_le _
  | cons d text => rw [lineCount]; split <;> omega

theorem lineCount_le_of_suffix {text text' : Bytes} (h : text <:+ text') :
    lineCount text ≤ lineCount text' := by
  obtain ⟨front, rfl⟩ := h
  induction front with
  | nil => exact Nat.le_refl _
  | cons c front ih => exact ih.trans (lineCount_le_cons c _)

theorem lineCount_pos {text : Bytes} (h : text ≠ []) : 0 < lineCount text := by
  fun_induction lineCount text <;> grind

theorem lineCount_le_length (text : Bytes) : lineCount text ≤ text.length := by
  fun_induction lineCount text <;> grind

/-- A line and its end are one line. -/
theorem lineCount_line {line tail : Bytes} {e : UInt8} (hline : ∀ b ∈ line, isEol b = false)
    (he : isEol e = true) :
    lineCount (line ++ e :: tail) = lineCount (eolRest (e :: tail)) + 1 := by
  induction line with
  | nil =>
    rcases eol_cases he tail with ⟨t, rfl, rfl, hlength⟩ | ⟨hlength, hcr⟩
    · rw [eolRest, hlength]
      cases t <;> simp [lineCount, isEol, tokenCr, tokenLf]
    · cases tail with
      | nil => simp [eolRest, hlength, lineCount]
      | cons d t =>
        have hone : (e == tokenCr && d == tokenLf) = false := by simpa using hcr
        simp [eolRest, hlength, lineCount, he, hone]
  | cons c line ih =>
    obtain ⟨hc, hline⟩ := List.forall_mem_cons.mp hline
    rw [← ih hline, List.cons_append]
    cases line <;> simp [lineCount, hc]

/-- `apt_text_header_read` moves behind the end of a line, or there is none and
it marks the end of the stream where it is. -/
def HeaderReadMoves (stream : TextStream) : Prop :=
  (∃ line e tail, stream.rest = line ++ e :: tail ∧ (∀ b ∈ line, isEol b = false) ∧
    isEol e = true ∧ aptTextHeaderRead stream =
      (headerOfLine line, stream.advance (line.length + eolLength (e :: tail)))) ∨
  ((∀ b ∈ stream.rest, isEol b = false) ∧
    aptTextHeaderRead stream = (none, { stream with isEos := true }))

theorem headerReadMoves (stream : TextStream) : HeaderReadMoves stream := by
  rcases line_cases stream.rest with hnone | ⟨line, e, tail, hrest, hline, he⟩
  · exact .inr ⟨hnone, by simp [aptTextHeaderRead, dropWhile_noEol hnone]⟩
  · refine .inl ⟨line, e, tail, hrest, hline, he, ?_⟩
    simp only [aptTextHeaderRead, hrest, takeWhile_line hline he, dropWhile_line hline he]

/-- The loop of `apt_header_section_parse` ends within so many passes. -/
def endsWithin : Nat → TextStream → Bool
  | 0, _ => false
  | n + 1, stream =>
    let pass := aptHeaderFieldParse stream
    pass.1.any (fun pair => pair.name.isEmpty) || pass.2.isEnd || endsWithin n pass.2

theorem endsWithin_of_lineCount_le (n : Nat) {stream : TextStream} (hn : 1 ≤ n)
    (h : lineCount stream.rest ≤ n) : endsWithin n stream = true := by
  induction n generalizing stream with
  | zero => exact absurd hn (by decide)
  | succ n ih =>
    rw [endsWithin]
    rcases headerReadMoves stream with
      ⟨line, e, tail, hrest, hline, he, hread⟩ | ⟨-, hread⟩
    · have hbehind : (aptTextHeaderRead stream).2.rest = eolRest (e :: tail) := by
        simp [hread, TextStream.advance, hrest, eolRest, List.drop_length_add_append]
      have hless := lineCount_le_of_suffix (hbehind ▸ aptHeaderFieldParse_suffix_read stream)
      rw [hrest, lineCount_line hline he] at h
      by_cases hend : (aptHeaderFieldParse stream).2.rest = []
      · simp [TextStream.isEnd, hend]
      · have hpos := lineCount_pos hend
        rw [ih (by omega) (hless.trans (by omega)), Bool.or_true]
    · simp [aptHeaderFieldParse, hread, TextStream.isEnd]

theorem headerSectionLoop_of_endsWithin {n fuel : Nat} {stream : TextStream}
    (h : endsWithin n stream = true) (hle : n ≤ fuel) (header : HeaderSection) :
    headerSectionLoop fuel header stream = headerSectionLoop n header stream := by
  induction n generalizing fuel header stream with
  | zero => exact nomatch h
  | succ n ih =>
    obtain ⟨fuel, rfl⟩ := Nat.exists_eq_add_of_le' (Nat.lt_of_lt_of_le n.succ_pos hle)
    rw [endsWithin] at h
    rw [headerSectionLoop, headerSectionLoop]
    generalize aptHeaderFieldParse stream = pass at h ⊢
    obtain ⟨pair, stream⟩ := pass
    dsimp only at h ⊢
    split_ifs with hdone hend
    · rfl
    · rfl
    · refine ih ?_ (Nat.le_of_succ_le_succ hle) _
      cases pair with
      | none => simpa [hend] using h
      | some pair =>
        cases hname : pair.name.isEmpty with
        | true => simp [hname] at hdone
        | false => simpa [hname, hend] using h

/-- The stream with other memory behind its end. -/
def TextStream.withBeyond (beyond : Bytes) (stream : TextStream) : TextStream :=
  { stream with beyond := beyond }

section

variable (beyond : Bytes) (stream : TextStream)

theorem aptTextLineRead_withBeyond :
    (aptTextLineRead (stream.withBeyond beyond)).2.1.text = (aptTextLineRead stream).2.1.text ∧
      (aptTextLineRead (stream.withBeyond beyond)).2.2 =
        (aptTextLineRead stream).2.2.withBeyond beyond := by
  unfold aptTextLineRead
  dsimp only [TextStream.withBeyond]
  split <;> exact ⟨rfl, rfl⟩

theorem foldedLines_withBeyond (fuel : Nat) (value : Bytes) :
    foldedLines fuel (stream.withBeyond beyond) value =
      (foldedLines fuel stream value).map id (·.withBeyond beyond) := by
  induction fuel generalizing stream value with
  | zero => rfl
  | succ fuel ih =>
    rw [foldedLines, foldedLines]
    dsimp only [TextStream.withBeyond]
    split
    · rfl
    · split
      · obtain ⟨htext, hbehind⟩ :=
          aptTextLineRead_withBeyond beyond (aptTextWhiteSpacesSkip (stream.advance 1))
        show foldedLines fuel (aptTextLineRead ((aptTextWhiteSpacesSkip
          (stream.advance 1)).withBeyond beyond)).2.2 (value ++ AptStr.text _) = _
        rw [hbehind, ih]
        exact congrArg (fun text => (foldedLines fuel _ (value ++ text)).map id _) htext
      · rfl

theorem aptHeaderFieldParse_withBeyond :
    aptHeaderFieldParse (stream.withBeyond beyond) =
      (aptHeaderFieldParse stream).map id (·.withBeyond beyond) := by
  have hread : aptTextHeaderRead (stream.withBeyond beyond) =
      (aptTextHeaderRead stream).map id (·.withBeyond beyond) := by
    unfold aptTextHeaderRead
    dsimp only [TextStream.withBeyond]
    split <;> rfl
  unfold aptHeaderFieldParse
  rw [hread]
  obtain ⟨pair, stream⟩ := aptTextHeaderRead stream
  cases pair with
  | none => rfl
  | some pair =>
    simp only [Prod.map_apply, id, foldedLines_withBeyond]
    rfl

theorem headerSectionLoop_withBeyond (fuel : Nat) (header : HeaderSection) :
    headerSectionLoop fuel header (stream.withBeyond beyond) =
      (headerSectionLoop fuel header stream).map id (·.map id (·.withBeyond beyond)) := by
  induction fuel generalizing header stream with
  | zero => rfl
  | succ fuel ih =>
    rw [headerSectionLoop, headerSectionLoop, aptHeaderFieldParse_withBeyond]
    generalize aptHeaderFieldParse stream = pass
    obtain ⟨pair, stream⟩ := pass
    dsimp only [Prod.map_apply, id_eq]
    have hend : (stream.withBeyond beyond).isEnd = stream.isEnd := rfl
    rw [hend, ih]
    split_ifs <;> rfl

end

/-- Each read of a header moves behind one line or marks the end of the stream;
the loop ends within as many passes as there are lines, one if there are none;
and what is behind the end of the stream makes no difference. -/
theorem header_reading_progress (stream : TextStream) :
    HeaderReadMoves stream ∧ endsWithin (max 1 (lineCount stream.rest)) stream = true ∧
    ∀ header, aptHeaderSectionParse header stream =
        headerSectionLoop (max 1 (lineCount stream.rest)) header stream ∧
      ∀ beyond, aptHeaderSectionParse header (stream.withBeyond beyond) =
        (aptHeaderSectionParse header stream).map id (·.map id (·.withBeyond beyond)) := by
  have hends : endsWithin (max 1 (lineCount stream.rest)) stream = true :=
    endsWithin_of_lineCount_le _ (Nat.le_max_left _ _) (Nat.le_max_right _ _)
  refine ⟨headerReadMoves stream, hends, fun header => ⟨?_, fun beyond => ?_⟩⟩
  · refine headerSectionLoop_of_endsWithin hends (Nat.max_le.mpr ⟨by omega, ?_⟩) header
    exact (lineCount_le_length _).trans (Nat.le_succ _)
  · exact headerSectionLoop_withBeyond beyond stream _ header

/-- Without any line there is one pass. -/
theorem empty_stream_one_pass :
    lineCount [] = 0 ∧ endsWithin 0 ⟨[], [], [], false⟩ = false ∧
      endsWithin 1 ⟨[], [], [], false⟩ = true := by
  decide

end UniMrcp.Apt
