import Mathlib.Data.List.GetD
import UniMrcp.Mrcp.StartLine

/-!
# Fields of a start line

A start line is read field by field, and its numbers are read with `atol`,
which knows nothing of the length of a field.

* `fieldRead_none`, `fieldRead_some`: what `apt_text_field_read` returns;
* `startLineClosed_iff`: the start lines that read the same whatever follows
  them in memory are those in which no number is white space up to the end of
  the line.
-/

namespace UniMrcp.Mrcp

open UniMrcp.Lib UniMrcp.Apt

/-! ## Fields of a line -/

/-- The text behind its leading spaces. -/
def skipSpaces (text : Bytes) : Bytes := text.dropWhile (· == tokenSp)

/-- The first field of a text. -/
def firstField (text : Bytes) : Bytes := (skipSpaces text).takeWhile (· != tokenSp)

/-- The text behind its first field and the space that ends it. -/
def behindField (text : Bytes) : Bytes :=
  ((skipSpaces text).dropWhile (· != tokenSp)).drop 1

theorem drop_min_one (text : Bytes) : text.drop (min 1 text.length) = text.drop 1 := by
  cases text with
  | nil => rfl
  | cons c t => simp

variable {text z : Bytes} {s t : TextStream} {line : StartLine}

theorem skipSpaces_head {c : UInt8} {t : Bytes} (h : skipSpaces text = c :: t) :
    (c == tokenSp) = false := by
  have hd := List.head?_dropWhile_not (p := (· == tokenSp)) (l := text)
  rw [skipSpaces] at h
  rw [h] at hd
  simpa using hd

theorem firstField_eq_nil_iff (text : Bytes) :
    firstField text = [] ↔ skipSpaces text = [] := by
  constructor
  · intro h
    cases hs : skipSpaces text with
    | nil => rfl
    | cons c t =>
      have hc := skipSpaces_head hs
      rw [firstField, hs, List.takeWhile_cons, bne, hc] at h
      simp at h
  · intro h
    rw [firstField, h]
    rfl

/-- The field `fieldRead` returns. -/
def fieldOf (stream : TextStream) : AptStr :=
  ⟨firstField stream.rest,
    (skipSpaces stream.rest).dropWhile (· != tokenSp) ++ stream.beyond⟩

theorem fieldOf_memory (stream : TextStream) :
    (fieldOf stream).memory = skipSpaces stream.rest ++ stream.beyond := by
  rw [AptStr.memory, fieldOf, firstField, ← List.append_assoc,
    List.takeWhile_append_dropWhile]

theorem fieldRead_none {stream : TextStream} (h : skipSpaces stream.rest = []) :
    fieldRead stream = none := by
  have hfield := (firstField_eq_nil_iff stream.rest).mpr h
  rw [firstField, skipSpaces] at hfield
  simp [fieldRead, aptTextFieldRead, hfield]

/-- A field is read and the stream moves behind it. -/
theorem fieldRead_some {stream : TextStream} (h : skipSpaces stream.rest ≠ []) :
    ∃ stream', fieldRead stream = some (fieldOf stream, stream') ∧
      stream'.rest = behindField stream.rest ∧ stream'.beyond = stream.beyond := by
  have hfield : firstField stream.rest ≠ [] :=
    fun h' => h ((firstField_eq_nil_iff stream.rest).mp h')
  rw [firstField, skipSpaces] at hfield
  refine ⟨(aptTextFieldRead tokenSp stream).2, ?_, ?_, rfl⟩
  · simp [fieldRead, aptTextFieldRead, hfield, fieldOf, firstField, skipSpaces]
  · show stream.rest.drop _ = _
    rw [← List.drop_drop, ← List.drop_drop, drop_takeWhile_length, drop_takeWhile_length,
      drop_min_one]
    rfl

/-! ## What a start line depends on -/

/-- None of the next `n` fields is white space up to the end of the text.
`atol` on such a field reads on behind the text. -/
def fieldsClosed : Nat → Bytes → Bool
  | 0, _ => true
  | n + 1, text =>
    ((skipSpaces text).isEmpty || !(skipSpaces text).all isSpace) &&
      fieldsClosed n (behindField text)

/-- How many fields behind the first one of a start line are read with
`atol`: the length and the two behind it in version 2, the request-id and the
status code in a version 1 response.  The request-id of a version 1 request
line is not counted, since such a line has to end in its version. -/
def numberFields (line : Bytes) : Nat :=
  if mrcpName.isPrefixOf (skipSpaces line) then
    match mrcpVersionParse (fieldOf (TextStream.ofStr ⟨line, []⟩)) with
    | .v1 => 2
    | .v2 => 3
    | .unknown => 0
  else 0

/-- There is nothing but white space up to the end of the text. -/
def isBlank (text : Bytes) : Bool := (skipSpaces text).all isSpace

/-- If the line is a start line, then no field of it that is read as a number
is white space up to the end of the line. -/
def startLineClosed (line : Bytes) : Bool :=
  (mrcpStartLineParse ⟨line, []⟩).isNone ||
    fieldsClosed (numberFields line) (behindField line)

/-- A stream over a line that `z`, an end of line and more, follows in memory,
and one over the same line with nothing behind it. -/
structure Alike (z : Bytes) (s t : TextStream) : Prop where
  rest_eq : s.rest = t.rest
  beyond_left : s.beyond = z
  beyond_nil : t.beyond = []
  eol : ∃ e x, isEol e = true ∧ z = e :: x

theorem isDigit_false_of_isEol {e : UInt8} (he : isEol e = true) : isDigit e = false := by
  grind [isEol, isDigit, tokenCr, tokenLf]

section

variable (h : Alike z s t)
include h

theorem Alike.text_eq : (fieldOf s).text = (fieldOf t).text := by
  simp [fieldOf, h.rest_eq]

theorem Alike.memory_left :
    ∃ e x, isEol e = true ∧ (fieldOf s).memory = skipSpaces s.rest ++ e :: x := by
  obtain ⟨e, x, he, hx⟩ := h.eol
  exact ⟨e, x, he, by rw [fieldOf_memory, h.beyond_left, hx]⟩

theorem Alike.memory_right : (fieldOf t).memory = skipSpaces s.rest := by
  rw [fieldOf_memory, h.beyond_nil, List.append_nil, h.rest_eq]

/-- Field by field, the two streams stay alike. -/
theorem Alike.next_field :
    (fieldRead s = none ∧ fieldRead t = none) ∨
      ∃ s' t', fieldRead s = some (fieldOf s, s') ∧ fieldRead t = some (fieldOf t, t') ∧
        Alike z s' t' ∧ s'.rest = behindField s.rest ∧ skipSpaces s.rest ≠ [] := by
  by_cases hs : skipSpaces s.rest = []
  · exact Or.inl ⟨fieldRead_none hs, fieldRead_none (h.rest_eq ▸ hs)⟩
  · obtain ⟨s', hs1, hs2, hs3⟩ := fieldRead_some hs
    obtain ⟨t', ht1, ht2, ht3⟩ := fieldRead_some (h.rest_eq ▸ hs)
    refine Or.inr ⟨s', t', hs1, ht1, ⟨?_, ?_, ?_, h.eol⟩, hs2, hs⟩
    · rw [hs2, ht2, h.rest_eq]
    · rw [hs3, h.beyond_left]
    · rw [ht3, h.beyond_nil]

/-- `atol` stops at the end of line once it has met a byte that is no white
space. -/
theorem Alike.strtol_eq (hs : isBlank s.rest = false) :
    strtol (fieldOf s).memory = strtol (fieldOf t).memory := by
  obtain ⟨e, x, he, hx⟩ := h.memory_left
  rw [hx, h.memory_right, strtol_append_of_stop (isDigit_false_of_isEol he) hs]

/-- A byte of the memory up to the end of the line. -/
theorem Alike.memory_getD {i : Nat} (hi : i ≤ (fieldOf s).text.length) :
    (fieldOf s).memory.getD i 0 = (fieldOf t).memory.getD i 0 ∨
      isEol ((fieldOf s).memory.getD i 0) = true ∧ (fieldOf t).memory.getD i 0 = 0 := by
  obtain ⟨e, x, he, hx⟩ := h.memory_left
  rw [hx, h.memory_right]
  have hlen : (fieldOf s).text.length ≤ (skipSpaces s.rest).length :=
    (List.takeWhile_sublist _).length_le
  rcases Nat.lt_or_eq_of_le (Nat.le_trans hi hlen) with hlt | rfl
  · exact Or.inl (List.getD_append _ _ _ _ hlt)
  · right
    rw [List.getD_append_right _ _ _ _ (Nat.le_refl _), Nat.sub_self,
      List.getD_eq_default _ _ (Nat.le_refl _)]
    exact ⟨he, rfl⟩

theorem Alike.beq_getD {i : Nat} (hi : i ≤ (fieldOf s).text.length) {c : UInt8}
    (hc : isEol c = false) (h0 : c ≠ 0) :
    ((fieldOf s).memory.getD i 0 == c) = ((fieldOf t).memory.getD i 0 == c) := by
  rcases h.memory_getD hi with heq | ⟨heol, hzero⟩
  · rw [heq]
  · have hne : (fieldOf s).memory.getD i 0 ≠ c := by
      rintro rfl
      rw [heol] at hc
      cases hc
    rw [hzero, beq_false_of_ne hne, beq_false_of_ne h0.symm]

theorem Alike.version_eq : mrcpVersionParse (fieldOf s) = mrcpVersionParse (fieldOf t) := by
  by_cases hlen : (fieldOf s).text.length ≤ 4
  · have hlen' : (fieldOf t).text.length ≤ 4 := h.text_eq ▸ hlen
    simp [mrcpVersionParse, hlen, hlen']
  · simp only [mrcpVersionParse, h.text_eq,
      h.beq_getD (i := 4) (c := 47) (by omega) (by decide) (by decide),
      h.beq_getD (i := 5) (c := 49) (by omega) (by decide) (by decide),
      h.beq_getD (i := 5) (c := 50) (by omega) (by decide) (by decide)]

end

theorem isPrefixOf_append_cons {e : UInt8} : ∀ {p : Bytes}, e ∉ p → ∀ (s x : Bytes),
    p.isPrefixOf (s ++ e :: x) = p.isPrefixOf s
  | [], _, _, _ => by simp
  | c :: p, he, [], x => by
    have hc : (c == e) = false := by
      simp only [beq_eq_false_iff_ne]
      rintro rfl
      exact he (by simp)
    simp [List.isPrefixOf, hc]
  | c :: p, he, d :: s, x => by
    have hp : e ∉ p := fun h => he (List.mem_cons_of_mem c h)
    have ih := isPrefixOf_append_cons hp s x
    simp [List.isPrefixOf, ih]

theorem Alike.isPrefixOf_eq (h : Alike z s t) :
    mrcpName.isPrefixOf (fieldOf s).memory = mrcpName.isPrefixOf (fieldOf t).memory := by
  obtain ⟨e, x, he, hx⟩ := h.memory_left
  rw [hx, h.memory_right]
  apply isPrefixOf_append_cons
  rcases Bool.or_eq_true_iff.mp he with h | h
  · rw [eq_of_beq h]; decide
  · rw [eq_of_beq h]; decide

theorem fieldsClosed_succ {n : Nat} (h : fieldsClosed (n + 1) text = true)
    (hne : skipSpaces text ≠ []) :
    isBlank text = false ∧ fieldsClosed n (behindField text) = true := by
  rw [fieldsClosed] at h
  simpa [hne, isBlank] using h

theorem mrcpRequestIdParse_congr {a b : Bytes} (h : strtol a = strtol b) :
    mrcpRequestIdParse a = mrcpRequestIdParse b := by
  rw [mrcpRequestIdParse, h, ← mrcpRequestIdParse]

theorem aptSizeValueParse_congr {a b : Bytes} (h : strtol a = strtol b) :
    aptSizeValueParse a = aptSizeValueParse b := by
  rw [aptSizeValueParse, h, ← aptSizeValueParse]

theorem Alike.state_eq (h : Alike z s t) :
    mrcpRequestStateParse (fieldOf s) = mrcpRequestStateParse (fieldOf t) := by
  rw [mrcpRequestStateParse, h.text_eq, ← mrcpRequestStateParse]

/-! ### Fields of white space -/

theorem all_isSpace_skipSpaces (h : text.all isSpace = true) :
    isBlank text = true := by
  rw [isBlank, List.all_eq_true]
  rw [List.all_eq_true] at h
  exact fun b hb => h b ((List.dropWhile_sublist _).subset hb)

/-- White space up to the end of the text in one field is white space up to
the end in the next. -/
theorem all_isSpace_behindField (h : isBlank text = true) :
    isBlank (behindField text) = true := by
  apply all_isSpace_skipSpaces
  rw [isBlank, List.all_eq_true] at h
  rw [List.all_eq_true]
  exact fun b hb => h b ((List.dropWhile_sublist _).subset (List.mem_of_mem_drop hb))

theorem strtol_all_isSpace (h : text.all isSpace = true) : strtol text = 0 := by
  have hnil : text.dropWhile isSpace = [] :=
    List.dropWhile_eq_nil_iff.mpr (List.all_eq_true.mp h)
  rw [strtol, hnil]
  decide

/-- `atol` runs over the white space and over the end of line. -/
theorem strtol_all_isSpace_append (h : text.all isSpace = true) :
    strtol (text ++ [tokenLf, 49]) = 1 := by
  have hdrop : (text ++ [tokenLf, 49]).dropWhile isSpace = [49] := by
    rw [List.dropWhile_append_of_pos (List.all_eq_true.mp h)]
    decide
  rw [strtol, hdrop]
  decide

theorem firstField_head_isSpace (h : isBlank text = true)
    (hne : skipSpaces text ≠ []) : ∃ c t, firstField text = c :: t ∧ isSpace c = true := by
  obtain ⟨c, t, ht⟩ := List.exists_cons_of_ne_nil hne
  refine ⟨c, t.takeWhile (· != tokenSp), ?_, ?_⟩
  · rw [firstField, ht, List.takeWhile_cons, bne, skipSpaces_head ht]
    rfl
  · rw [isBlank, ht] at h
    exact List.all_eq_true.mp h c (by simp)

theorem toLower_isSpace {c : UInt8} (hc : isSpace c = true) :
    (toLower c == toLower 77) = false := by
  grind [isSpace, toLower]

/-- A field that starts with white space is no version. -/
theorem mrcpVersionParse_isSpace {field : AptStr} {c : UInt8} {t : Bytes}
    (h : field.text = c :: t) (hc : isSpace c = true) : mrcpVersionParse field = .unknown := by
  have hcmp : strncasecmpEq (field.text.take 4) mrcpName = false := by
    rw [h]
    show (toLower c == toLower 77 && _) = false
    rw [toLower_isSpace hc, Bool.false_and]
  simp [mrcpVersionParse, hcmp]

/-- A version 1 request line whose request-id is white space up to the end has
no version. -/
theorem mrcpRequestLineParse_isSpace (line : StartLine)
    (hs : isBlank s.rest = true) : mrcpRequestLineParse line s = none := by
  -- the field the version is read from is white space as well
  have hver : ∀ {s : TextStream}, isBlank s.rest = true →
      fieldRead s = none ∨ ∃ s', fieldRead s = some (fieldOf s, s') ∧
        mrcpVersionParse (fieldOf s) = .unknown ∧
        isBlank s'.rest = true := by
    intro s hs
    by_cases hne : skipSpaces s.rest = []
    · exact Or.inl (fieldRead_none hne)
    · obtain ⟨s', hread, hrest, -⟩ := fieldRead_some hne
      obtain ⟨c, t, hct, hc⟩ := firstField_head_isSpace hs hne
      exact Or.inr ⟨s', hread, mrcpVersionParse_isSpace hct hc,
        hrest ▸ all_isSpace_behindField hs⟩
  rcases hver hs with h1 | ⟨s1, h1, -, hs1⟩
  · simp [mrcpRequestLineParse, h1]
  rcases hver hs1 with h2 | ⟨s2, h2, hv2, hs2⟩
  · simp [mrcpRequestLineParse, h1, h2]
  by_cases hstate : mrcpRequestStateParse (fieldOf s1) = .unknown
  · simp [mrcpRequestLineParse, h1, h2, hstate, hv2]
  rcases hver hs2 with h3 | ⟨s3, h3, hv3, -⟩
  · simp [mrcpRequestLineParse, h1, h2, hstate, h3]
  · simp [mrcpRequestLineParse, h1, h2, hstate, h3, hv3]

/-! ### The three kinds of start line -/

theorem mrcpRequestLineParse_alike (h : Alike z s t) (line : StartLine) :
    mrcpRequestLineParse line s = mrcpRequestLineParse line t := by
  by_cases hwhite : isBlank s.rest = true
  · rw [mrcpRequestLineParse_isSpace line hwhite,
      mrcpRequestLineParse_isSpace line (h.rest_eq ▸ hwhite)]
  rcases h.next_field with ⟨hs, ht⟩ | ⟨s1, t1, hs1, ht1, h1, -, -⟩
  · simp [mrcpRequestLineParse, hs, ht]
  rcases h1.next_field with ⟨hs, ht⟩ | ⟨s2, t2, hs2, ht2, h2, -, -⟩
  · simp [mrcpRequestLineParse, hs1, ht1, hs, ht]
  have hid := mrcpRequestIdParse_congr (h.strtol_eq (Bool.eq_false_of_not_eq_true hwhite))
  simp only [mrcpRequestLineParse, hs1, ht1, hs2, ht2, hid, h1.state_eq,
    Option.bind_eq_bind, Option.bind_some]
  rcases h2.next_field with ⟨hs, ht⟩ | ⟨s3, t3, hs3, ht3, -, -, -⟩
  · simp [hs, ht, h1.version_eq]
  · simp [hs3, ht3, h1.version_eq, h2.version_eq]

theorem mrcpResponseLineParse_alike (h : Alike z s t) (hv : line.version = .v1)
    (hclosed : mrcpResponseLineParse line t = none ∨ fieldsClosed 2 s.rest = true) :
    mrcpResponseLineParse line s = mrcpResponseLineParse line t := by
  rcases h.next_field with ⟨hs, ht⟩ | ⟨s1, t1, hs1, ht1, h1, hr1, hne1⟩
  · simp [mrcpResponseLineParse, hs, ht]
  rcases h1.next_field with ⟨hs, ht⟩ | ⟨s2, t2, hs2, ht2, h2, hr2, hne2⟩
  · simp [mrcpResponseLineParse, hs1, ht1, hs, ht]
  rcases h2.next_field with ⟨hs, ht⟩ | ⟨s3, t3, hs3, ht3, -, -, -⟩
  · simp [mrcpResponseLineParse, hs1, ht1, hs2, ht2, hs, ht]
  have hc : fieldsClosed 2 s.rest = true := by
    rcases hclosed with hnone | hc
    · simp [mrcpResponseLineParse, ht1, ht2, ht3, hv] at hnone
    · exact hc
  obtain ⟨hw1, hc1⟩ := fieldsClosed_succ hc hne1
  obtain ⟨hw2, -⟩ := fieldsClosed_succ (hr1 ▸ hc1) hne2
  simp [mrcpResponseLineParse, hs1, ht1, hs2, ht2, hs3, ht3, hv,
    mrcpRequestIdParse_congr (h.strtol_eq hw1), mrcpStatusCodeParse,
    aptSizeValueParse_congr (h1.strtol_eq hw2), h2.state_eq]

/-- A second field of white space makes the line a request: `atol` reads 0 and
the field does not start with a digit. -/
theorem mrcpRequestIdParse_isSpace (hbeyond : t.beyond = [])
    (hwhite : isBlank t.rest = true) (hne : skipSpaces t.rest ≠ []) :
    mrcpRequestIdParse (fieldOf t).memory = 0 ∧ (fieldOf t).text.head? ≠ some 48 := by
  constructor
  · rw [mrcpRequestIdParse, fieldOf_memory, hbeyond, List.append_nil, strtol_all_isSpace hwhite]
    decide
  · obtain ⟨c, x, hcx, hc⟩ := firstField_head_isSpace hwhite hne
    have htext : (fieldOf t).text = c :: x := hcx
    rw [htext]
    rintro h
    cases h
    cases hc

theorem mrcpV2StartLineParse_alike (h : Alike z s t) (line : StartLine)
    (hclosed : mrcpV2StartLineParse line t = none ∨ fieldsClosed 3 s.rest = true) :
    mrcpV2StartLineParse line s = mrcpV2StartLineParse line t := by
  rcases h.next_field with ⟨hs, ht⟩ | ⟨s1, t1, hs1, ht1, h1, hr1, hne1⟩
  · simp [mrcpV2StartLineParse, hs, ht]
  rcases h1.next_field with ⟨hs, ht⟩ | ⟨s2, t2, hs2, ht2, h2, hr2, hne2⟩
  · simp [mrcpV2StartLineParse, hs1, ht1, hs, ht]
  rcases h2.next_field with ⟨hs, ht⟩ | ⟨s3, t3, hs3, ht3, h3, hr3, hne3⟩
  · simp [mrcpV2StartLineParse, hs1, ht1, hs2, ht2, hs, ht]
  rcases hclosed with hnone | hc
  · -- the line is rejected for want of the last field of a response
    have hresp : ¬ (mrcpRequestIdParse (fieldOf t1).memory = 0 ∧
        (fieldOf t1).text.head? ≠ some 48) := by
      intro hreq
      cases hr : fieldRead t3 <;>
        simp [mrcpV2StartLineParse, ht1, ht2, ht3, hreq.1, hreq.2, hr] at hnone
    have hw : isBlank s1.rest = false := by
      apply Bool.eq_false_of_not_eq_true
      intro hwhite
      rw [h1.rest_eq] at hwhite hne2
      exact hresp (mrcpRequestIdParse_isSpace h1.beyond_nil hwhite hne2)
    have hid := mrcpRequestIdParse_congr (h1.strtol_eq hw)
    rcases h3.next_field with ⟨hs, ht⟩ | ⟨s4, t4, hs4, ht4, -, -, -⟩
    · simp [mrcpV2StartLineParse, hs1, ht1, hs2, ht2, hs3, ht3, hs, ht, hid, h1.text_eq, hresp]
    · simp [mrcpV2StartLineParse, ht1, ht2, ht3, ht4, hresp] at hnone
  · obtain ⟨hw1, hc1⟩ := fieldsClosed_succ hc hne1
    obtain ⟨hw2, hc2⟩ := fieldsClosed_succ (hr1 ▸ hc1) hne2
    obtain ⟨hw3, -⟩ := fieldsClosed_succ (hr2 ▸ hc2) hne3
    have hlen := aptSizeValueParse_congr (h.strtol_eq hw1)
    have hid := mrcpRequestIdParse_congr (h1.strtol_eq hw2)
    have hnum := h2.strtol_eq hw3
    rcases h3.next_field with ⟨hs, ht⟩ | ⟨s4, t4, hs4, ht4, -, -, -⟩
    · simp [mrcpV2StartLineParse, hs1, ht1, hs2, ht2, hs3, ht3, hs, ht, hlen,
        hid, h1.text_eq, mrcpRequestIdParse_congr hnum, Option.bind_eq_bind,
        mrcpStatusCodeParse]
    · simp [mrcpV2StartLineParse, hs1, ht1, hs2, ht2, hs3, ht3, hs4, ht4,
        hlen, hid, h1.text_eq, mrcpRequestIdParse_congr hnum, aptSizeValueParse_congr hnum,
        mrcpStatusCodeParse, h3.state_eq]

theorem fieldOf_memory_ofStr (line : Bytes) :
    (fieldOf (TextStream.ofStr ⟨line, []⟩)).memory = skipSpaces line := by
  rw [fieldOf_memory]
  exact List.append_nil _

/-- A closed start line reads the same whatever follows its end of line. -/
theorem mrcpStartLineParse_closed {line : Bytes} (hclosed : startLineClosed line = true)
    {e : UInt8} (he : isEol e = true) (x : Bytes) :
    mrcpStartLineParse ⟨line, e :: x⟩ = mrcpStartLineParse ⟨line, []⟩ := by
  have h : Alike (e :: x) (TextStream.ofStr ⟨line, e :: x⟩) (TextStream.ofStr ⟨line, []⟩) :=
    ⟨rfl, rfl, rfl, e, x, he, rfl⟩
  rcases h.next_field with ⟨hs, ht⟩ | ⟨s', t', hs, ht, h', hrest, -⟩
  · simp [mrcpStartLineParse, hs, ht]
  rw [startLineClosed, Bool.or_eq_true, Option.isNone_iff_eq_none, numberFields] at hclosed
  have hb : s'.rest = behindField line := hrest
  simp only [mrcpStartLineParse, hs, ht, Option.bind_eq_bind, Option.bind_some,
    h.isPrefixOf_eq, h.version_eq, fieldOf_memory_ofStr] at hclosed ⊢
  split
  · rename_i hname
    rw [if_pos hname, if_pos hname] at hclosed
    cases hv : mrcpVersionParse (fieldOf (TextStream.ofStr ⟨line, []⟩)) with
    | unknown => rfl
    | v1 =>
      rw [hv] at hclosed
      exact mrcpResponseLineParse_alike h' rfl (hb ▸ hclosed)
    | v2 =>
      rw [hv] at hclosed
      exact mrcpV2StartLineParse_alike h' _ (hb ▸ hclosed)
  · exact mrcpRequestLineParse_alike h' _

/-! ### The condition is exact -/

/-- Of `n + 1` fields that are not all closed, the last one is white space up
to the end. -/
theorem fieldsClosed_false {n : Nat} (h : fieldsClosed (n + 1) text = false) :
    isBlank (behindField^[n] text) = true := by
  induction n generalizing text with
  | zero =>
    simp only [fieldsClosed, Bool.and_true, Bool.or_eq_false_iff, Bool.not_eq_false'] at h
    exact h.2
  | succ n ih =>
    rw [fieldsClosed, Bool.and_eq_false_iff, Bool.or_eq_false_iff, Bool.not_eq_false'] at h
    rcases h with ⟨-, hwhite⟩ | hrest
    · have hall : ∀ k, isBlank (behindField^[k] text) = true := by
        intro k
        induction k with
        | zero => exact hwhite
        | succ k ihk =>
          rw [Function.iterate_succ_apply']
          exact all_isSpace_behindField ihk
      exact hall (n + 1)
    · exact ih hrest

section

variable (h : Alike [tokenLf, 49] s t)
include h

/-- A field of white space reads as 0 at the end of memory and as 1 if a line
that starts with 1 follows. -/
theorem Alike.strtol_isSpace (hwhite : isBlank s.rest = true) :
    strtol (fieldOf s).memory = 1 ∧ strtol (fieldOf t).memory = 0 := by
  constructor
  · rw [fieldOf_memory, h.beyond_left, strtol_all_isSpace_append hwhite]
  · rw [h.memory_right, strtol_all_isSpace hwhite]

theorem Alike.statusCode_isSpace (hwhite : isBlank s.rest = true) :
    mrcpStatusCodeParse (fieldOf s).memory = 1 ∧ mrcpStatusCodeParse (fieldOf t).memory = 0 := by
  obtain ⟨hone, hzero⟩ := h.strtol_isSpace hwhite
  rw [mrcpStatusCodeParse, mrcpStatusCodeParse, aptSizeValueParse, aptSizeValueParse, hone, hzero]
  decide

theorem mrcpResponseLineParse_open (hv : line.version = .v1)
    (hsome : mrcpResponseLineParse line t ≠ none) (hopen : fieldsClosed 2 s.rest = false) :
    mrcpResponseLineParse line s ≠ mrcpResponseLineParse line t := by
  rcases h.next_field with ⟨-, ht⟩ | ⟨s1, t1, hs1, ht1, h1, hr1, -⟩
  · simp [mrcpResponseLineParse, ht] at hsome
  rcases h1.next_field with ⟨-, ht⟩ | ⟨s2, t2, hs2, ht2, h2, -, -⟩
  · simp [mrcpResponseLineParse, ht1, ht] at hsome
  rcases h2.next_field with ⟨-, ht⟩ | ⟨s3, t3, hs3, ht3, -, -, -⟩
  · simp [mrcpResponseLineParse, ht1, ht2, ht] at hsome
  have hwhite : isBlank s1.rest = true := hr1 ▸ fieldsClosed_false hopen
  have hcode := h1.statusCode_isSpace hwhite
  simp [mrcpResponseLineParse, hs1, ht1, hs2, ht2, hs3, ht3, hv, hcode]

theorem mrcpV2StartLineParse_open (hsome : mrcpV2StartLineParse line t ≠ none)
    (hopen : fieldsClosed 3 s.rest = false) :
    mrcpV2StartLineParse line s ≠ mrcpV2StartLineParse line t := by
  rcases h.next_field with ⟨-, ht⟩ | ⟨s1, t1, hs1, ht1, h1, hr1, -⟩
  · simp [mrcpV2StartLineParse, ht] at hsome
  rcases h1.next_field with ⟨-, ht⟩ | ⟨s2, t2, hs2, ht2, h2, hr2, hne2⟩
  · simp [mrcpV2StartLineParse, ht1, ht] at hsome
  rcases h2.next_field with ⟨-, ht⟩ | ⟨s3, t3, hs3, ht3, h3, -, -⟩
  · simp [mrcpV2StartLineParse, ht1, ht2, ht] at hsome
  have hwhite : isBlank s2.rest = true := hr2 ▸ hr1 ▸ fieldsClosed_false hopen
  obtain ⟨hone, hzero⟩ := h2.strtol_isSpace hwhite
  have hid : mrcpRequestIdParse (fieldOf s2).memory = 1 ∧
      mrcpRequestIdParse (fieldOf t2).memory = 0 := by
    rw [mrcpRequestIdParse, mrcpRequestIdParse, hone, hzero]
    decide
  have hcode := h2.statusCode_isSpace hwhite
  cases hw : isBlank s1.rest with
  | true =>
    -- the method name is white space too: a request, or a response if 1 follows
    rw [h1.rest_eq] at hne2
    obtain ⟨hreq, hhead⟩ := mrcpRequestIdParse_isSpace h1.beyond_nil (h1.rest_eq ▸ hw) hne2
    have hresp : mrcpRequestIdParse (fieldOf s1).memory = 1 := by
      rw [mrcpRequestIdParse, (h1.strtol_isSpace hw).1]
      decide
    rcases h3.next_field with ⟨hs4, ht4⟩ | ⟨s4, t4, hs4, ht4, -, -, -⟩ <;>
      simp [mrcpV2StartLineParse, hs1, ht1, hs2, ht2, hs3, ht3, hs4, ht4, hreq, hhead, hresp]
  | false =>
    -- the kind of the line is the same, the number in its fourth field is not
    have hkind := mrcpRequestIdParse_congr (h1.strtol_eq hw)
    by_cases hreq : mrcpRequestIdParse (fieldOf t1).memory = 0 ∧ (fieldOf t1).text.head? ≠ some 48
    · rcases h3.next_field with ⟨hs4, ht4⟩ | ⟨s4, t4, hs4, ht4, -, -, -⟩ <;>
        simp [mrcpV2StartLineParse, hs1, ht1, hs2, ht2, hs3, ht3, hs4, ht4, hkind, h1.text_eq,
          hreq, hid]
    · rcases h3.next_field with ⟨-, ht4⟩ | ⟨s4, t4, hs4, ht4, -, -, -⟩
      · simp [mrcpV2StartLineParse, ht1, ht2, ht3, ht4, hreq] at hsome
      · simp [mrcpV2StartLineParse, hs1, ht1, hs2, ht2, hs3, ht3, hs4, ht4, hkind, h1.text_eq,
          hreq, hcode]

end

theorem mrcpStartLineParse_open {line : Bytes} (hopen : startLineClosed line = false) :
    mrcpStartLineParse ⟨line, [tokenLf, 49]⟩ ≠ mrcpStartLineParse ⟨line, []⟩ := by
  have h : Alike [tokenLf, 49] (TextStream.ofStr ⟨line, [tokenLf, 49]⟩)
      (TextStream.ofStr ⟨line, []⟩) := ⟨rfl, rfl, rfl, tokenLf, [49], rfl, rfl⟩
  rw [startLineClosed, Bool.or_eq_false_iff, Option.isNone_eq_false_iff,
    Option.isSome_iff_ne_none, numberFields] at hopen
  rcases h.next_field with ⟨-, ht⟩ | ⟨s', t', hs, ht, h', hrest, -⟩
  · simp [mrcpStartLineParse, ht] at hopen
  have hb : s'.rest = behindField line := hrest
  simp only [mrcpStartLineParse, hs, ht, Option.bind_eq_bind, Option.bind_some,
    h.isPrefixOf_eq, h.version_eq, fieldOf_memory_ofStr] at hopen ⊢
  split
  · rename_i hname
    rw [if_pos hname, if_pos hname] at hopen
    cases hv : mrcpVersionParse (fieldOf (TextStream.ofStr ⟨line, []⟩)) with
    | unknown => simp [hv] at hopen
    | v1 =>
      rw [hv] at hopen
      exact mrcpResponseLineParse_open h' rfl hopen.1 (hb ▸ hopen.2)
    | v2 =>
      rw [hv] at hopen
      exact mrcpV2StartLineParse_open h' hopen.1 (hb ▸ hopen.2)
  · rename_i hname
    rw [if_neg hname, if_neg hname] at hopen
    cases hopen.2

/-- The closed lines are exactly those that read the same whatever follows
their end of line. -/
theorem startLineClosed_iff {line : Bytes} :
    startLineClosed line = true ↔ ∀ e x, isEol e = true →
      mrcpStartLineParse ⟨line, e :: x⟩ = mrcpStartLineParse ⟨line, []⟩ := by
  constructor
  · intro h e x he
    exact mrcpStartLineParse_closed h he x
  · intro h
    cases hclosed : startLineClosed line with
    | true => rfl
    | false => exact absurd (h tokenLf [49] rfl) (mrcpStartLineParse_open hclosed)

end UniMrcp.Mrcp
