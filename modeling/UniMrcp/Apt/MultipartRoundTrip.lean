import UniMrcp.Apt.HeaderValues
import UniMrcp.Apt.MultipartText

/-!
# Multipart round trip

Parts that are added to a multipart content, finalized and got again.

* `get_part`, `get_final`: the reader takes a part off the text, and the end;
* `get_part_inv`: a part the reader returns has values that a line can carry
  and a body that does not start with white space;
* `multipart_round_trips_iff`: so the parts come back exactly if they are of this kind;
* `gets_in_bounds_iff`: when the reader stays in the text.
-/

namespace UniMrcp.Apt

open UniMrcp.Lib

/-- `count` calls that return a part each, and a last one that returns the
end. -/
def getParts : Nat → MultipartReader → Option (List ContentPart)
  | 0, m =>
    match aptMultipartContentGet m with
    | some (.final, _) => some []
    | _ => none
  | count + 1, m =>
    match aptMultipartContentGet m with
    | some (.part part, m) => (getParts count m).map (part :: ·)
    | _ => none

/-- What a part that was got says of the one that was added. -/
def ContentPart.added (part : ContentPart) : Option PartToAdd :=
  part.type.map (fun type => ⟨type, part.id, part.body⟩)

/-- The parts come back, in order and followed by the end, whether the reader
is told the boundary or learns it. -/
def MultipartRoundTrips (maxContentSize : Nat) (boundary : Bytes) (parts : List PartToAdd) : Prop :=
  ∃ text ∈ multipartGenerate maxContentSize boundary parts,
    ∀ known ∈ [some boundary, none],
      (getParts parts.length (aptMultipartContentAssign text known)).map
        (List.map ContentPart.added) = some (parts.map some)

/-! ## Reading -/

/-- A part that survives: values a line can carry, and a body that does not
look like a folded line and has a length that `atoi` can read. -/
structure WirePart (part : PartToAdd) : Prop where
  type : WireValue part.type
  id : ∀ id ∈ part.id, WireValue id
  body : ∀ c ∈ part.body.head?, aptTextIsWsp c = false
  length : part.body.length < 2 ^ 31

/-- A boundary that the scanner of the reader does not change. -/
structure ScannedBoundary (boundary : Bytes) : Prop where
  first : ∀ c ∈ boundary.head?, c ≠ 45
  last : ∀ c ∈ boundary.getLast?, c ≠ tokenSp ∧ c ≠ 45

theorem wireField_of_value {name value : Bytes} (hvalue : WireValue value)
    (hname : name ∈ [contentTypeHeader, contentIdHeader, contentLengthHeader]) :
    WireField (name, value) := by
  have hall : ∀ n ∈ [contentTypeHeader, contentIdHeader, contentLengthHeader],
      n ≠ [] ∧ (∀ c ∈ n, c ≠ 58) ∧ (∀ c ∈ n, isEol c = false) ∧
        ∀ c ∈ n.head?, aptTextIsWsp c = false := by decide +kernel
  obtain ⟨hne, hcolon, heol, hwsp⟩ := hall name hname
  exact ⟨hne, hcolon, heol, hwsp, hvalue.eol, hvalue.wsp⟩

variable {part : PartToAdd} {boundary known : Bytes} {m : MultipartReader}

theorem WirePart.fields (h : WirePart part) : ∀ pair ∈ part.fields, WireField pair := by
  intro pair hpair
  simp only [PartToAdd.fields, List.mem_cons, List.mem_append, Option.mem_toList,
    Option.map_eq_some_iff, List.not_mem_nil, or_false] at hpair
  rcases hpair with rfl | ⟨id, hid, rfl⟩ | rfl
  · exact wireField_of_value h.type (by simp)
  · exact wireField_of_value (h.id id hid) (by simp)
  · exact wireField_of_value (wireValue_decimal _) (by simp)

theorem atoi_decimal {n : Nat} (h : n < 2 ^ 31) : atoi (decimal n) = n := by
  have hread : strtol (decimal n) = n := by
    have happend := strtol_decimal_append (n := n) (t := []) (by omega) (by simp)
    rwa [List.append_nil] at happend
  rw [atoi, hread]
  apply Int.bmod_eq_of_le <;> omega

/-- The header fields of a part are assigned to its type, id and length. -/
theorem foldl_partFieldAssign (part : PartToAdd) :
    ∃ header, (appendFields HeaderSection.empty part.fields).ring.foldl partFieldAssign
      { aptContentPartReset with header := appendFields HeaderSection.empty part.fields } =
      ⟨header, [], some part.type, part.id, some (decimal part.body.length)⟩ := by
  have hlength : strncmpEq contentLengthHeader.length contentLengthHeader contentLengthHeader =
      true := by decide +kernel
  have htype : strncmpEq contentTypeHeader.length contentTypeHeader contentLengthHeader = false ∧
      strncmpEq contentTypeHeader.length contentTypeHeader contentTypeHeader = true := by
    decide +kernel
  have hid : strncmpEq contentIdHeader.length contentIdHeader contentLengthHeader = false ∧
      strncmpEq contentIdHeader.length contentIdHeader contentTypeHeader = false ∧
      strncmpEq contentIdHeader.length contentIdHeader contentIdHeader = true := by
    decide +kernel
  refine ⟨appendFields HeaderSection.empty part.fields, ?_⟩
  obtain ⟨type, _ | id, body⟩ := part
  · simp [PartToAdd.fields, appendFields, headerFieldAppend, aptHeaderFieldAlloc,
      aptHeaderSectionFieldAdd, HeaderSection.empty, aptContentPartReset, partFieldAssign,
      hlength, htype]
  · simp [PartToAdd.fields, appendFields, headerFieldAppend, aptHeaderFieldAlloc,
      aptHeaderSectionFieldAdd, HeaderSection.empty, aptContentPartReset, partFieldAssign,
      hlength, htype, hid]

/-- The header section and the body of a part are read. -/
theorem partRead_part (h : WirePart part) (B boundary : Bytes) {tail : Bytes}
    (htail : ∀ c ∈ tail.head?, aptTextIsWsp c = false) :
    ∃ got B', partRead ⟨⟨B, headerText part.fields ++ crlf ++ (part.body ++ tail), [], false⟩,
        boundary⟩ = some (.part got, ⟨⟨B', tail, [], false⟩, boundary⟩) ∧
      got.added = some part := by
  have hfuel : part.fields.length <
      (headerText part.fields ++ crlf ++ (part.body ++ tail)).length + 1 := by
    have hlen : ∀ pairs : List (Bytes × Bytes), pairs.length ≤ (headerText pairs).length := by
      intro pairs
      induction pairs with
      | nil => exact Nat.le_refl _
      | cons pair pairs ih =>
        rw [headerText_cons_length, List.length_cons]
        omega
    have hpairs := hlen part.fields
    simp only [List.length_append]
    omega
  obtain ⟨B', hparse⟩ := headerSectionLoop_headerText h.fields HeaderSection.empty B
    (part.body ++ tail) hfuel
  rw [foldedLines_stop (forall_head?_append h.body htail)] at hparse
  obtain ⟨header, hfold⟩ := foldl_partFieldAssign part
  have hdigits : (decimal part.body.length).isEmpty = false := by
    simpa using decimal_ne_nil part.body.length
  refine ⟨⟨header, part.body, some part.type, part.id, some (decimal part.body.length)⟩,
    B' ++ part.body, ?_, rfl⟩
  simp only [partRead, aptHeaderSectionParse, aptContentPartReset] at hfold ⊢
  rw [hparse]
  simp only [hfold, partBodyRead, hdigits, atoi_decimal h.length, Bool.false_eq_true, if_false,
    Int.toNat_natCast, List.length_append, TextStream.advance, List.take_left, List.drop_left]
  rw [if_neg (by omega), if_neg (by omega)]

theorem boundaryOfLine_boundary (h : ∀ c ∈ boundary.getLast?, c ≠ tokenSp ∧ c ≠ 45) :
    boundaryOfLine boundary = (boundary, false) := by
  have htrim : boundary.rdropWhile (· == tokenSp) = boundary := by
    rw [List.rdropWhile_eq_self_iff]
    intro hne
    have := (h _ (List.getLast?_eq_getLast_of_ne_nil hne)).1
    simpa using this
  have hsuffix : defaultHyphens.isSuffixOf boundary = false := by
    rw [Bool.eq_false_iff, ne_eq, List.isSuffixOf_iff_suffix]
    rintro ⟨front, rfl⟩
    exact (h 45 (by simp [defaultHyphens, bytesOf, byteOfChar])).2 rfl
  simp [boundaryOfLine, htrim, hsuffix]

theorem boundaryOfLine_final (boundary : Bytes) :
    boundaryOfLine (boundary ++ defaultHyphens) = (boundary, true) := by
  have htrim : (boundary ++ defaultHyphens).rdropWhile (· == tokenSp) =
      boundary ++ defaultHyphens := by
    rw [List.rdropWhile_eq_self_iff]
    intro hne
    simp [defaultHyphens, bytesOf, byteOfChar, tokenSp]
  have hlength : defaultHyphens.length = 2 := rfl
  simp [boundaryOfLine, htrim, hlength]

theorem aptStringCompare_self {str : Bytes} (h : str ≠ []) : aptStringCompare str str = true := by
  have hall : ∀ s : Bytes, strncasecmpEq s s = true := by
    intro s
    induction s with
    | nil => rfl
    | cons c s ih => simp [strncasecmpEq, ih]
  simp [aptStringCompare, hall, h]

/-- The reader finds what stands behind the hyphens. -/
theorem get_scan (B known : Bytes) {rest : Bytes} (hne : rest ≠ [])
    (hstop : ∀ c ∈ rest.head?, c ≠ 45) :
    aptMultipartContentGet ⟨⟨B, crlf ++ (defaultHyphens ++ rest), [], false⟩, known⟩ =
      match aptTextLineRead ⟨B ++ crlf ++ defaultHyphens, rest, [], false⟩ with
      | (false, _, stream) => some (.failed, ⟨stream, known⟩)
      | (true, line, stream) => boundaryRead line.text ⟨stream, known⟩ := by
  have hskip : aptTextSkipToChar 45 ⟨B, crlf ++ (defaultHyphens ++ rest), [], false⟩ =
      ⟨B ++ crlf, defaultHyphens ++ rest, [], false⟩ := by
    simp [aptTextSkipToChar, TextStream.advance, crlf, defaultHyphens, bytesOf, byteOfChar,
      tokenCr, tokenLf]
  have hchars : aptTextCharsSkip 45 ⟨B ++ crlf, defaultHyphens ++ rest, [], false⟩ =
      ⟨B ++ crlf ++ defaultHyphens, rest, [], false⟩ := by
    have hrun : (defaultHyphens ++ rest).takeWhile (· == 45) = defaultHyphens :=
      takeWhile_append_of_stop (by decide +kernel) (fun c hc => by simpa using hstop c hc)
    simp [aptTextCharsSkip, hrun, TextStream.advance]
  have hend : (⟨B ++ crlf, defaultHyphens ++ rest, [], false⟩ : TextStream).isEnd = false := rfl
  have hend' : (⟨B ++ crlf ++ defaultHyphens, rest, [], false⟩ : TextStream).isEnd = false := by
    simp [TextStream.isEnd, hne]
  rcases hread : aptTextLineRead ⟨B ++ crlf ++ defaultHyphens, rest, [], false⟩ with
    ⟨_ | _, line, stream⟩ <;>
  simp only [aptMultipartContentGet, hskip, hend, Bool.false_eq_true, if_false, hchars, hend',
    hread]

/-- The line of a boundary is read. -/
theorem get_line (B known tail : Bytes) {line : Bytes} (hfirst : ∀ c ∈ line.head?, c ≠ 45)
    (heol : ∀ c ∈ line, isEol c = false) :
    ∃ B', aptMultipartContentGet
        ⟨⟨B, crlf ++ (defaultHyphens ++ (line ++ (crlf ++ tail))), [], false⟩, known⟩ =
      boundaryRead line ⟨⟨B', tail, [], false⟩, known⟩ := by
  have hstop : ∀ c ∈ (line ++ (crlf ++ tail)).head?, c ≠ 45 :=
    forall_head?_append hfirst (by simp [crlf, tokenCr])
  have hread := aptTextLineRead_line (B ++ crlf ++ defaultHyphens) heol
    (show isEol tokenCr = true from rfl) (tokenLf :: tail)
  refine ⟨B ++ crlf ++ defaultHyphens ++ line ++ crlf, ?_⟩
  rw [get_scan B known (by simp [crlf]) hstop]
  rw [show line ++ (crlf ++ tail) = line ++ tokenCr :: tokenLf :: tail from rfl, hread]
  rfl

/-- What the reader does once it has a boundary that it knows or learns. -/
theorem boundaryRead_known {line : Bytes} {isFinal : Bool}
    (hline : boundaryOfLine line = (boundary, isFinal)) (hknown : known = boundary ∨ known = [])
    (stream : TextStream) :
    boundaryRead line ⟨stream, known⟩ =
      if isFinal then some (.final, ⟨stream, boundary⟩) else partRead ⟨stream, boundary⟩ := by
  unfold boundaryRead
  rw [hline]
  by_cases hempty : known = []
  · subst hempty
    rfl
  · obtain rfl : known = boundary := by
      rcases hknown with h | h
      · exact h
      · exact absurd h hempty
    simp [aptStringCompare_self hempty]

section

variable (hscan : ScannedBoundary boundary) (heol : ∀ c ∈ boundary, isEol c = false)
include hscan heol

/-- The reader takes a part off the text. -/
theorem get_part (h : WirePart part) (hknown : known = boundary ∨ known = []) (B : Bytes)
    {tail : Bytes} (htail : ∀ c ∈ tail.head?, aptTextIsWsp c = false) :
    ∃ got B', aptMultipartContentGet ⟨⟨B, part.text boundary ++ tail, [], false⟩, known⟩ =
        some (.part got, ⟨⟨B', tail, [], false⟩, boundary⟩) ∧
      got.added = some part := by
  have htext : part.text boundary ++ tail = crlf ++ (defaultHyphens ++ (boundary ++
      (crlf ++ (headerText part.fields ++ crlf ++ (part.body ++ tail))))) := by
    simp [PartToAdd.text]
  obtain ⟨B₁, hget⟩ := get_line B known
    (headerText part.fields ++ crlf ++ (part.body ++ tail)) hscan.first heol
  obtain ⟨got, B₂, hread, hadded⟩ := partRead_part h B₁ boundary htail
  refine ⟨got, B₂, ?_, hadded⟩
  rw [htext, hget, boundaryRead_known (boundaryOfLine_boundary hscan.last) hknown]
  exact hread

/-- The reader recognizes the end, if there is a boundary. -/
theorem get_final (hne : boundary ≠ []) (hknown : known = boundary ∨ known = []) (B : Bytes) :
    ∃ m, aptMultipartContentGet ⟨⟨B, finalText boundary, [], false⟩, known⟩ =
      some (.final, m) := by
  have htext : finalText boundary =
      crlf ++ (defaultHyphens ++ ((boundary ++ defaultHyphens) ++ (crlf ++ []))) := by
    simp [finalText]
  have hfirst : ∀ c ∈ (boundary ++ defaultHyphens).head?, c ≠ 45 := by
    intro c hc
    rw [List.head?_append_of_ne_nil _ hne] at hc
    exact hscan.first c hc
  have heol' : ∀ c ∈ boundary ++ defaultHyphens, isEol c = false :=
    List.forall_mem_append.mpr ⟨heol, by decide +kernel⟩
  obtain ⟨B₁, hget⟩ := get_line B known [] hfirst heol'
  rw [htext, hget, boundaryRead_known (boundaryOfLine_final boundary) hknown]
  exact ⟨_, rfl⟩

end

/-- The end of a content without a boundary is not recognized. -/
theorem get_final_unbounded (B : Bytes) :
    ∃ m, aptMultipartContentGet ⟨⟨B, finalText [], [], false⟩, []⟩ = some (.failed, m) := by
  simp [aptMultipartContentGet, aptTextSkipToChar, aptTextCharsSkip, finalText, crlf,
    defaultHyphens, bytesOf, byteOfChar, TextStream.advance, TextStream.isEnd, aptTextLineRead,
    boundaryRead, boundaryOfLine, partRead, tokenCr, tokenLf, isEol, eolLength,
    aptHeaderSectionParse, headerSectionLoop, aptHeaderFieldParse, aptTextHeaderRead]

theorem multipartText_head (boundary : Bytes) (parts : List PartToAdd) :
    ∀ c ∈ (multipartText boundary parts).head?, aptTextIsWsp c = false := by
  intro c hc
  obtain rfl : tokenCr = c := by
    cases parts <;> simpa [multipartText, finalText, PartToAdd.text, crlf] using hc
  decide

/-- The reader takes the parts off the text, up to the end. -/
theorem getParts_multipartText (hscan : ScannedBoundary boundary)
    (heol : ∀ c ∈ boundary, isEol c = false) {parts : List PartToAdd}
    (h : ∀ part ∈ parts, WirePart part) (hknown : known = boundary ∨ known = []) (B : Bytes) :
    (getParts parts.length ⟨⟨B, multipartText boundary parts, [], false⟩, known⟩).map
      (List.map ContentPart.added) = if boundary = [] then none else some (parts.map some) := by
  induction parts generalizing known B with
  | nil =>
    by_cases hne : boundary = []
    · subst hne
      obtain rfl : known = [] := by simpa using hknown
      obtain ⟨m, hget⟩ := get_final_unbounded B
      have htext : multipartText [] [] = finalText [] := rfl
      simp [getParts, htext, hget]
    · obtain ⟨m, hget⟩ := get_final hscan heol hne hknown B
      have htext : multipartText boundary [] = finalText boundary := rfl
      simp [getParts, htext, hget, hne]
  | cons part parts ih =>
    have htext := multipartText_cons boundary part parts
    obtain ⟨got, B', hget, hadded⟩ := get_part hscan heol (h part List.mem_cons_self) hknown B
      (multipartText_head boundary parts)
    have hrest := ih (fun p hp => h p (List.mem_cons_of_mem _ hp)) (.inl rfl) B'
    simp only [List.length_cons, getParts]
    cases hgot : getParts parts.length
        ⟨⟨B', multipartText boundary parts, [], false⟩, boundary⟩ with
    | none =>
      by_cases hne : boundary = [] <;> simp_all
    | some gots =>
      by_cases hne : boundary = [] <;> simp_all

/-! ## What can be read -/

theorem aptTextLineRead_length_lt {stream stream' : TextStream} {line : AptStr}
    (h : aptTextLineRead stream = (true, line, stream')) :
    stream'.rest.length < stream.rest.length := by
  rcases line_cases stream.rest with hnone | ⟨text, e, tail, hrest, htext, he⟩
  · simp [aptTextLineRead, dropWhile_noEol hnone] at h
  · simp only [aptTextLineRead, hrest, takeWhile_line htext he, dropWhile_line htext he] at h
    cases h
    have hlt := eolRest_length_lt e tail
    simp only [eolRest, TextStream.advance, hrest, List.length_drop, List.length_append] at hlt ⊢
    omega

/-- The type and the id of a part are values of its header section. -/
theorem foldl_partFieldAssign_values {P : Bytes → Prop} (fields : List HeaderField)
    (hfields : ∀ field ∈ fields, P field.value) (part : ContentPart)
    (htype : ∀ type ∈ part.type, P type) (hid : ∀ id ∈ part.id, P id) :
    (∀ type ∈ (fields.foldl partFieldAssign part).type, P type) ∧
      (∀ id ∈ (fields.foldl partFieldAssign part).id, P id) ∧
      (fields.foldl partFieldAssign part).body = part.body := by
  refine List.foldlRecOn fields partFieldAssign (motive := fun got =>
    (∀ type ∈ got.type, P type) ∧ (∀ id ∈ got.id, P id) ∧ got.body = part.body)
    ⟨htype, hid, rfl⟩ fun got hgot field hfield => ?_
  obtain ⟨htype, hid, hbody⟩ := hgot
  have hvalue : ∀ value ∈ some field.value, P value := by
    rintro _ ⟨⟩
    exact hfields field hfield
  unfold partFieldAssign
  split_ifs
  · exact ⟨htype, hid, hbody⟩
  · exact ⟨hvalue, hid, hbody⟩
  · exact ⟨htype, hvalue, hbody⟩
  · exact ⟨htype, hid, hbody⟩

/-- The text goes on with a part: a line with the boundary behind hyphens, not
the final one, and a header section that can be read. -/
def PartAhead (m : MultipartReader) (header : HeaderSection) (behind : TextStream) : Prop :=
  (aptTextCharsSkip 45 (aptTextSkipToChar 45 m.stream)).isEnd = false ∧ ∃ line stream,
    aptTextLineRead (aptTextCharsSkip 45 (aptTextSkipToChar 45 m.stream)) = (true, line, stream) ∧
    (m.boundary = [] ∨ aptStringCompare m.boundary (boundaryOfLine line.text).1 = true) ∧
    (boundaryOfLine line.text).2 = false ∧
    aptHeaderSectionParse aptContentPartReset.header stream = (true, header, behind)

/-- The part that the fields of a header section describe. -/
def partOf (header : HeaderSection) : ContentPart :=
  header.ring.foldl partFieldAssign { aptContentPartReset with header }

/-- A get comes to the body of the part ahead. -/
theorem PartAhead.get {m : MultipartReader} {header : HeaderSection} {behind : TextStream}
    (h : PartAhead m header behind) :
    ∃ m', aptMultipartContentGet m = partBodyRead (partOf header) m' := by
  obtain ⟨hend, line, stream, hread, hboundary, hfinal, hparse⟩ := h
  have hstart : (aptTextSkipToChar 45 m.stream).isEnd = false := by
    cases hrest : (aptTextSkipToChar 45 m.stream).rest <;>
      simp_all [TextStream.isEnd, aptTextCharsSkip, TextStream.advance]
  refine ⟨⟨behind, if m.boundary.isEmpty then (boundaryOfLine line.text).1 else m.boundary⟩, ?_⟩
  rcases hboundary with hnone | hsame
  · simp [aptMultipartContentGet, hstart, hend, hread, boundaryRead, hnone, hfinal, partRead,
      hparse, partOf]
  · by_cases hnone : m.boundary = [] <;>
      simp [aptMultipartContentGet, hstart, hend, hread, boundaryRead, hnone, hsame, hfinal,
        partRead, hparse, partOf]

/-- What a get does: it fails, it comes to the end, or it comes to the body of a
part. -/
theorem get_cases (m : MultipartReader) :
    (∃ answer m', aptMultipartContentGet m = some (answer, m') ∧ m'.stream.rest <:+ m.stream.rest ∧
      (answer ≠ .failed → m'.stream.rest.length < m.stream.rest.length) ∧
      ∀ part, answer ≠ .part part) ∨
    ∃ header m', PartAhead m header m'.stream ∧
      aptMultipartContentGet m = partBodyRead (partOf header) m' ∧
      m'.stream.rest <:+ m.stream.rest ∧ m'.stream.rest.length < m.stream.rest.length := by
  have hskip : (aptTextCharsSkip 45 (aptTextSkipToChar 45 m.stream)).rest <:+ m.stream.rest :=
    (List.drop_suffix _ _).trans (List.drop_suffix _ _)
  have hline := (aptTextLineRead_suffix _).trans hskip
  unfold aptMultipartContentGet
  dsimp only
  split
  · exact .inl ⟨_, _, rfl, List.drop_suffix _ _, fun h => absurd rfl h, nofun⟩
  split
  · exact .inl ⟨_, _, rfl, hskip, fun h => absurd rfl h, nofun⟩
  rename_i hend
  split <;> rename_i hread <;> rw [hread] at hline
  · exact .inl ⟨_, _, rfl, hline, fun h => absurd rfl h, nofun⟩
  rename_i line stream
  have hlt := (aptTextLineRead_length_lt hread).trans_le hskip.length_le
  unfold boundaryRead
  dsimp only
  split
  · exact .inl ⟨_, _, rfl, hline, fun h => absurd rfl h, nofun⟩
  rename_i hboundary
  generalize hm : (if m.boundary.isEmpty = true then _ else _) = m₁
  have hstream : m₁.stream = stream := by
    rw [← hm]
    split <;> rfl
  subst hstream
  split
  · exact .inl ⟨_, _, rfl, hline, fun _ => hlt, nofun⟩
  rename_i hfinal
  have hheader : (aptHeaderSectionParse aptContentPartReset.header m₁.stream).2.2.rest <:+ _ :=
    headerSectionLoop_suffix _ _ m₁.stream
  unfold partRead
  split <;> rename_i hparse <;> rw [hparse] at hheader
  · exact .inl ⟨_, _, rfl, hheader.trans hline, fun h => absurd rfl h, nofun⟩
  · have hahead : PartAhead m _ _ := ⟨by simpa using hend, line, m₁.stream, hread,
      by simpa [or_iff_not_imp_left] using hboundary, by simpa using hfinal, hparse⟩
    exact .inr ⟨_, { m₁ with stream := _ }, hahead, rfl, hheader.trans hline,
      hheader.length_le.trans_lt hlt⟩

/-- The length that a part declares, as the reader understands it. -/
def ContentPart.declaredLength (part : ContentPart) : Int := atoi (part.length.getD [])

/-- Unless the length is negative a body is read, which is a piece of the text. -/
theorem partBodyRead_cases {part : ContentPart} (hbody : part.body = []) (m : MultipartReader) :
    part.declaredLength < 0 ∧ partBodyRead part m = none ∨
      0 ≤ part.declaredLength ∧ ∃ answer m', partBodyRead part m = some (answer, m') ∧
        m'.stream.rest <:+ m.stream.rest ∧ ∀ got, answer = .part got →
          got.type = part.type ∧ got.id = part.id ∧ got.body.length < 2 ^ 31 ∧
            ∃ n, got.body = m.stream.rest.take n := by
  have hempty : ∀ got, MultipartAnswer.part part = .part got →
      got.type = part.type ∧ got.id = part.id ∧ got.body.length < 2 ^ 31 ∧
        ∃ n, got.body = m.stream.rest.take n := by
    rintro _ ⟨⟩
    rw [hbody]
    exact ⟨rfl, rfl, by decide, 0, rfl⟩
  unfold partBodyRead ContentPart.declaredLength
  cases part.length with
  | none => exact .inr ⟨by decide, _, _, rfl, List.suffix_rfl, hempty⟩
  | some value =>
    dsimp only [Option.getD_some]
    split
    · next hnil =>
      rw [List.isEmpty_iff.mp hnil]
      exact .inr ⟨by decide, _, _, rfl, List.suffix_rfl, hempty⟩
    · split
      · exact .inl ⟨‹_›, rfl⟩
      · refine .inr ⟨not_lt.mp ‹_›, ?_⟩
        split
        · exact ⟨_, _, rfl, List.suffix_rfl, nofun⟩
        · refine ⟨_, _, rfl, List.drop_suffix _ _, ?_⟩
          rintro _ ⟨⟩
          refine ⟨rfl, rfl, ?_, _, rfl⟩
          have hatoi : atoi value < 2 ^ 31 := Int.bmod_lt (by omega)
          rw [List.length_take]
          omega

/-- A part that the reader returns is one that survives. -/
theorem get_part_inv {m' : MultipartReader} {got : ContentPart}
    (h : aptMultipartContentGet m = some (.part got, m')) (hadded : got.added = some part) :
    WirePart part := by
  rcases get_cases m with ⟨answer, _, hget, -, -, hnone⟩ |
      ⟨header, m₁, ⟨-, _, _, -, -, -, hparse⟩, hget, -⟩
  · cases hget.symm.trans h
    exact absurd rfl (hnone got)
  obtain ⟨hvalues, hhead⟩ := headerSectionLoop_wireValue _ (by simp [aptContentPartReset,
    HeaderSection.empty]) hparse
  obtain ⟨htype, hid, hbody⟩ := foldl_partFieldAssign_values header.ring hvalues
    { aptContentPartReset with header := header } (by simp [aptContentPartReset])
    (by simp [aptContentPartReset])
  rcases partBodyRead_cases hbody m₁ with ⟨-, hread⟩ | ⟨-, answer, _, hread, -, hgot⟩
  · exact nomatch hread.symm.trans (hget.symm.trans h)
  · cases hread.symm.trans (hget.symm.trans h)
    obtain ⟨hsameType, hsameId, hlength, n, htake⟩ := hgot got rfl
    obtain ⟨type, hgotType, rfl⟩ := Option.map_eq_some_iff.mp hadded
    refine ⟨?_, ?_, ?_, hlength⟩
    · exact htype type (hsameType ▸ hgotType)
    · intro id hgotId
      exact hid id (hsameId ▸ hgotId)
    · intro c hc
      apply hhead
      rw [htake] at hc
      cases n with
      | zero => simp at hc
      | succ n => rwa [List.head?_take] at hc

theorem getParts_inv (count : Nat) {parts : List PartToAdd}
    (h : (getParts count m).map (List.map ContentPart.added) = some (parts.map some)) :
    ∀ part ∈ parts, WirePart part := by
  induction count generalizing m parts with
  | zero =>
    unfold getParts at h
    split at h
    · obtain rfl : parts = [] := by simpa using h
      simp
    · exact nomatch h
  | succ count ih =>
    unfold getParts at h
    split at h
    · rename_i got m' hget
      obtain ⟨gots, hgots, hmap⟩ := Option.map_eq_some_iff.mp h
      obtain ⟨rest, hrest, rfl⟩ := Option.map_eq_some_iff.mp hgots
      cases parts with
      | nil => simp at hmap
      | cons part parts =>
        obtain ⟨hadded, htail⟩ := List.cons.inj hmap
        intro p hp
        rcases List.mem_cons.mp hp with rfl | hp
        · exact get_part_inv hget hadded
        · exact ih (by rw [hrest, Option.map_some, htail]) p hp
    · exact nomatch h

/-- A boundary with an end of line is not recognized. -/
theorem get_brokenBoundary (hscan : ScannedBoundary boundary)
    (heol : ∃ c ∈ boundary, isEol c = true) (B tail : Bytes) :
    ∃ m, aptMultipartContentGet
      ⟨⟨B, crlf ++ (defaultHyphens ++ (boundary ++ tail)), [], false⟩, boundary⟩ =
      some (.failed, m) := by
  rcases line_cases boundary with hnone | ⟨line, e, behind, hsplit, hline, he⟩
  · obtain ⟨c, hc, heol⟩ := heol
    rw [hnone c hc] at heol
    exact nomatch heol
  have hne : boundary ≠ [] := by simp [hsplit]
  have hhead : ∀ c ∈ (boundary ++ tail).head?, c ≠ 45 := by
    rw [List.head?_append_of_ne_nil _ hne]
    exact hscan.first
  have hread := aptTextLineRead_line (B ++ crlf ++ defaultHyphens) hline he (behind ++ tail)
  have hshort : aptStringCompare boundary (boundaryOfLine line).1 = false := by
    have hle : (boundaryOfLine line).1.length ≤ line.length := by
      have htrim : (line.rdropWhile (· == tokenSp)).length ≤ line.length :=
        (List.rdropWhile_prefix _ _).length_le
      unfold boundaryOfLine
      dsimp only
      split
      · rw [List.length_take]
        omega
      · exact htrim
    have hlt : boundary.length ≠ (boundaryOfLine line).1.length := by
      rw [hsplit, List.length_append, List.length_cons]
      omega
    simp [aptStringCompare, hlt]
  have hrest : boundary ++ tail = line ++ e :: (behind ++ tail) := by simp [hsplit]
  rw [get_scan B boundary (by simp [hne]) hhead, hrest, hread]
  simp only [boundaryRead, hshort]
  simp [hne]

/-! ## Round trip -/

/-- A content that survives: it stays below its maximum size, its boundary is
one line, and so are the values of its parts. -/
structure WireContent (maxContentSize : Nat) (boundary : Bytes) (parts : List PartToAdd) :
    Prop where
  fits : (multipartText boundary parts).length < contentSize maxContentSize
  boundary_ne : boundary ≠ []
  boundary_eol : ∀ c ∈ boundary, isEol c = false
  parts : ∀ part ∈ parts, WirePart part

/-- A content starts with its boundary. -/
theorem multipartText_start (boundary : Bytes) (parts : List PartToAdd) :
    ∃ tail, multipartText boundary parts = crlf ++ (defaultHyphens ++ (boundary ++ tail)) := by
  cases parts with
  | nil => exact ⟨defaultHyphens ++ crlf, by simp [multipartText, finalText]⟩
  | cons part parts =>
    refine ⟨crlf ++ (headerText part.fields ++ (crlf ++ (part.body ++
      multipartText boundary parts))), ?_⟩
    simp [multipartText, PartToAdd.text]

/-- The parts come back exactly if the content survives. -/
theorem multipart_round_trips_iff (maxContentSize : Nat) (boundary : Bytes) (parts : List PartToAdd)
    (hscan : ScannedBoundary boundary) :
    MultipartRoundTrips maxContentSize boundary parts ↔
      WireContent maxContentSize boundary parts := by
  have hreader : ∀ known, aptMultipartContentAssign (multipartText boundary parts) known =
      ⟨⟨[], multipartText boundary parts, [], false⟩, known.getD []⟩ := fun _ => rfl
  unfold MultipartRoundTrips
  rw [multipartGenerate_eq]
  constructor
  · rintro ⟨text, htext, hknown⟩
    split at htext
    · rename_i hfits
      cases htext
      have htold := hknown (some boundary) (by simp)
      rw [hreader, Option.getD_some] at htold
      have hparts := getParts_inv _ htold
      have heol : ∀ c ∈ boundary, isEol c = false := by
        by_contra hbroken
        obtain ⟨c, hc, hceol⟩ : ∃ c ∈ boundary, isEol c = true := by simpa using hbroken
        obtain ⟨tail, hstart⟩ := multipartText_start boundary parts
        obtain ⟨m, hget⟩ := get_brokenBoundary hscan ⟨c, hc, hceol⟩ [] tail
        rw [hstart] at htold
        cases hcount : parts.length <;> simp [hcount, getParts, hget] at htold
      refine ⟨hfits, ?_, heol, hparts⟩
      rintro rfl
      rw [getParts_multipartText hscan heol hparts (.inl rfl)] at htold
      exact nomatch htold
    · exact nomatch htext
  · intro h
    refine ⟨multipartText boundary parts, by rw [if_pos h.fits]; rfl, ?_⟩
    intro known hknown
    have hread : known.getD [] = boundary ∨ known.getD [] = [] := by
      rcases List.mem_cons.mp hknown with rfl | hknown
      · exact .inl rfl
      · rw [List.mem_singleton.mp hknown]
        exact .inr rfl
    rw [hreader, getParts_multipartText hscan h.boundary_eol h.parts hread,
      if_neg h.boundary_ne]

/-- Two parts, one of them with an id and an empty body. -/
def plainParts : List PartToAdd :=
  [⟨bytesOf "text/plain", none, bytesOf "--break"⟩,
    ⟨bytesOf "application/ssml+xml", some (bytesOf "<1>"), []⟩]

theorem multipart_round_trips_plainParts :
    ScannedBoundary defaultBoundary ∧ MultipartRoundTrips 1500 defaultBoundary plainParts := by
  have hscan : ScannedBoundary defaultBoundary := ⟨by decide +kernel, by decide +kernel⟩
  refine ⟨hscan, (multipart_round_trips_iff 1500 defaultBoundary plainParts hscan).mpr ?_⟩
  refine ⟨by decide +kernel, by decide +kernel, by decide +kernel, ?_⟩
  intro part hpart
  simp only [plainParts, List.mem_cons, List.not_mem_nil, or_false] at hpart
  rcases hpart with rfl | rfl
  · exact ⟨⟨by decide +kernel, by decide +kernel⟩, by simp, by decide +kernel, by decide +kernel⟩
  · refine ⟨⟨by decide +kernel, by decide +kernel⟩, fun id hid => ?_, by simp, by decide⟩
    cases hid
    exact ⟨by decide +kernel, by decide +kernel⟩

/-- A part whose body starts with a space. -/
def indentedPart : PartToAdd := ⟨bytesOf "text/plain", none, bytesOf " a"⟩

/-- The line of the body is folded into the empty line in front of it, and the
hyphens of the end are returned as the body. -/
theorem indented_body_lost :
    ScannedBoundary defaultBoundary ∧
      (∃ text ∈ multipartGenerate 1500 defaultBoundary [indentedPart],
        ∃ answer ∈ aptMultipartContentGet (aptMultipartContentAssign text (some defaultBoundary)),
          ∃ got, answer.1 = .part got ∧ got.body = bytesOf "--") ∧
      ¬ MultipartRoundTrips 1500 defaultBoundary [indentedPart] := by
  have hscan : ScannedBoundary defaultBoundary := ⟨by decide +kernel, by decide +kernel⟩
  refine ⟨hscan, ⟨_, rfl, _, rfl, _, rfl, by decide +kernel⟩, ?_⟩
  have hlost : ∀ text ∈ (multipartGenerate 1500 defaultBoundary [indentedPart]).toList,
      (getParts 1 (aptMultipartContentAssign text (some defaultBoundary))).map
        (List.map ContentPart.added) ≠ some [some indentedPart] := by decide +kernel
  rintro ⟨text, htext, hknown⟩
  exact hlost text (Option.mem_toList.mpr htext) (hknown (some defaultBoundary) (by simp))

/-! ## Bounds -/

/-- A get returns a part. -/
def GotPart (m m' : MultipartReader) : Prop :=
  ∃ part, aptMultipartContentGet m = some (.part part, m')

/-- A get has a result: it moves on in the text, and a body that it returns is a
piece of the text.  So do those behind it, and they come to an end. -/
inductive GetsInBounds : MultipartReader → Prop where
  | get {m m' : MultipartReader} {answer : MultipartAnswer}
      (hget : aptMultipartContentGet m = some (answer, m'))
      (hread : m'.stream.rest <:+ m.stream.rest)
      (hforward : answer ≠ .failed → m'.stream.rest.length < m.stream.rest.length)
      (hbody : ∀ part, answer = .part part → part.body <:+: m.stream.rest)
      (hnext : GotPart m m' → GetsInBounds m') : GetsInBounds m

/-- The reader stays in bounds up to the end of the parts exactly if no part that
it comes to declares a negative length. -/
theorem gets_in_bounds_iff (m : MultipartReader) :
    GetsInBounds m ↔ ∀ m', Relation.ReflTransGen GotPart m m' →
      ∀ header behind, PartAhead m' header behind → 0 ≤ (partOf header).declaredLength := by
  have hempty : ∀ header, (partOf header).body = [] := fun header =>
    (foldl_partFieldAssign_values (P := fun _ => True) header.ring (by simp)
      { aptContentPartReset with header } (by simp) (by simp)).2.2
  constructor
  · intro h m' hreach
    have hm' : GetsInBounds m' := by
      induction hreach with
      | refl => exact h
      | tail _ hgot ih =>
        obtain ⟨hget, -, -, -, hnext⟩ := ih
        obtain ⟨part, hpart⟩ := id hgot
        cases hget.symm.trans hpart
        exact hnext hgot
    intro header behind hpart
    obtain ⟨m₁, hahead⟩ := hpart.get
    obtain ⟨hget⟩ := hm'
    rcases partBodyRead_cases (hempty header) m₁ with ⟨-, hnone⟩ | ⟨hlength, -⟩
    · exact nomatch hget.symm.trans (hahead.trans hnone)
    · exact hlength
  · intro h
    induction hn : m.stream.rest.length using Nat.strongRecOn generalizing m with
    | _ n ih =>
      subst hn
      have hnext : ∀ m', m'.stream.rest.length < m.stream.rest.length → GotPart m m' →
          GetsInBounds m' := fun m' hlt hgot =>
        ih _ hlt m' (fun m'' hreach => h m'' (.head hgot hreach)) rfl
      rcases get_cases m with ⟨answer, m', hget, hread, hforward, hnone⟩ |
          ⟨header, m₁, hpart, hahead, hread, hlt⟩
      · refine .get hget hread hforward (fun part hp => absurd hp (hnone part)) ?_
        rintro ⟨part, hgot⟩
        cases hget.symm.trans hgot
        exact absurd rfl (hnone part)
      · rcases partBodyRead_cases (hempty header) m₁ with
          ⟨hneg, -⟩ | ⟨-, answer, m', hget, hsuffix, hgot⟩
        · exact absurd (h m .refl header _ hpart) (not_le.mpr hneg)
        · have hlt' := hsuffix.length_le.trans_lt hlt
          refine .get (hahead.trans hget) (hsuffix.trans hread) (fun _ => hlt') ?_ (hnext m' hlt')
          intro got hpart
          obtain ⟨-, -, -, n, htake⟩ := hgot got hpart
          rw [htake]
          exact (List.take_prefix n _).isInfix.trans hread.isInfix

/-- A part that declares the length -1: the check of the length overflows. -/
def negativePart : Bytes := bytesOf "--break\r\nContent-Length: -1\r\n\r\nbody\r\n--break--\r\n"

theorem negative_length_out_of_bounds :
    aptMultipartContentGet (aptMultipartContentAssign negativePart (some defaultBoundary)) = none ∧
      ¬GetsInBounds (aptMultipartContentAssign negativePart (some defaultBoundary)) := by
  have hnone : aptMultipartContentGet
      (aptMultipartContentAssign negativePart (some defaultBoundary)) = none := by decide +kernel
  refine ⟨hnone, ?_⟩
  rintro ⟨hget⟩
  exact nomatch hget.symm.trans hnone

end UniMrcp.Apt
