import Mathlib.Data.List.Basic
import UniMrcp.Apt.HeaderText

/-!
# Values of header fields

A line carries a value that has no end of line and does not start with white
space.  The header parser returns no other value, whatever it reads, and it
stops in front of a byte that is no white space:
`headerSectionLoop_wireValue`.
-/

namespace UniMrcp.Apt

open UniMrcp.Lib

/-- A value that a header line can carry. -/
structure WireValue (value : Bytes) : Prop where
  eol : ∀ c ∈ value, isEol c = false
  wsp : ∀ c ∈ value.head?, aptTextIsWsp c = false

theorem wireValue_decimal (n : Nat) : WireValue (decimal n) := by
  have hdigit : ∀ c, isDigit c = true → isEol c = false ∧ aptTextIsWsp c = false := by
    grind [isDigit, isEol, aptTextIsWsp, tokenCr, tokenLf, tokenSp, tokenHtab]
  constructor
  · intro c hc
    exact (hdigit c (isDigit_of_mem_decimal hc)).1
  · intro c hc
    exact (hdigit c (isDigit_of_mem_decimal (List.mem_of_mem_head? hc))).2

theorem WireValue.append {v w : Bytes} (hv : WireValue v) (hw : WireValue w) :
    WireValue (v ++ w) :=
  ⟨List.forall_mem_append.mpr ⟨hv.eol, hw.eol⟩, forall_head?_append hv.wsp hw.wsp⟩

/-- What a byte does to the value that is scanned: nothing, it starts it, or it
extends it. -/
theorem step_value (scan : HeaderScan) (c : UInt8) :
    (scan.step c).value = scan.value ∨
    (aptTextIsWsp c = false ∧ (scan.step c).value = some [c]) ∨
    ∃ v, scan.value = some v ∧ (scan.step c).value = some (v ++ [c]) := by
  unfold HeaderScan.step
  split
  · cases hvalue : scan.value with
    | none =>
      cases hwsp : aptTextIsWsp c with
      | true => exact .inl hvalue
      | false => exact .inr (.inl ⟨rfl, rfl⟩)
    | some v => exact .inr (.inr ⟨v, rfl, rfl⟩)
  · left
    dsimp only
    split
    · rfl
    · split <;> rfl

theorem foldl_step_wireValue {line : Bytes} (hline : ∀ c ∈ line, isEol c = false)
    (scan : HeaderScan) (h : ∀ v ∈ scan.value, v ≠ [] ∧ WireValue v) :
    ∀ v ∈ (line.foldl HeaderScan.step scan).value, v ≠ [] ∧ WireValue v := by
  induction line generalizing scan with
  | nil => exact h
  | cons c line ih =>
    have hc : isEol c = false := hline c List.mem_cons_self
    apply ih (fun d hd => hline d (List.mem_cons_of_mem _ hd))
    intro v hv
    rcases step_value scan c with hsame | ⟨hwsp, hstart⟩ | ⟨w, hw, hextend⟩
    · exact h v (hsame ▸ hv)
    · cases hstart.symm.trans hv
      exact ⟨List.cons_ne_nil _ _, by simpa using hc, by simpa using hwsp⟩
    · cases hextend.symm.trans hv
      obtain ⟨hne, hwire⟩ := h w hw
      refine ⟨by simp, ?_, ?_⟩
      · intro d hd
        rcases List.mem_append.mp hd with hd | hd
        · exact hwire.eol d hd
        · obtain rfl : d = c := by simpa using hd
          exact hc
      · intro d hd
        rw [List.head?_append_of_ne_nil _ hne] at hd
        exact hwire.wsp d hd

theorem wireValue_nil : WireValue [] := ⟨by simp, by simp⟩

theorem headerOfLine_wireValue {line : Bytes} (hline : ∀ c ∈ line, isEol c = false)
    {pair : AptPair} (hpair : headerOfLine line = some pair) : WireValue pair.value := by
  have hscan := foldl_step_wireValue hline ⟨none, false, none⟩ (by simp)
  unfold headerOfLine at hpair
  generalize line.foldl HeaderScan.step ⟨none, false, none⟩ = scan at hpair hscan
  dsimp only at hpair
  split at hpair
  · cases hpair
    cases hvalue : scan.value with
    | none => exact wireValue_nil
    | some v => exact (hscan v hvalue).2
  · split at hpair
    · exact nomatch hpair
    · cases hpair
      exact wireValue_nil

/-- A line that is folded into a value. -/
theorem wireValue_lineRead {stream : TextStream}
    (hwsp : ∀ c ∈ stream.rest.head?, aptTextIsWsp c = false) :
    WireValue (aptTextLineRead stream).2.1.text := by
  have htext : (aptTextLineRead stream).2.1.text = stream.rest.takeWhile (fun c => !isEol c) := by
    unfold aptTextLineRead
    dsimp only
    split <;> rfl
  rw [htext]
  constructor
  · intro c hc
    simpa using List.mem_takeWhile_imp hc
  · intro c hc
    apply hwsp
    cases hrest : stream.rest with
    | nil => simp [hrest] at hc
    | cons d rest =>
      rw [hrest, List.takeWhile_cons] at hc
      split at hc
      · exact hc
      · exact nomatch hc

theorem head_whiteSpacesSkip (stream : TextStream) :
    ∀ c ∈ (aptTextWhiteSpacesSkip stream).rest.head?, aptTextIsWsp c = false := by
  intro c hc
  have hrest : (aptTextWhiteSpacesSkip stream).rest = stream.rest.dropWhile aptTextIsWsp :=
    drop_takeWhile_length aptTextIsWsp stream.rest
  rw [hrest] at hc
  have hstop := List.head?_dropWhile_not aptTextIsWsp stream.rest
  rw [Option.mem_def.mp hc] at hstop
  exact hstop

/-- Folding keeps a value one that a line can carry, and stops in front of a
byte that is no white space. -/
theorem foldedLines_spec (fuel : Nat) {stream : TextStream} {value : Bytes}
    (hvalue : WireValue value) (hfuel : stream.rest.length ≤ fuel) :
    WireValue (foldedLines fuel stream value).1 ∧
      ∀ c ∈ (foldedLines fuel stream value).2.rest.head?, aptTextIsWsp c = false := by
  induction fuel generalizing stream value with
  | zero =>
    obtain hnil : stream.rest = [] := List.eq_nil_of_length_eq_zero (by omega)
    refine ⟨hvalue, ?_⟩
    simp [foldedLines, hnil]
  | succ fuel ih =>
    cases hrest : stream.rest with
    | nil =>
      simp only [foldedLines, hrest]
      exact ⟨hvalue, by simp⟩
    | cons c rest =>
      cases hwsp : aptTextIsWsp c with
      | false =>
        rw [foldedLines_stop (by simp [hrest, hwsp])]
        exact ⟨hvalue, by simp [hrest, hwsp]⟩
      | true =>
        simp only [foldedLines, hrest, hwsp]
        have hskip := head_whiteSpacesSkip (stream.advance 1)
        apply ih (hvalue.append (wireValue_lineRead hskip))
        calc _ ≤ _ := (aptTextLineRead_suffix _).length_le
          _ ≤ fuel := by
            simp only [aptTextWhiteSpacesSkip, TextStream.advance, List.length_drop]
            omega

/-- A header field that is read has a value that a line can carry, and no white
space follows it. -/
theorem headerFieldParse_wireValue {stream stream' : TextStream} {pair : AptPair}
    (h : aptHeaderFieldParse stream = (some pair, stream')) :
    WireValue pair.value ∧ ∀ c ∈ stream'.rest.head?, aptTextIsWsp c = false := by
  unfold aptHeaderFieldParse at h
  rcases hread : aptTextHeaderRead stream with ⟨_ | read, behind⟩
  · rw [hread] at h
    exact nomatch h
  · rw [hread] at h
    have hwire : WireValue read.value := by
      unfold aptTextHeaderRead at hread
      dsimp only at hread
      split at hread
      · exact nomatch hread
      · obtain ⟨hline, -⟩ := Prod.mk.inj hread
        exact headerOfLine_wireValue (fun c hc => by simpa using List.mem_takeWhile_imp hc) hline
    have hfold := foldedLines_spec behind.rest.length hwire (Nat.le_refl _)
    obtain ⟨hpair, rfl⟩ := Prod.mk.inj h
    cases hpair
    exact hfold

theorem mem_headerFieldAppend {header : HeaderSection} {pair : AptPair} {field : HeaderField}
    (h : field ∈ (headerFieldAppend header pair).ring) :
    field ∈ header.ring ∨ field.value = pair.value := by
  unfold headerFieldAppend aptHeaderSectionFieldAdd at h
  dsimp only at h
  split at h
  · split at h
    · exact .inl h
    · rcases List.mem_append.mp h with h | h
      · exact .inl h
      · rw [List.mem_singleton.mp h]
        exact .inr rfl
  · rcases List.mem_append.mp h with h | h
    · exact .inl h
    · rw [List.mem_singleton.mp h]
      exact .inr rfl

/-- The values of a header section that is read can be carried by a line, and
no white space follows the section. -/
theorem headerSectionLoop_wireValue (fuel : Nat) {header header' : HeaderSection}
    {stream stream' : TextStream} (hheader : ∀ field ∈ header.ring, WireValue field.value)
    (h : headerSectionLoop fuel header stream = (true, header', stream')) :
    (∀ field ∈ header'.ring, WireValue field.value) ∧
      ∀ c ∈ stream'.rest.head?, aptTextIsWsp c = false := by
  induction fuel generalizing header stream with
  | zero => cases h
  | succ fuel ih =>
    unfold headerSectionLoop at h
    rcases hparse : aptHeaderFieldParse stream with ⟨_ | pair, behind⟩
    · rw [hparse] at h
      simp only [Bool.false_eq_true, if_false] at h
      split at h
      · cases h
      · exact ih hheader h
    · rw [hparse] at h
      obtain ⟨hvalue, hhead⟩ := headerFieldParse_wireValue hparse
      dsimp only at h
      split at h
      · obtain ⟨-, hrest⟩ := Prod.mk.inj h
        simp_all
      · simp only [Bool.false_eq_true, if_false] at h
        split at h
        · cases h
        · refine ih (fun field hfield => ?_) h
          rcases mem_headerFieldAppend hfield with hold | hnew
          · exact hheader field hold
          · rw [hnew]
            exact hvalue

end UniMrcp.Apt
