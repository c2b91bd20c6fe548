import Mathlib.Data.List.TakeWhile
import UniMrcp.Apt.TextMessage

/-!
# Lines of a stream

What the readers of `UniMrcp.Apt.TextStream` and the header field parser do
on a buffer that holds a line, and on one that holds no end of line:

* `line_cases`: these are the only two kinds of buffer;
* `headerFieldParse_line`, `headerFieldParse_noEol`: the header field parser;
* `foldedLines_stop`: without white space ahead nothing is folded.
-/

namespace UniMrcp.Apt

open UniMrcp.Lib

/-! ## Lines of a buffer -/

/-- A buffer holds a first line with its end, or no end of line at all. -/
theorem line_cases (text : Bytes) :
    (∀ b ∈ text, isEol b = false) ∨
      ∃ line e tail, text = line ++ e :: tail ∧ (∀ b ∈ line, isEol b = false) ∧
        isEol e = true := by
  cases hfind : text.find? isEol with
  | none => exact .inl (by simpa using hfind)
  | some e =>
    obtain ⟨he, line, tail, htext, hline⟩ := List.find?_eq_some_iff_append.mp hfind
    exact .inr ⟨line, e, tail, htext, by simpa using hline, he⟩

variable {e : UInt8} {line : Bytes}

theorem takeWhile_line (hline : ∀ b ∈ line, isEol b = false) (he : isEol e = true) (tail : Bytes) :
    (line ++ e :: tail).takeWhile (fun c => !isEol c) = line := by
  rw [takeWhile_append_of_stop (fun b hb => by simp [hline b hb])]
  simp [he]

theorem dropWhile_line (hline : ∀ b ∈ line, isEol b = false) (he : isEol e = true) (tail : Bytes) :
    (line ++ e :: tail).dropWhile (fun c => !isEol c) = e :: tail := by
  rw [List.dropWhile_append_of_pos (fun b hb => by simp [hline b hb])]
  simp [he]

theorem dropWhile_noEol {text : Bytes} (h : ∀ b ∈ text, isEol b = false) :
    text.dropWhile (fun c => !isEol c) = [] := by
  rw [List.dropWhile_eq_nil_iff]
  intro b hb
  simp [h b hb]

/-- What is left of a buffer behind the end of line it starts with. -/
def eolRest (tail : Bytes) : Bytes := tail.drop (eolLength tail)

/-- The end of line is CR LF, or one byte that is no CR before a LF. -/
theorem eol_cases (he : isEol e = true) (tail : Bytes) :
    (∃ t, e = tokenCr ∧ tail = tokenLf :: t ∧ eolLength (e :: tail) = 2) ∨
      (eolLength (e :: tail) = 1 ∧ (e = tokenCr → tail.head? ≠ some tokenLf)) := by
  cases tail with
  | nil => right; simp [eolLength]
  | cons c t =>
    by_cases hcr : e = tokenCr ∧ c = tokenLf
    · left
      obtain ⟨rfl, rfl⟩ := hcr
      exact ⟨t, rfl, rfl, by simp [eolLength]⟩
    · right
      constructor
      · have : (e == tokenCr && c == tokenLf) = false := by
          simpa using hcr
        simp [eolLength, this]
      · intro hcr' hc
        simp at hc
        exact hcr ⟨hcr', hc⟩

theorem eolRest_length_lt (e : UInt8) (tail : Bytes) :
    (eolRest (e :: tail)).length < (e :: tail).length := by
  have h : 1 ≤ eolLength (e :: tail) := by
    cases tail with
    | nil => simp [eolLength]
    | cons c t => simp only [eolLength]; split <;> omega
  rw [eolRest, List.length_drop, List.length_cons]
  omega

/-- The stream behind a line. -/
theorem advance_line (B line : Bytes) (e : UInt8) (tail : Bytes) :
    (⟨B, line ++ e :: tail, [], false⟩ : TextStream).advance
        (line.length + eolLength (e :: tail)) =
      ⟨B ++ line ++ (e :: tail).take (eolLength (e :: tail)), eolRest (e :: tail), [],
        false⟩ := by
  simp [TextStream.advance, eolRest, List.take_length_add_append]

/-- Behind a line the segmentation test fires on a CR at the very end. -/
theorem crlfTest_line (B line : Bytes) (he : isEol e = true) (tail : Bytes) :
    aptCrlfSegmentationTest false
        ⟨B ++ line ++ (e :: tail).take (eolLength (e :: tail)), eolRest (e :: tail), [],
          false⟩ =
      (e :: tail == [tokenCr]) := by
  rcases eol_cases he tail with ⟨t, rfl, rfl, hlen⟩ | ⟨hlen, -⟩
  · rw [hlen]
    simp [aptCrlfSegmentationTest, tokenCr, tokenLf]
  · cases tail with
    | nil => simp [aptCrlfSegmentationTest, eolRest, hlen, beq_eq_decide]
    | cons c t => simp [aptCrlfSegmentationTest, eolRest, hlen]

/-! ## Header fields -/

/-- Without white space ahead no line is folded into the value. -/
theorem foldedLines_stop {stream : TextStream}
    (h : ∀ c ∈ stream.rest.head?, aptTextIsWsp c = false) (fuel : Nat) (value : Bytes) :
    foldedLines fuel stream value = (value, stream) := by
  cases fuel with
  | zero => rfl
  | succ fuel =>
    rw [foldedLines]
    split
    · rfl
    · rename_i c t hrest
      simp [h c (by simp [hrest])]

theorem headerFieldParse_noEol (B : Bytes) {text : Bytes}
    (htext : ∀ b ∈ text, isEol b = false) :
    aptHeaderFieldParse ⟨B, text, [], false⟩ = (none, ⟨B, text, [], true⟩) := by
  simp [aptHeaderFieldParse, aptTextHeaderRead, dropWhile_noEol htext]

/-- The stream behind the line `line`, whose end is at the head of `tail`. -/
def behindLine (B line tail : Bytes) : TextStream :=
  ⟨B ++ line ++ tail.take (eolLength tail), eolRest tail, [], false⟩

theorem aptTextLineRead_line (B : Bytes) (hline : ∀ b ∈ line, isEol b = false) (he : isEol e = true)
    (tail : Bytes) :
    aptTextLineRead ⟨B, line ++ e :: tail, [], false⟩ =
      (true, ⟨line, e :: tail⟩, behindLine B line (e :: tail)) := by
  simp only [aptTextLineRead, takeWhile_line hline he, dropWhile_line hline he, advance_line,
    List.append_nil]
  rfl

theorem headerFieldParse_line (B : Bytes) (hline : ∀ b ∈ line, isEol b = false)
    (he : isEol e = true) {tail : Bytes}
    (hnext : ∀ c ∈ (eolRest (e :: tail)).head?, aptTextIsWsp c = false) :
    aptHeaderFieldParse ⟨B, line ++ e :: tail, [], false⟩ =
      (headerOfLine line, behindLine B line (e :: tail)) := by
  have hread : aptTextHeaderRead ⟨B, line ++ e :: tail, [], false⟩ =
      (headerOfLine line, behindLine B line (e :: tail)) := by
    simp only [aptTextHeaderRead, takeWhile_line hline he, dropWhile_line hline he,
      advance_line]
    rfl
  have hfold : ∀ fuel value, foldedLines fuel (behindLine B line (e :: tail)) value =
      (value, behindLine B line (e :: tail)) :=
    foldedLines_stop hnext
  rw [aptHeaderFieldParse, hread]
  cases headerOfLine line with
  | none => rfl
  | some pair => simp [hfold]

end UniMrcp.Apt
