import UniMrcp.Apt.Lines
import UniMrcp.Transport.LineMachine

/-!
# The receive loop computes the byte machine

One call of the parser on a buffer passes over what the byte machine passes
over, stage by stage; so does the loop around it; and the bytes left in the
buffer are the line the machine is in.  `pollerReceive_simulates` states this
for one chunk, and `Lib.Transducer.receiveAll_eq_run` carries it to every
sequence of chunks.
-/

namespace UniMrcp.Transport

open UniMrcp.Lib UniMrcp.Apt

/-! ## Steps of the byte machine -/

section Machine

variable {M : Type} {v : LineVtable M} {closed : Bytes → Prop} {rxSize : Nat}
  {stage : ParserStage M} {e b : UInt8} {line text : Bytes}

theorem lineStep_other (hs : isLineStage stage = true) (line : Bytes) (hb : isEol b = false) :
    lineStep v ⟨stage, false, line⟩ b = (⟨stage, false, line ++ [b]⟩, []) := by
  cases stage with
  | startLine => simp [lineStep, hb]
  | header m => simp [lineStep, hb]
  | body m n read => cases hs

theorem lineStep_eol (hs : isLineStage stage = true) (line : Bytes) (he : isEol e = true) :
    lineStep v ⟨stage, false, line⟩ e =
      (⟨(lineDone v stage line e).1, (lineDone v stage line e).2.1, []⟩,
        (lineDone v stage line e).2.2) := by
  cases stage with
  | startLine => simp [lineStep, he]
  | header m => simp [lineStep, he]
  | body m n read => cases hs

theorem lineStep_body (m : M) (n : Nat) (read : Bytes) (b : UInt8) :
    lineStep v ⟨.body m n read, false, []⟩ b =
      (⟨(bodyByte v m n read b).1, false, []⟩, (bodyByte v m n read b).2) := by
  simp [lineStep]

/-- The flag only matters for a LF. -/
theorem lineStep_skip (hb : b ≠ tokenLf) :
    lineStep v ⟨stage, true, line⟩ b = lineStep v ⟨stage, false, line⟩ b := by
  have h : (b == tokenLf) = false := by simpa using hb
  simp [lineStep, h]

theorem byteOk_skip (hb : b ≠ tokenLf) :
    ByteOk closed rxSize ⟨stage, true, line⟩ b →
      ByteOk closed rxSize ⟨stage, false, line⟩ b := by
  simp [ByteOk, hb]

/-- The bytes of a line gather in the state. -/
theorem run_noEol (hs : isLineStage stage = true) (htext : ∀ b ∈ text, isEol b = false) :
    ∀ line, (lineMachine v).run ⟨stage, false, line⟩ text =
      (⟨stage, false, line ++ text⟩, []) := by
  induction text with
  | nil => intro line; simp
  | cons b text ih =>
    intro line
    have hstep : (lineMachine v).step ⟨stage, false, line⟩ b =
        (⟨stage, false, line ++ [b]⟩, []) :=
      lineStep_other hs line (htext b (by simp))
    rw [Transducer.run_cons, hstep, ih (fun c hc => htext c (by simp [hc]))]
    simp

/-- The machine reads a line up to and with the first byte of its end. -/
theorem passes_line (hs : isLineStage stage = true) (hline : ∀ b ∈ line, isEol b = false)
    (he : isEol e = true) (tail : Bytes) :
    (lineMachine v).Passes (ByteOk closed rxSize) ⟨stage, false, []⟩ (line ++ e :: tail)
      ⟨(lineDone v stage line e).1, (lineDone v stage line e).2.1, []⟩ tail
      (lineDone v stage line e).2.2 := by
  have hrun : (lineMachine v).run ⟨stage, false, []⟩ (line ++ [e]) =
      (⟨(lineDone v stage line e).1, (lineDone v stage line e).2.1, []⟩,
        (lineDone v stage line e).2.2) := by
    have hstep : (lineMachine v).step ⟨stage, false, line⟩ e = _ := lineStep_eol hs line he
    rw [Transducer.run_append, run_noEol hs hline, List.nil_append, Transducer.run_cons,
      hstep]
    simp
  simpa using (lineMachine v).passes_of_run hrun tail

/-- Behind the first byte of an end of line, the machine skips what the
parser takes in one go. -/
theorem passes_eol (stage : ParserStage M) (he : isEol e = true) (tail : Bytes) :
    (lineMachine v).Passes (ByteOk closed rxSize) ⟨stage, e == tokenCr, []⟩ tail
      ⟨stage, e :: tail == [tokenCr], []⟩ (eolRest (e :: tail)) [] := by
  rcases eol_cases he tail with ⟨t, rfl, rfl, hlen⟩ | ⟨hlen, hnext⟩
  · have hrun : (lineMachine v).run ⟨stage, true, []⟩ [tokenLf] = (⟨stage, false, []⟩, []) := by
      simp [Transducer.run_cons, lineMachine, lineStep]
    simpa [eolRest, hlen] using (lineMachine v).passes_of_run hrun t
  · have hrest : eolRest (e :: tail) = tail := by simp [eolRest, hlen]
    rw [hrest]
    by_cases hcr : e = tokenCr
    · subst hcr
      cases tail with
      | nil => simpa using Transducer.Passes.refl _ _
      | cons c t =>
        have hc : c ≠ tokenLf := by simpa using hnext rfl
        have h : (lineMachine v).Passes (ByteOk closed rxSize) ⟨stage, true, []⟩ (c :: t)
            ⟨stage, false, []⟩ (c :: t) [] :=
          (lineMachine v).passes_of_step_eq t (lineStep_skip hc) (byteOk_skip hc)
        simpa using h
    · have h1 : (e == tokenCr) = false := by simpa using hcr
      have h2 : (e :: tail == [tokenCr]) = false := by simp [hcr]
      rw [h1, h2]
      exact .refl _ _

/-- After a line that is no start line, a LF behind the CR is an empty line,
which is none either. -/
theorem passes_eol_start (he : isEol e = true) (tail : Bytes) :
    (lineMachine v).Passes (ByteOk closed rxSize) ⟨.startLine, false, []⟩ tail
      ⟨.startLine, false, []⟩ (eolRest (e :: tail)) [] := by
  rcases eol_cases he tail with ⟨t, rfl, rfl, hlen⟩ | ⟨hlen, -⟩
  · have hrun : (lineMachine v).run ⟨.startLine, false, []⟩ [tokenLf] =
        (⟨.startLine, false, []⟩, []) := by
      simp [Transducer.run_cons, lineMachine, lineStep, lineDone, v.startMessage_nil, isEol]
    simpa [eolRest, hlen] using (lineMachine v).passes_of_run hrun t
  · have hrest : eolRest (e :: tail) = tail := by simp [eolRest, hlen]
    rw [hrest]
    exact .refl _ _

/-! ## The header section -/

/-- A stage in which the next byte starts a line or a body. -/
def FreshStage : ParserStage M → Prop
  | .body _ _ read => read = []
  | _ => True

/-- On an admissible stream no line and no body starts with white space. -/
theorem not_wsp_of_along (hs : FreshStage stage) {k : Bool} {rest : Bytes}
    (h : (lineMachine v).Along (ByteOk closed rxSize) ⟨stage, k, []⟩ rest) :
    ∀ c ∈ rest.head?, aptTextIsWsp c = false := by
  intro c hc
  cases rest with
  | nil => cases hc
  | cons d t =>
    obtain rfl : d = c := by simpa using hc
    have hok := (Transducer.along_cons _).mp h
    replace hok := hok.1
    unfold ByteOk at hok
    split at hok
    · rename_i hlf
      rw [hlf.2]
      decide
    · cases stage with
      | startLine => exact hok.1.1 rfl
      | header m => exact hok.1 rfl
      | body m n read => exact hok hs

theorem headerDone_fresh (m : M) : FreshStage (headerDone v m).1 := by
  unfold headerDone
  split
  · trivial
  · split
    · trivial
    · rfl

theorem lineDone_fresh (hs : isLineStage stage = true) (line : Bytes) (e : UInt8) :
    FreshStage (lineDone v stage line e).1 := by
  cases stage with
  | startLine => unfold lineDone; dsimp only; split <;> trivial
  | header m =>
    unfold lineDone
    dsimp only
    split
    · trivial
    · split
      · exact headerDone_fresh m
      · trivial
  | body m n read => cases hs

theorem eolRest_line_length_lt (line : Bytes) (e : UInt8) (tail : Bytes) :
    (eolRest (e :: tail)).length < (line ++ e :: tail).length := by
  have hlt := eolRest_length_lt e tail
  rw [List.length_append]
  omega

theorem beq_cr_of_rest {tail : Bytes} (h : eolRest (e :: tail) ≠ []) :
    (e :: tail == [tokenCr]) = false := by
  cases tail with
  | nil => exact absurd (by simp [eolRest, eolLength]) h
  | cons c t => simp

/-- A header line with its end, read by the machine. -/
theorem passes_headerLine (m : M) (hline : ∀ b ∈ line, isEol b = false) (he : isEol e = true)
    (tail : Bytes) :
    (lineMachine v).Passes (ByteOk closed rxSize) ⟨.header m, false, []⟩
      (line ++ e :: tail)
      ⟨(lineDone v (.header m) line e).1, e :: tail == [tokenCr], []⟩
      (eolRest (e :: tail)) (lineDone v (.header m) line e).2.2 := by
  have hflag : (lineDone v (.header m) line e).2.1 = (e == tokenCr) := by
    unfold lineDone
    dsimp only
    split
    · rfl
    · split <;> rfl
  have h : (lineMachine v).Passes (ByteOk closed rxSize) ⟨.header m, false, []⟩ _ _ _ _ :=
    passes_line rfl hline he tail
  rw [hflag] at h
  simpa using h.trans (passes_eol _ he tail)

/-- What the loop of `apt_header_section_parse` does from a message in the
header stage: it passes over the lines the machine passes over. -/
structure HeaderLoopSpec (v : LineVtable M) (closed : Bytes → Prop) (rxSize : Nat) (m : M)
    (k : Bool) (text : Bytes) (r : Bool × HeaderSection × TextStream) : Prop where
  beyond : r.2.2.beyond = []
  incomplete : r.1 = false →
    (lineMachine v).Passes (ByteOk closed rxSize) ⟨.header m, k, []⟩ text
        ⟨.header (v.setHeader m r.2.1), aptCrlfSegmentationTest k r.2.2, []⟩ r.2.2.rest [] ∧
      r.2.2.isEnd = true ∧ ∀ b ∈ r.2.2.rest, isEol b = false
  complete : r.1 = true →
    (lineMachine v).Passes (ByteOk closed rxSize) ⟨.header m, k, []⟩ text
        ⟨(headerDone v (v.setHeader m r.2.1)).1, aptCrlfSegmentationTest k r.2.2, []⟩
        r.2.2.rest (headerDone v (v.setHeader m r.2.1)).2 ∧
      r.2.2.isEos = false
  rest_le : r.2.2.rest.length ≤ text.length
  shorter : r.2.2.isEos = false → r.2.2.rest.length < text.length

/-- The loop goes on behind a line that left the message `m1`. -/
theorem HeaderLoopSpec.behind_line {m m1 : M} {h1 : HeaderSection} {B line : Bytes} {tail : Bytes}
    {r : Bool × HeaderSection × TextStream} {fuel : Nat} (hm1 : m1 = v.setHeader m h1)
    (he : isEol e = true)
    (hpass : (lineMachine v).Passes (ByteOk closed rxSize) ⟨.header m, false, []⟩
      (line ++ e :: tail) ⟨.header m1, e :: tail == [tokenCr], []⟩ (eolRest (e :: tail)) [])
    (hr : r = if (behindLine B line (e :: tail)).isEnd then
        (false, h1, behindLine B line (e :: tail))
      else headerSectionLoop fuel h1 (behindLine B line (e :: tail)))
    (ih : eolRest (e :: tail) ≠ [] →
      HeaderLoopSpec v closed rxSize m1 false (eolRest (e :: tail))
        (headerSectionLoop fuel (v.header m1) (behindLine B line (e :: tail)))) :
    HeaderLoopSpec v closed rxSize m false (line ++ e :: tail) r := by
  have hlen := eolRest_line_length_lt line e tail
  by_cases hrest : eolRest (e :: tail) = []
  · have hend : (behindLine B line (e :: tail)).isEnd = true := by
      simp [behindLine, TextStream.isEnd, hrest]
    rw [hend, if_pos rfl] at hr
    subst hr
    refine ⟨rfl, fun _ => ⟨?_, hend, by simp [behindLine, hrest]⟩,
      fun h => (by cases h), hlen.le, fun _ => hlen⟩
    rw [← hm1]
    simpa only [behindLine, crlfTest_line B line he tail] using hpass
  · have hend : (behindLine B line (e :: tail)).isEnd = false := by
      simp [behindLine, TextStream.isEnd, hrest]
    rw [hend, if_neg (by simp)] at hr
    have hspec := ih hrest
    have hh : v.header m1 = h1 := by rw [hm1, v.header_setHeader]
    have hset : ∀ h, v.setHeader m1 h = v.setHeader m h := by
      intro h
      rw [hm1, v.setHeader_setHeader]
    rw [hh, ← hr] at hspec
    rw [beq_cr_of_rest hrest] at hpass
    have hle := hspec.rest_le
    refine ⟨hspec.beyond, fun h => ?_, fun h => ?_, by omega, fun _ => by omega⟩
    · obtain ⟨hp, hx⟩ := hspec.incomplete h
      rw [hset] at hp
      exact ⟨by simpa using hpass.trans hp, hx⟩
    · obtain ⟨hp, hx⟩ := hspec.complete h
      rw [hset] at hp
      exact ⟨by simpa using hpass.trans hp, hx⟩

/-- The loop of `apt_header_section_parse` meets its specification. -/
theorem headerSectionLoop_spec : ∀ (fuel : Nat) (m : M) (k : Bool) (B text : Bytes),
    text.length < fuel → (text ≠ [] → k = false) →
    (text = [] → aptCrlfSegmentationTest k ⟨B, [], [], true⟩ = k) →
    (lineMachine v).Along (ByteOk closed rxSize) ⟨.header m, k, []⟩ text →
    HeaderLoopSpec v closed rxSize m k text
      (headerSectionLoop fuel (v.header m) ⟨B, text, [], false⟩) := by
  intro fuel
  induction fuel with
  | zero => intro m k B text hfuel; omega
  | succ fuel ih =>
    intro m k B text hfuel hk hk0 hok
    rcases line_cases text with htext | ⟨line, e, tail, rfl, hline, he⟩
    · -- no end of line in the buffer: nothing is read
      have hloop : headerSectionLoop (fuel + 1) (v.header m) ⟨B, text, [], false⟩ =
          (false, v.header m, ⟨B, text, [], true⟩) := by
        simp [headerSectionLoop, headerFieldParse_noEol B htext, TextStream.isEnd]
      rw [hloop]
      refine ⟨rfl, fun _ => ⟨?_, by simp [TextStream.isEnd], htext⟩, fun h => (by cases h),
        le_rfl, fun h => (by cases h)⟩
      have hkeep : aptCrlfSegmentationTest k ⟨B, text, [], true⟩ = k := by
        cases text with
        | nil => exact hk0 rfl
        | cons c t => rw [hk (by simp)]; simp [aptCrlfSegmentationTest]
      simp only [v.setHeader_header, hkeep]
      exact Transducer.Passes.refl _ _
    · obtain rfl : k = false := hk (by simp)
      have hpass : (lineMachine v).Passes (ByteOk closed rxSize) _ _ _ _ _ :=
        passes_headerLine m hline he tail
      have hok' := hpass.along hok
      have hfresh : FreshStage (lineDone v (.header m) line e).1 := lineDone_fresh rfl line e
      have hnext := not_wsp_of_along hfresh hok'
      have hparse := headerFieldParse_line B hline he hnext
      have hlt := eolRest_length_lt e tail
      have hlen : (eolRest (e :: tail)).length < fuel := by
        rw [List.length_append] at hfuel
        omega
      rw [headerSectionLoop]
      simp only [hparse]
      -- the three kinds of line: malformed, the empty line, a header field
      cases hpair : headerOfLine line with
      | none =>
        have hdone : lineDone v (.header m) line e = (.header m, e == tokenCr, []) := by
          simp [lineDone, hpair]
        rw [hdone] at hpass hok'
        refine HeaderLoopSpec.behind_line (v.setHeader_header m).symm he hpass rfl ?_
        intro hrest
        rw [beq_cr_of_rest hrest] at hok'
        exact ih m false _ _ hlen (fun _ => rfl) (fun h => absurd h hrest) hok'
      | some pair =>
        by_cases hname : pair.name.isEmpty = true
        · have hdone : lineDone v (.header m) line e =
              ((headerDone v m).1, e == tokenCr, (headerDone v m).2) := by
            simp [lineDone, hpair, hname]
          rw [hdone] at hpass
          simp only [hname, if_true]
          have hshort := eolRest_line_length_lt line e tail
          refine ⟨rfl, fun h => (by cases h), fun _ => ⟨?_, rfl⟩, hshort.le, fun _ => hshort⟩
          rw [v.setHeader_header]
          simpa only [behindLine, crlfTest_line B line he tail] using hpass
        · have hname' : pair.name.isEmpty = false := by simpa using hname
          have hdone : lineDone v (.header m) line e =
              (.header (v.setHeader m (headerFieldAppend (v.header m) pair)),
                e == tokenCr, []) := by
            simp [lineDone, hpair, hname']
          rw [hdone] at hpass hok'
          simp only [hname']
          refine HeaderLoopSpec.behind_line rfl he hpass rfl ?_
          intro hrest
          rw [beq_cr_of_rest hrest] at hok'
          exact ih _ false _ _ hlen (fun _ => rfl) (fun h => absurd h hrest) hok'

/-! ## The body -/

/-- A body stage still waits for a byte. -/
def WfStage : ParserStage M → Prop
  | .body _ n read => read.length < n
  | _ => True

theorem run_body (m : M) (n : Nat) :
    ∀ (text read : Bytes), read.length + text.length < n →
      (lineMachine v).run ⟨.body m n read, false, []⟩ text =
        (⟨.body m n (read ++ text), false, []⟩, []) := by
  intro text
  induction text with
  | nil => intro read _; simp
  | cons b text ih =>
    intro read hlen
    rw [List.length_cons] at hlen
    have hstep : (lineMachine v).step ⟨.body m n read, false, []⟩ b =
        (⟨.body m n (read ++ [b]), false, []⟩, []) := by
      have hlt : read.length + 1 < n := by omega
      rw [lineMachine_step, lineStep_body]
      simp [bodyByte, hlt]
    rw [Transducer.run_cons, hstep, ih (read ++ [b]) (by simp; omega)]
    simp

theorem run_body_done (m : M) (n : Nat) (read : Bytes) (htext : text ≠ [])
    (hlen : read.length + text.length = n) :
    (lineMachine v).run ⟨.body m n read, false, []⟩ text =
      (⟨.startLine, false, []⟩, [v.setBody m (read ++ text)]) := by
  obtain ⟨init, b, rfl⟩ := (List.eq_nil_or_concat' text).resolve_left htext
  rw [List.length_append, List.length_singleton] at hlen
  have hstep : (lineMachine v).step ⟨.body m n (read ++ init), false, []⟩ b =
      (⟨.startLine, false, []⟩, [v.setBody m (read ++ init ++ [b])]) := by
    have hge : ¬ (read ++ init ++ [b]).length < n := by simp; omega
    rw [lineMachine_step, lineStep_body]
    simp only [bodyByte, hge, if_false]
  rw [Transducer.run_append, run_body m n init read (by omega), Transducer.run_cons, hstep]
  simp

/-! ## One run of the parser -/

/-- One run of the parser passes over what the machine passes over, and stops
at the end of the stream or in front of an unfinished line. -/
structure RunSpec (v : LineVtable M) (closed : Bytes → Prop) (rxSize : Nat)
    (s : LineState M) (text : Bytes) (r : ParseResult M) : Prop where
  passes : (lineMachine v).Passes (ByteOk closed rxSize) s text
    ⟨r.parser.stage, r.parser.skipLf, []⟩ r.stream.rest r.message.toList
  wf : WfStage r.parser.stage
  beyond : r.stream.beyond = []
  unfinished : r.stream.isEos = true → r.stream.rest ≠ [] →
    isLineStage r.parser.stage = true ∧ r.parser.skipLf = false ∧
      ∀ b ∈ r.stream.rest, isEol b = false
  rest_le : r.stream.rest.length ≤ text.length
  shorter : text ≠ [] → r.stream.isEos = false → r.stream.rest.length < text.length

theorem bodyStage_spec (m : M) (n : Nat) (read : Bytes) (k : Bool) (B text : Bytes)
    (hwf : read.length < n) (hk : text ≠ [] → k = false) :
    RunSpec v closed rxSize ⟨.body m n read, k, []⟩ text
      (bodyStage v.toParserVtable m n read k ⟨B, text, [], false⟩) := by
  by_cases hmore : n - read.length > text.length
  · -- the body goes on in the next chunk
    have hr : bodyStage v.toParserVtable m n read k ⟨B, text, [], false⟩ =
        ⟨.incomplete, none, ⟨.body m n (read ++ text), k⟩, ⟨B ++ text, [], [], false⟩⟩ := by
      simp [bodyStage, aptMessageBodyRead, hmore, TextStream.advance]
    rw [hr]
    refine ⟨?_, ?_, rfl, fun h => (by cases h), Nat.zero_le _,
      fun hne _ => List.length_pos_of_ne_nil hne⟩
    · by_cases hne : text = []
      · subst hne
        simpa using Transducer.Passes.refl _ _
      · rw [hk hne]
        simpa using (lineMachine v).passes_of_run (run_body m n text read (by omega)) []
    · show (read ++ text).length < n
      rw [List.length_append]
      omega
  · -- the body ends in this buffer
    have hle : n - read.length ≤ text.length := by omega
    have hne : text ≠ [] := by
      intro h
      rw [h, List.length_nil] at hle
      omega
    have hr : bodyStage v.toParserVtable m n read k ⟨B, text, [], false⟩ =
        ⟨.complete, some (v.setBody m (read ++ text.take (n - read.length))),
          ⟨.startLine, k⟩,
          ⟨B ++ text.take (n - read.length), text.drop (n - read.length), [], false⟩⟩ := by
      simp [bodyStage, aptMessageBodyRead, hmore, TextStream.advance]
    have hshort : (text.drop (n - read.length)).length < text.length := by
      rw [List.length_drop]
      omega
    rw [hr]
    refine ⟨?_, trivial, rfl, fun h => (by cases h), hshort.le, fun _ _ => hshort⟩
    · rw [hk hne]
      have htake : (text.take (n - read.length)).length = n - read.length := by
        rw [List.length_take]
        omega
      have hrun : (lineMachine v).run ⟨.body m n read, false, []⟩
        (text.take (n - read.length)) = _ :=
        run_body_done m n read (by rw [← List.length_pos_iff]; omega) (by omega)
      simpa using (lineMachine v).passes_of_run hrun (text.drop (n - read.length))

/-- A run that starts behind a part of the input already passed over. -/
theorem RunSpec.of_passes {s s1 : LineState M} {text rest : Bytes} {r : ParseResult M}
    (hpass : (lineMachine v).Passes (ByteOk closed rxSize) s text s1 rest [])
    (hlt : rest.length < text.length) (h : RunSpec v closed rxSize s1 rest r) :
    RunSpec v closed rxSize s text r := by
  have hle := h.rest_le
  exact ⟨by simpa using hpass.trans h.passes, h.wf, h.beyond, h.unfinished, by omega,
    fun _ _ => by omega⟩

theorem headerCompleteStage_spec {m m' : M} {k k' : Bool} {stream : TextStream}
    (hbeyond : stream.beyond = []) (heos : stream.isEos = false)
    (hlt : stream.rest.length < text.length) (hk : stream.rest ≠ [] → k' = false)
    (hpass : (lineMachine v).Passes (ByteOk closed rxSize) ⟨.header m, k, []⟩ text
      ⟨(headerDone v m').1, k', []⟩ stream.rest (headerDone v m').2) :
    RunSpec v closed rxSize ⟨.header m, k, []⟩ text
      (headerCompleteStage v.toParserVtable m' k' stream) := by
  have hnever : stream.isEos ≠ true := by simp [heos]
  rcases hc : v.onHeaderComplete m' with ⟨ok, m'', length⟩
  cases ok with
  | false =>
    simp only [headerDone, hc] at hpass
    simp only [headerCompleteStage, hc]
    exact ⟨hpass, trivial, hbeyond, fun h => absurd h hnever, hlt.le, fun _ _ => hlt⟩
  | true =>
    by_cases hzero : length = 0
    · simp only [headerDone, hc, hzero] at hpass
      simp only [headerCompleteStage, hc, hzero]
      exact ⟨hpass, trivial, hbeyond, fun h => absurd h hnever, hlt.le, fun _ _ => hlt⟩
    · simp only [headerDone, hc, hzero] at hpass
      simp only [headerCompleteStage, hc, hzero]
      obtain ⟨B', rest, beyond, eos⟩ := stream
      subst hbeyond heos
      have hpos : ([] : Bytes).length < length := by
        rw [List.length_nil]
        omega
      exact .of_passes hpass hlt (bodyStage_spec m'' length [] k' B' rest hpos hk)

theorem headerStage_spec (m : M) (k : Bool) (B text : Bytes) (hk : text ≠ [] → k = false)
    (hk0 : text = [] → aptCrlfSegmentationTest k ⟨B, [], [], true⟩ = k)
    (hok : (lineMachine v).Along (ByteOk closed rxSize) ⟨.header m, k, []⟩ text) :
    RunSpec v closed rxSize ⟨.header m, k, []⟩ text
      (headerStage v.toParserVtable m k ⟨B, text, [], false⟩) := by
  have hspec := headerSectionLoop_spec (text.length + 1) m k B text (by omega) hk hk0 hok
  have hk' : ∀ stream : TextStream, stream.rest.length ≤ text.length → stream.rest ≠ [] →
      aptCrlfSegmentationTest k stream = false := by
    intro stream hle hne
    rw [aptCrlfSegmentationTest, if_neg (by simp [hne])]
    apply hk
    rintro rfl
    exact hne (List.length_eq_zero_iff.mp (by simpa using hle))
  rcases hr : headerSectionLoop (text.length + 1) (v.header m) ⟨B, text, [], false⟩ with
    ⟨res, h', stream⟩
  rw [hr] at hspec
  simp only [headerStage, aptHeaderSectionParse, hr]
  cases res with
  | false =>
    obtain ⟨hpass, hend, hline⟩ := hspec.incomplete rfl
    refine ⟨by simpa using hpass, trivial, hspec.beyond, ?_, hspec.rest_le,
      fun _ => hspec.shorter⟩
    exact fun _ hne => ⟨rfl, hk' stream hspec.rest_le hne, hline⟩
  | true =>
    obtain ⟨hpass, heos⟩ := hspec.complete rfl
    exact headerCompleteStage_spec hspec.beyond heos (hspec.shorter heos)
      (hk' stream hspec.rest_le) hpass

/-- The start line in front of an end of line is an admissible one. -/
theorem closed_of_along (hline : ∀ b ∈ line, isEol b = false) (he : isEol e = true) {tail : Bytes}
    (hok : (lineMachine v).Along (ByteOk closed rxSize) ⟨.startLine, false, []⟩
      (line ++ e :: tail)) : closed line := by
  have h := ((Transducer.along_append _).mp hok).2
  rw [run_noEol rfl hline, List.nil_append] at h
  have hbyte := h.1
  exact hbyte.2 he

theorem onStart_line (B : Bytes) (hline : ∀ b ∈ line, isEol b = false) (he : isEol e = true)
    (tail : Bytes) :
    v.onStart ⟨B, line ++ e :: tail, [], false⟩ =
      (v.startMessage ⟨line, e :: tail⟩, behindLine B line (e :: tail)) := by
  rw [v.onStart_eq, aptTextLineRead_line B hline he tail]
  rfl

theorem startStage_spec (hclosed : ∀ line, closed line → StartLineClosed v line)
    (B text : Bytes)
    (hok : (lineMachine v).Along (ByteOk closed rxSize) ⟨.startLine, false, []⟩ text) :
    RunSpec v closed rxSize ⟨.startLine, false, []⟩ text
      (startStage v.toParserVtable ⟨B, text, [], false⟩) := by
  rcases line_cases text with htext | ⟨line, e, tail, rfl, hline, he⟩
  · simp only [startStage, v.onStart_eq, aptTextLineRead, dropWhile_noEol htext]
    exact ⟨.refl _ _, trivial, rfl, fun _ _ => ⟨rfl, rfl, htext⟩, le_rfl,
      fun _ h => by cases h⟩
  · have hpass : (lineMachine v).Passes (ByteOk closed rxSize) ⟨.startLine, false, []⟩ _ _ _ _ :=
      passes_line rfl hline he tail
    have hlt := eolRest_line_length_lt line e tail
    have hstart := hclosed line (closed_of_along hline he hok) e tail he
    cases hm : v.startMessage ⟨line, [e]⟩ with
    | none =>
      have hdone : lineDone v .startLine line e = (.startLine, false, []) := by
        simp [lineDone, hm]
      rw [hdone] at hpass
      simp only [startStage, onStart_line B hline he tail, hstart, hm]
      refine ⟨?_, trivial, rfl, fun h => (by cases h), hlt.le, fun _ _ => hlt⟩
      simpa [behindLine] using hpass.trans (passes_eol_start he tail)
    | some m =>
      have hdone : lineDone v .startLine line e = (.header m, e == tokenCr, []) := by
        simp [lineDone, hm]
      rw [hdone] at hpass
      have hpass' := hpass.trans (passes_eol (.header m) he tail)
      simp only [startStage, onStart_line B hline he tail, hstart, hm]
      simp only [behindLine, crlfTest_line B line he tail]
      refine .of_passes hpass' hlt
        (headerStage_spec m _ _ _ beq_cr_of_rest ?_ (hpass'.along hok))
      intro hrest
      have h := crlfTest_line B line he tail
      -- at the end of the buffer the second test sees the byte the first one saw
      simp only [aptCrlfSegmentationTest] at h ⊢
      rw [← h]
      split <;> simp_all

/-- One run of the parser on a non-empty buffer, in any stage. -/
theorem parserRun_spec (hclosed : ∀ line, closed line → StartLineClosed v line)
    (parser : MessageParser M) (hwf : WfStage parser.stage) (B : Bytes) (hne : text ≠ [])
    (hok : (lineMachine v).Along (ByteOk closed rxSize)
      ⟨parser.stage, parser.skipLf, []⟩ text) :
    RunSpec v closed rxSize ⟨parser.stage, parser.skipLf, []⟩ text
      (aptMessageParserRun v.toParserVtable parser ⟨B, text, [], false⟩) := by
  obtain ⟨stage, skip⟩ := parser
  -- the stages behind the skipping of a LF
  have hstages : ∀ (B text : Bytes),
      (text = [] → aptCrlfSegmentationTest false ⟨B, [], [], true⟩ = false) →
      (lineMachine v).Along (ByteOk closed rxSize) ⟨stage, false, []⟩ text →
      RunSpec v closed rxSize ⟨stage, false, []⟩ text
        (aptMessageParserRun v.toParserVtable ⟨stage, false⟩ ⟨B, text, [], false⟩) := by
    intro B text hk0 hok
    cases stage with
    | startLine => exact startStage_spec hclosed B text hok
    | header m => exact headerStage_spec m false B text (fun _ => rfl) hk0 hok
    | body m n read => exact bodyStage_spec m n read false B text hwf (fun _ => rfl)
  cases skip with
  | false => exact hstages B text (fun h => absurd h hne) hok
  | true =>
    obtain ⟨c, t, rfl⟩ := List.exists_cons_of_ne_nil hne
    by_cases hc : c = tokenLf
    · subst hc
      have hpass : (lineMachine v).Passes (ByteOk closed rxSize) ⟨stage, true, []⟩ ([tokenLf] ++ t)
          _ t _ := (lineMachine v).passes_of_run rfl t
      refine .of_passes hpass (by simp) (hstages _ t ?_ (hpass.along hok))
      intro _
      simp [aptCrlfSegmentationTest, tokenCr, tokenLf]
    · have hpass : (lineMachine v).Passes (ByteOk closed rxSize) ⟨stage, true, []⟩ (c :: t)
          ⟨stage, false, []⟩ (c :: t) [] :=
        (lineMachine v).passes_of_step_eq t (lineStep_skip hc) (byteOk_skip hc)
      have hrun : aptMessageParserRun v.toParserVtable ⟨stage, true⟩
            ⟨B, c :: t, [], false⟩ =
          aptMessageParserRun v.toParserVtable ⟨stage, false⟩ ⟨B, c :: t, [], false⟩ := by
        simp [aptMessageParserRun, aptTextCharSkip, hc]
      rw [hrun]
      have h := hstages B (c :: t) (fun h => by cases h) (hpass.along hok)
      exact ⟨by simpa using hpass.trans h.passes, h.wf, h.beyond, h.unfinished, h.rest_le,
        h.shorter⟩

/-! ## The loop and the chunks -/

/-- The parser and the bytes it left in the buffer are the state of the
machine: reading these bytes again leads from an empty line to this line. -/
structure Holds (v : LineVtable M) (closed : Bytes → Prop) (rxSize : Nat)
    (parser : MessageParser M) (held : Bytes) : Prop where
  wf : WfStage parser.stage
  along : (lineMachine v).Along (ByteOk closed rxSize)
    ⟨parser.stage, parser.skipLf, []⟩ held
  run_eq : (lineMachine v).run ⟨parser.stage, parser.skipLf, []⟩ held =
    (⟨parser.stage, parser.skipLf, held⟩, [])

/-- At the end of the stream a run of the parser holds an unfinished line. -/
theorem RunSpec.holds {s : LineState M} {r : ParseResult M} (h : RunSpec v closed rxSize s text r)
    (hend : r.stream.isEnd = true) (hok : (lineMachine v).Along (ByteOk closed rxSize) s text) :
    Holds v closed rxSize r.parser r.stream.rest := by
  refine ⟨h.wf, h.passes.along hok, ?_⟩
  by_cases hrest : r.stream.rest = []
  · rw [hrest]
    rfl
  · have heos : r.stream.isEos = true := by
      simpa [TextStream.isEnd, hrest] using hend
    obtain ⟨hline, hskip, hnoEol⟩ := h.unfinished heos hrest
    rw [hskip, run_noEol hline hnoEol, List.nil_append]

theorem messageLoop_spec (hclosed : ∀ line, closed line → StartLineClosed v line) :
    ∀ (fuel : Nat) (messages : List M) (parser : MessageParser M) (B text : Bytes),
      text ≠ [] → text.length < fuel → WfStage parser.stage →
      (lineMachine v).Along (ByteOk closed rxSize) ⟨parser.stage, parser.skipLf, []⟩ text →
      ∃ parser' stream',
        messageLoop v.toParserVtable collect fuel messages parser ⟨B, text, [], false⟩ =
          (messages ++ ((lineMachine v).run ⟨parser.stage, parser.skipLf, []⟩ text).2,
            parser', stream', true) ∧
        ((lineMachine v).run ⟨parser.stage, parser.skipLf, []⟩ text).1 =
          ⟨parser'.stage, parser'.skipLf, stream'.rest⟩ ∧
        Holds v closed rxSize parser' stream'.rest := by
  intro fuel
  induction fuel with
  | zero => intro messages parser B text _ hfuel; omega
  | succ fuel ih =>
    intro messages parser B text hne hfuel hwf hok
    have hspec := parserRun_spec hclosed parser hwf B hne hok
    rw [messageLoop]
    revert hspec
    generalize aptMessageParserRun v.toParserVtable parser ⟨B, text, [], false⟩ = r
    intro hspec
    rw [hspec.passes.run_eq]
    cases hend : r.stream.isEnd with
    | true =>
      have hholds := hspec.holds hend hok
      refine ⟨r.parser, r.stream, ?_, ?_, hholds⟩
      · simp [collect, hholds.run_eq]
      · rw [hholds.run_eq]
    | false =>
      have hrest : r.stream.rest ≠ [] ∧ r.stream.isEos = false := by
        simpa [TextStream.isEnd] using hend
      have hlt := hspec.shorter hne hrest.2
      have hbeyond := hspec.beyond
      obtain ⟨status, message, parser1, B1, rest, beyond, eos⟩ := r
      simp only at hrest hlt hbeyond hend hspec
      obtain ⟨hrest, rfl⟩ := hrest
      subst hbeyond
      obtain ⟨parser', stream', hloop, hrun, hholds⟩ :=
        ih (messages ++ message.toList) parser1 B1 rest hrest (by omega) hspec.wf
          (hspec.passes.along hok)
      refine ⟨parser', stream', ?_, hrun, hholds⟩
      rw [← List.append_assoc]
      exact hloop

/-- The line the machine is in fits the buffer. -/
theorem lineStep_length {s : LineState M} (hs : s.line.length < rxSize)
    (hb : ByteOk closed rxSize s b) : (lineStep v s b).1.line.length < rxSize := by
  have hpos : ([] : Bytes).length < rxSize := by
    rw [List.length_nil]
    omega
  unfold lineStep
  split
  · exact hs
  · rename_i hskip
    unfold ByteOk at hb
    rw [if_neg (by simpa using hskip)] at hb
    have hother : LineByteOk rxSize s.line b → isEol b = false →
        (s.line ++ [b]).length < rxSize := by
      intro h heol
      simpa using h.2 heol
    cases hstage : s.stage with
    | body m n read => exact hpos
    | startLine =>
      rw [hstage] at hb
      dsimp only
      split
      · exact hpos
      · rename_i heol
        exact hother hb.1 (by simpa using heol)
    | header m =>
      rw [hstage] at hb
      dsimp only
      split
      · exact hpos
      · rename_i heol
        exact hother hb (by simpa using heol)

/-- A connection and the byte machine in the same state. -/
structure RxRel (v : LineVtable M) (closed : Bytes → Prop) (rxSize : Nat)
    (c : RxState M) (s : LineState M) : Prop where
  state_eq : s = ⟨c.parser.stage, c.parser.skipLf, c.held⟩
  holds : Holds v closed rxSize c.parser c.held
  fits : c.held.length < rxSize

/-- One chunk takes the connection where its bytes take the machine. -/
theorem pollerReceive_simulates
    (hclosed : ∀ line, closed line → StartLineClosed v line) :
    (lineMachine v).Simulates (pollerReceive v.toParserVtable rxSize)
      (ByteOk closed rxSize) (RxRel v closed rxSize) := by
  intro c s chunk hne hrel hok
  obtain ⟨rfl, hholds, hfits⟩ := hrel
  have hall : (lineMachine v).Along (ByteOk closed rxSize)
      ⟨c.parser.stage, c.parser.skipLf, []⟩ (c.held ++ chunk) := by
    rw [Transducer.along_append, hholds.run_eq]
    exact ⟨hholds.along, hok⟩
  have hrun : (lineMachine v).run ⟨c.parser.stage, c.parser.skipLf, []⟩ (c.held ++ chunk) =
      (lineMachine v).run ⟨c.parser.stage, c.parser.skipLf, c.held⟩ chunk := by
    rw [Transducer.run_append, hholds.run_eq]
    simp
  obtain ⟨parser', stream', hloop, hstate, hholds'⟩ :=
    messageLoop_spec hclosed ((c.held ++ chunk).length + 1) [] c.parser [] (c.held ++ chunk)
      (by simp [hne]) (by omega) hholds.wf hall
  rw [hrun] at hloop hstate
  refine ⟨⟨parser', stream'.rest⟩, ?_, hstate, hholds', ?_⟩
  · rw [pollerReceive, if_neg (by omega)]
    simp only [receive, hloop, aptTextStreamScroll, List.nil_append, if_true]
  · have h := (lineMachine v).run_invariant (fun s b hs hb => lineStep_length hs hb) chunk _
      hfits hok
    rw [hstate] at h
    exact h

/-- Every cut of an admissible stream gives the messages the byte machine
reads from the stream. -/
theorem receiveAll_eq_lineMachine
    (hclosed : ∀ line, closed line → StartLineClosed v line) (hpos : 0 < rxSize)
    (chunks : List Bytes) (hne : ∀ chunk ∈ chunks, chunk ≠ [])
    (hok : (lineMachine v).Along (ByteOk closed rxSize) ⟨.startLine, false, []⟩
      chunks.flatten) :
    (Transducer.receiveAll (pollerReceive v.toParserVtable rxSize) (RxState.init M)
        chunks).map Prod.snd =
      some ((lineMachine v).run ⟨.startLine, false, []⟩ chunks.flatten).2 := by
  obtain ⟨c', hrecv, -⟩ := (lineMachine v).receiveAll_eq_run
    (pollerReceive_simulates hclosed) chunks (.init M) _ ⟨rfl, ⟨trivial, trivial, rfl⟩, hpos⟩
    hne hok
  rw [hrecv]
  rfl

end Machine

end UniMrcp.Transport
