import Mathlib.Data.List.Basic

/-!
# Transducers fed in pieces

A transducer reads one symbol at a time and emits a list of outputs at each.
`run` feeds it a list of symbols.  `Along P` says that `P` holds of every
state and symbol the run meets.

A receiver is fed whole chunks and keeps a state of its own.  If one chunk
takes the receiver and the transducer from related states to related states
with the same outputs, then so does every sequence of chunks
(`receiveAll_eq_run`): what the receiver emits depends on the concatenation
of the chunks alone.
-/

namespace UniMrcp.Lib

/-- A machine that reads symbols of `B` and emits outputs of `O`. -/
structure Transducer (S B O : Type) where
  step : S → B → S × List O

namespace Transducer

variable {S B O : Type} (T : Transducer S B O) {P : S → B → Prop}

/-- The state and the outputs after a list of symbols. -/
def run (s : S) : List B → S × List O
  | [] => (s, [])
  | b :: bs => ((run (T.step s b).1 bs).1, (T.step s b).2 ++ (run (T.step s b).1 bs).2)

@[simp] theorem run_nil (s : S) : T.run s [] = (s, []) := rfl

theorem run_cons (s : S) (b : B) (bs : List B) :
    T.run s (b :: bs) =
      ((T.run (T.step s b).1 bs).1, (T.step s b).2 ++ (T.run (T.step s b).1 bs).2) := rfl

theorem run_append (s : S) (as bs : List B) :
    T.run s (as ++ bs) =
      ((T.run (T.run s as).1 bs).1, (T.run s as).2 ++ (T.run (T.run s as).1 bs).2) := by
  induction as generalizing s with
  | nil => simp
  | cons a as ih => simp [run_cons, ih]

/-- `P` holds at every step of a run. -/
def Along (P : S → B → Prop) (s : S) : List B → Prop
  | [] => True
  | b :: bs => P s b ∧ Along P (T.step s b).1 bs

@[simp] theorem along_nil (P : S → B → Prop) (s : S) : T.Along P s [] := trivial

theorem along_cons {s : S} {b : B} {bs : List B} :
    T.Along P s (b :: bs) ↔ P s b ∧ T.Along P (T.step s b).1 bs := Iff.rfl

instance decidableAlong (P : S → B → Prop) [∀ s b, Decidable (P s b)] :
    ∀ (s : S) (bs : List B), Decidable (T.Along P s bs)
  | _, [] => isTrue trivial
  | s, b :: bs =>
    have := decidableAlong P (T.step s b).1 bs
    inferInstanceAs (Decidable (P s b ∧ T.Along P (T.step s b).1 bs))

theorem along_append {s : S} {as bs : List B} :
    T.Along P s (as ++ bs) ↔ T.Along P s as ∧ T.Along P (T.run s as).1 bs := by
  induction as generalizing s with
  | nil => simp
  | cons a as ih => simp [along_cons, run_cons, ih, and_assoc]

/-- What each admissible step keeps, an admissible run keeps. -/
theorem run_invariant {I : S → Prop} (hstep : ∀ s b, I s → P s b → I (T.step s b).1) :
    ∀ (bs : List B) (s : S), I s → T.Along P s bs → I (T.run s bs).1 := by
  intro bs
  induction bs with
  | nil => intro s hs _; exact hs
  | cons b bs ih =>
    intro s hs ha
    exact ih _ (hstep s b hs ha.1) ha.2

/-! ## Passing over a part of the input -/

/-- Reading `text` from `s` comes to the same as emitting `out` and then
reading `rest` from `s'`, and `P` carries over from the one run to the
other. -/
structure Passes (P : S → B → Prop) (s : S) (text : List B) (s' : S) (rest : List B)
    (out : List O) : Prop where
  run_eq : T.run s text = ((T.run s' rest).1, out ++ (T.run s' rest).2)
  along : T.Along P s text → T.Along P s' rest

variable {T} in
theorem Passes.refl (s : S) (text : List B) :
    T.Passes P s text s text [] :=
  ⟨by simp, id⟩

variable {T} in
theorem Passes.trans {s s' s'' : S} {text rest rest' : List B} {out out' : List O}
    (h : T.Passes P s text s' rest out) (h' : T.Passes P s' rest s'' rest' out') :
    T.Passes P s text s'' rest' (out ++ out') :=
  ⟨by rw [h.run_eq, h'.run_eq, List.append_assoc], fun ha => h'.along (h.along ha)⟩

/-- Reading a first part of the input. -/
theorem passes_of_run {s s' : S} {as : List B} {out : List O} (h : T.run s as = (s', out))
    (bs : List B) : T.Passes P s (as ++ bs) s' bs out := by
  refine ⟨by rw [T.run_append, h], fun ha => ?_⟩
  have hrest := (T.along_append.mp ha).2
  rwa [h] at hrest

/-- Two states that agree on the first symbol, or with no symbol left. -/
theorem passes_of_step_eq {s s' : S} {b : B} (bs : List B) (hstep : T.step s b = T.step s' b)
    (hP : P s b → P s' b) :
    T.Passes P s (b :: bs) s' (b :: bs) [] := by
  refine ⟨by rw [run_cons, run_cons, hstep]; simp, ?_⟩
  intro ha
  exact ⟨hP ha.1, hstep ▸ ha.2⟩

/-! ## Receivers -/

variable {C : Type}

/-- A receiver that takes the chunks one after another; `none` when it gives
up on one. -/
def receiveAll (recv : C → List B → Option (C × List O)) (c : C) :
    List (List B) → Option (C × List O)
  | [] => some (c, [])
  | chunk :: chunks => do
    let (c, out) ← recv c chunk
    let (c, outs) ← receiveAll recv c chunks
    some (c, out ++ outs)

/-- One chunk is received as the transducer reads it, from every pair of
related states. -/
def Simulates (recv : C → List B → Option (C × List O)) (P : S → B → Prop)
    (Rel : C → S → Prop) : Prop :=
  ∀ c s chunk, chunk ≠ [] → Rel c s → T.Along P s chunk →
    ∃ c', recv c chunk = some (c', (T.run s chunk).2) ∧ Rel c' (T.run s chunk).1

/-- Chunk by chunk the receiver emits what the transducer emits on the
concatenation. -/
theorem receiveAll_eq_run {recv : C → List B → Option (C × List O)} {Rel : C → S → Prop}
    (hsim : T.Simulates recv P Rel) (chunks : List (List B)) :
    ∀ (c : C) (s : S), Rel c s → (∀ chunk ∈ chunks, chunk ≠ []) →
      T.Along P s chunks.flatten →
      ∃ c', receiveAll recv c chunks = some (c', (T.run s chunks.flatten).2) ∧
        Rel c' (T.run s chunks.flatten).1 := by
  induction chunks with
  | nil => intro c s hrel _ _; exact ⟨c, rfl, hrel⟩
  | cons chunk chunks ih =>
    intro c s hrel hne halong
    rw [List.flatten_cons, along_append] at halong
    obtain ⟨c1, hrecv, hrel1⟩ := hsim c s chunk (hne chunk (by simp)) hrel halong.1
    obtain ⟨c2, hrest, hrel2⟩ := ih c1 (T.run s chunk).1 hrel1
      (fun d hd => hne d (by simp [hd])) halong.2
    refine ⟨c2, ?_, ?_⟩
    · simp [receiveAll, hrecv, hrest, run_append]
    · simpa [run_append] using hrel2

end Transducer

end UniMrcp.Lib
