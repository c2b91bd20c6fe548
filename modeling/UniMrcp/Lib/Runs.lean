import Mathlib.Logic.Basic

/-!
# Runs of a system

A system moves from state to state by inputs; `step s a` is `none` where the
input has no outcome.  Two notions speak about a whole run:

* `Along P`: every input of the run meets `P` in the state it finds;
* `Always I`: `I` holds in every state the run reaches.

`always_of_along` is the rule for invariants, and `always_iff_along` the one
for conditions that are exact: what breaks the condition breaks the invariant
at once.
-/

namespace UniMrcp.Lib.Runs

variable {S A : Type} (step : S → A → Option S)

/-- The state behind a list of inputs. -/
def after (s : S) : List A → Option S
  | [] => some s
  | a :: as => (step s a).bind (fun s' => after s' as)

/-- `P` holds of every state the run meets with the input it gets there. -/
def Along (P : S → A → Prop) (s : S) : List A → Prop
  | [] => True
  | a :: as => ∀ s', step s a = some s' → P s a ∧ Along P s' as

/-- `I` holds in every state of the run. -/
def Always (I : S → Prop) (s : S) : List A → Prop
  | [] => I s
  | a :: as => I s ∧ ∀ s', step s a = some s' → Always I s' as

instance decidableAlong (P : S → A → Prop) [∀ s a, Decidable (P s a)] :
    ∀ (s : S) (as : List A), Decidable (Along step P s as)
  | _, [] => isTrue trivial
  | s, a :: as =>
    match hs : step s a with
    | none => isTrue (fun s' h => by rw [hs] at h; cases h)
    | some s' =>
      have := decidableAlong P s' as
      decidable_of_iff (P s a ∧ Along step P s' as)
        ⟨fun h s'' hs'' => by rw [hs] at hs''; cases hs''; exact h,
          fun h => h s' hs⟩

variable {step} {P Q : S → A → Prop} {I : S → Prop} {as : List A}

theorem Along.true (as : List A) (s : S) : Along step (fun _ _ => True) s as := by
  induction as generalizing s with
  | nil => trivial
  | cons a as ih => exact fun s' _ => ⟨trivial, ih s'⟩

theorem Along.and (as : List A) (s : S) :
    Along step (fun s a => P s a ∧ Q s a) s as ↔ Along step P s as ∧ Along step Q s as := by
  induction as generalizing s with
  | nil => simp [Along]
  | cons a as ih =>
    simp only [Along, ih]
    constructor
    · intro h
      exact ⟨fun s' hs => ⟨(h s' hs).1.1, (h s' hs).2.1⟩,
        fun s' hs => ⟨(h s' hs).1.2, (h s' hs).2.2⟩⟩
    · rintro ⟨h, h'⟩ s' hs
      exact ⟨⟨(h s' hs).1, (h' s' hs).1⟩, (h s' hs).2, (h' s' hs).2⟩

/-- What every admissible step keeps holds in every state of an admissible
run. -/
theorem always_of_along (hstep : ∀ s a s', I s → P s a → step s a = some s' → I s')
    (as : List A) (s : S) (hs : I s) (h : Along step P s as) : Always step I s as := by
  induction as generalizing s with
  | nil => exact hs
  | cons a as ih =>
    refine ⟨hs, fun s' hs' => ?_⟩
    obtain ⟨hP, h⟩ := h s' hs'
    exact ih s' (hstep s a s' hs hP hs') h

/-- What an invariant and the condition say about a step holds along the
run. -/
theorem along_of_invariant
    (hstep : ∀ s a s', I s → P s a → step s a = some s' → I s' ∧ Q s a)
    (as : List A) (s : S) (hs : I s) (h : Along step P s as) : Along step Q s as := by
  induction as generalizing s with
  | nil => trivial
  | cons a as ih =>
    intro s' hs'
    obtain ⟨hP, h⟩ := h s' hs'
    obtain ⟨hI, hQ⟩ := hstep s a s' hs hP hs'
    exact ⟨hQ, ih s' hI h⟩

theorem Always.head {s : S} (h : Always step I s as) : I s := by
  cases as with
  | nil => exact h
  | cons a as => exact h.1

theorem Always.mono {J : S → Prop} (hIJ : ∀ s, I s → J s) {s : S} (h : Always step I s as) :
    Always step J s as := by
  induction as generalizing s with
  | nil => exact hIJ s h
  | cons a as ih => exact ⟨hIJ s h.1, fun s' hs => ih (h.2 s' hs)⟩

/-- A run keeps the condition wherever the states it reaches show it. -/
theorem along_of_always (hstep : ∀ s a s', I s → I s' → step s a = some s' → P s a)
    (as : List A) (s : S) (h : Always step I s as) : Along step P s as := by
  induction as generalizing s with
  | nil => trivial
  | cons a as ih =>
    intro s' hs'
    exact ⟨hstep s a s' h.1 (h.2 s' hs').head hs', ih s' (h.2 s' hs')⟩

/-- `K` carries a run as long as its inputs meet the condition, and an input
that does not meet it breaks the invariant at once. -/
theorem always_iff_along {K : S → Prop} {E : S → A → Prop} (hinv : ∀ s, K s → I s)
    (hkeep : ∀ s a s', K s → E s a → P s a → step s a = some s' → K s')
    (hexact : ∀ s a s', K s → E s a → I s' → step s a = some s' → P s a)
    (as : List A) (s : S) (hs : K s) (hE : Along step E s as) :
    Always step I s as ↔ Along step P s as := by
  constructor
  · intro h
    induction as generalizing s with
    | nil => trivial
    | cons a as ih =>
      intro s' hs'
      obtain ⟨hEa, hE⟩ := hE s' hs'
      have hP := hexact s a s' hs hEa (h.2 s' hs').head hs'
      exact ⟨hP, ih s' (hkeep s a s' hs hEa hP hs') hE (h.2 s' hs')⟩
  · intro h
    have hboth := (Along.and as s).mpr ⟨hE, h⟩
    have hK := always_of_along (fun s a s' hs hEP hs' => hkeep s a s' hs hEP.1 hEP.2 hs')
      as s hs hboth
    exact hK.mono hinv

/-- What every step of a run moves along. -/
theorem after_related {R : S → S → Prop} (hrefl : ∀ s, R s s)
    (htrans : ∀ {a b c}, R a b → R b c → R a c) (hstep : ∀ {s a s'}, step s a = some s' → R s s')
    {s s' : S} (h : after step s as = some s') :
    R s s' := by
  induction as generalizing s with
  | nil => obtain rfl := Option.some.inj h; exact hrefl s
  | cons a as ih =>
    obtain ⟨s1, hs1, h⟩ := Option.bind_eq_some_iff.mp h
    exact htrans (hstep hs1) (ih h)

/-- The last state of a run. -/
theorem Always.after {s s' : S} (h : Always step I s as) (hs : after step s as = some s') :
    I s' := by
  induction as generalizing s with
  | nil => cases hs; exact h
  | cons a as ih =>
    obtain ⟨s1, hs1, hs⟩ := Option.bind_eq_some_iff.mp hs
    exact ih (h.2 s1 hs1) hs

end UniMrcp.Lib.Runs
