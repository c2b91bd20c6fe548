import Mathlib.Data.List.Range

/-!
# Counting loops

`for(i = lo; i < hi; i++) body` over a state, and its invariant rule.
-/

namespace UniMrcp.Lib

variable {S : Type}

/-- `body` for every index from `lo` up to `hi`. -/
def forLoop (lo hi : Nat) (body : S → Nat → S) (s : S) : S :=
  (List.range' lo (hi - lo)).foldl body s

/-- The invariant rule: `P i` holds before the iteration `i`. -/
theorem forLoop_invariant {P : Nat → S → Prop} {lo hi : Nat} {body : S → Nat → S} {s : S}
    (hle : lo ≤ hi) (hstart : P lo s)
    (hstep : ∀ i s, lo ≤ i → i < hi → P i s → P (i + 1) (body s i)) :
    P hi (forLoop lo hi body s) := by
  have hloop : ∀ n i s, lo ≤ i → i + n = hi → P i s →
      P hi ((List.range' i n).foldl body s) := by
    intro n
    induction n with
    | zero =>
      intro i s _ hi' hs
      obtain rfl : i = hi := hi'
      exact hs
    | succ n ih =>
      intro i s hlo hi' hs
      exact ih (i + 1) (body s i) (by omega) (by omega) (hstep i s hlo (by omega) hs)
  exact hloop (hi - lo) lo s le_rfl (by omega) hstart

/-- A loop whose body moves along a preorder. -/
theorem foldl_related {α : Type} {R : S → S → Prop} (hrefl : ∀ s, R s s)
    (htrans : ∀ {a b c}, R a b → R b c → R a c) {body : S → α → S}
    (hbody : ∀ s a, R s (body s a)) (l : List α) (s : S) : R s (l.foldl body s) := by
  induction l generalizing s with
  | nil => exact hrefl s
  | cons a l ih => exact htrans (hbody s a) (ih (body s a))

/-- A loop whose body may have no outcome. -/
def forLoopM (lo hi : Nat) (body : S → Nat → Option S) (s : S) : Option S :=
  (List.range' lo (hi - lo)).foldlM body s

/-- The invariant rule for a loop over a list whose body may have no outcome:
`P l` holds when `l` is left. -/
theorem foldlM_invariant {α : Type} {P : List α → S → Prop} {body : S → α → Option S}
    (hstep : ∀ a l s s', P (a :: l) s → body s a = some s' → P l s') {l : List α} {s s' : S}
    (hs : P l s) (h : l.foldlM body s = some s') : P [] s' := by
  induction l generalizing s with
  | nil =>
    cases h
    exact hs
  | cons a l ih =>
    obtain ⟨s1, hs1, h⟩ := Option.bind_eq_some_iff.mp h
    exact ih (hstep a l s s1 hs hs1) h

/-- What every iteration keeps. -/
theorem forLoopM_keeps {P : S → Prop} {lo hi : Nat} {body : S → Nat → Option S} {s s' : S}
    (hstep : ∀ i s s', P s → body s i = some s' → P s') (hs : P s)
    (h : forLoopM lo hi body s = some s') : P s' :=
  foldlM_invariant (fun i _ s s' hs h => hstep i s s' hs h) hs h

end UniMrcp.Lib
