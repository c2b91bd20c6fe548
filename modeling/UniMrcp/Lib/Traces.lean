import Mathlib.Data.List.Basic
import Mathlib.Data.Option.Basic

/-!
# Systems that answer

`step s a` takes a system from the state `s` by the call `a` to the next state,
and gives the answer to the call; it is `none` where the call has no outcome.
`run` collects the answers of a list of calls.

`run_related` is the rule for two systems that answer alike, and `run_answers`
the one for a property of every answer.
-/

namespace UniMrcp.Lib.Traces

variable {S T A B O : Type}

/-- The state behind a list of calls, and the answers. -/
def run (step : S → A → Option (S × O)) (s : S) : List A → Option (S × List O)
  | [] => some (s, [])
  | a :: as => (step s a).bind (fun next =>
      (run step next.1 as).map (fun rest => (rest.1, next.2 :: rest.2)))

/-- Every call of the run meets `P` in the state it finds. -/
def Along (step : S → A → Option (S × O)) (P : S → A → Prop) (s : S) : List A → Prop
  | [] => True
  | a :: as => P s a ∧ ∀ next ∈ step s a, Along step P next.1 as

instance decidableAlong (step : S → A → Option (S × O)) (P : S → A → Prop)
    [∀ s a, Decidable (P s a)] : ∀ (s : S) (as : List A), Decidable (Along step P s as)
  | _, [] => isTrue trivial
  | s, a :: as =>
    match hs : step s a with
    | none => decidable_of_iff (P s a)
        ⟨fun h => ⟨h, fun next hnext => by rw [hs] at hnext; cases hnext⟩, fun h => h.1⟩
    | some next =>
      have := decidableAlong step P next.1 as
      decidable_of_iff (P s a ∧ Along step P next.1 as)
        ⟨fun h => ⟨h.1, fun next' hnext => by
            rw [hs] at hnext
            cases hnext
            exact h.2⟩,
          fun h => ⟨h.1, h.2 next hs⟩⟩

/-- Two outcomes that are both missing, or have related states and the same
answers. -/
def Alike {P : Type} (R : S → T → Prop) (x : Option (S × P)) (y : Option (T × P)) : Prop :=
  Option.Rel (fun next next' => R next.1 next'.1 ∧ next.2 = next'.2) x y

theorem Alike.cases {P : Type} {R : S → T → Prop} {x : Option (S × P)} {y : Option (T × P)}
    (h : Alike R x y) :
    (x = none ∧ y = none) ∨
      ∃ s t p, x = some (s, p) ∧ y = some (t, p) ∧ R s t := by
  cases h with
  | none => exact .inl ⟨rfl, rfl⟩
  | @some next next' h =>
    obtain ⟨s, p⟩ := next
    obtain ⟨t, p'⟩ := next'
    obtain ⟨hR, rfl⟩ := h
    exact .inr ⟨s, t, p, rfl, rfl, hR⟩

variable {step : S → A → Option (S × O)} {step' : T → B → Option (T × O)}

theorem along_of_forall {P : A → Prop} (as : List A) (s : S) (h : ∀ a ∈ as, P a) :
    Along step (fun _ a => P a) s as := by
  induction as generalizing s with
  | nil => trivial
  | cons a as ih =>
    exact ⟨h a List.mem_cons_self,
      fun next _ => ih next.1 fun b hb => h b (List.mem_cons_of_mem a hb)⟩

theorem along_true (as : List A) (s : S) : Along step (fun _ _ => True) s as :=
  along_of_forall as s fun _ _ => trivial

theorem run_append (s : S) (as as' : List A) :
    run step s (as ++ as') = (run step s as).bind (fun first =>
      (run step first.1 as').map (fun rest => (rest.1, first.2 ++ rest.2))) := by
  induction as generalizing s with
  | nil => cases h : run step s as' <;> simp [run]
  | cons a as ih =>
    simp only [List.cons_append, run]
    cases step s a with
    | none => rfl
    | some next =>
      simp only [Option.bind_some, ih]
      cases run step next.1 as with
      | none => rfl
      | some first =>
        simp only [Option.bind_some, Option.map_some]
        cases run step first.1 as' <;> rfl

theorem along_append {P : S → A → Prop} (as as' : List A) {s : S}
    (h : Along step P s (as ++ as')) :
    Along step P s as ∧ ∀ final ∈ run step s as, Along step P final.1 as' := by
  induction as generalizing s with
  | nil =>
    refine ⟨trivial, fun final hfinal => ?_⟩
    cases hfinal
    exact h
  | cons a as ih =>
    refine ⟨⟨h.1, fun next hnext => (ih (h.2 next hnext)).1⟩, fun final hfinal => ?_⟩
    obtain ⟨next, hnext, hrest⟩ := Option.bind_eq_some_iff.mp hfinal
    obtain ⟨rest, hafter, rfl⟩ := Option.map_eq_some_iff.mp hrest
    exact (ih (h.2 next hnext)).2 rest hafter

/-- Each call has an answer. -/
theorem run_length (as : List A) {s : S} {final : S × List O} (h : run step s as = some final) :
    final.2.length = as.length := by
  induction as generalizing s final with
  | nil =>
    cases h
    rfl
  | cons a as ih =>
    obtain ⟨next, -, hrest⟩ := Option.bind_eq_some_iff.mp h
    obtain ⟨rest, hafter, rfl⟩ := Option.map_eq_some_iff.mp hrest
    simp [ih hafter]

/-- Two systems whose steps are alike answer alike. -/
theorem run_related {R : S → T → Prop} {P : T → B → Prop} {f : B → A}
    (hstep : ∀ s t b, R s t → P t b → Alike R (step s (f b)) (step' t b)) (bs : List B)
    (s : S) (t : T) (hR : R s t) (hP : Along step' P t bs) :
    Alike R (run step s (bs.map f)) (run step' t bs) := by
  induction bs generalizing s t with
  | nil => exact .some ⟨hR, rfl⟩
  | cons b bs ih =>
    simp only [List.map_cons, run]
    rcases (hstep s t b hR hP.1).cases with ⟨hs, ht⟩ | ⟨s', t', o, hs, ht, hR'⟩
    · rw [hs, ht]
      exact .none
    · rw [hs, ht]
      simp only [Option.bind_some]
      rcases (ih s' t' hR' (hP.2 _ ht)).cases with ⟨hs, ht⟩ | ⟨s'', t'', os, hs, ht, hR''⟩
      · rw [hs, ht]
        exact .none
      · rw [hs, ht]
        exact .some ⟨hR'', rfl⟩

/-- A system that shows a part of each answer shows that part of the answers of
a run. -/
theorem run_map {P : Type} (f : O → P) (as : List A) (s : S) :
    run (fun s a => (step s a).map (fun next => (next.1, f next.2))) s as =
      (run step s as).map (fun final => (final.1, final.2.map f)) := by
  induction as generalizing s with
  | nil => rfl
  | cons a as ih =>
    simp only [run]
    cases step s a with
    | none => rfl
    | some next =>
      simp only [Option.map_some, Option.bind_some, ih]
      cases run step next.1 as <;> rfl

/-- What every step keeps and shows in its answer, every answer of a run
shows. -/
theorem run_answers {I : S → Prop} {P : A → Prop} {Q : O → Prop}
    (hstep : ∀ s a next, I s → P a → step s a = some next → I next.1 ∧ Q next.2) (as : List A)
    (s : S) (hs : I s) (hP : ∀ a ∈ as, P a) {final : S × List O}
    (hrun : run step s as = some final) : I final.1 ∧ ∀ o ∈ final.2, Q o := by
  induction as generalizing s final with
  | nil =>
    cases hrun
    exact ⟨hs, fun o ho => (nomatch ho)⟩
  | cons a as ih =>
    obtain ⟨next, hnext, hrest⟩ := Option.bind_eq_some_iff.mp hrun
    obtain ⟨rest, hafter, rfl⟩ := Option.map_eq_some_iff.mp hrest
    obtain ⟨hI, hQ⟩ := hstep s a next hs (hP a (by simp)) hnext
    obtain ⟨hend, hrest⟩ := ih next.1 hI (fun a ha => hP a (by simp [ha])) hafter
    exact ⟨hend, List.forall_mem_cons.mpr ⟨hQ, hrest⟩⟩

end UniMrcp.Lib.Traces
