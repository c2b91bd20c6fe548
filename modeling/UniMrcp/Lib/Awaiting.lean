import Mathlib.Data.List.Nodup

/-!
# Awaited responses

A component that sends requests and waits for their responses keeps a flag for
some of them, so that a response that was not asked for is told apart.  `key`
gives the flag that belongs to a response, where there is one.  `Keyed` says
that every awaited response finds its flag set and does not share it; the
lemmas say how a request and a response keep this.  The flags themselves are
often kept by the entries of a list.

`Delivers` says that a list of inputs brings the awaited responses, each once.
They come in any order, but for those of one responder, which keeps the order
of the requests.
-/

namespace UniMrcp.Lib

variable {α κ : Type} {key : α → Option κ}

/-- The awaited responses have flags of their own, and these are set. -/
structure Keyed (key : α → Option κ) (waiting : κ → Bool) (awaited : List α) : Prop where
  nodup : (awaited.filterMap key).Nodup
  waiting : ∀ k ∈ awaited.filterMap key, waiting k = true

namespace Keyed

variable {waiting waiting' : κ → Bool} {awaited : List α} {r : α}

theorem nil : Keyed key waiting [] := ⟨List.nodup_nil, fun _ hk => by cases hk⟩

section

variable (h : Keyed key waiting awaited)
include h

theorem mono (hset : ∀ k ∈ awaited.filterMap key, waiting k = true → waiting' k = true) :
    Keyed key waiting' awaited :=
  ⟨h.nodup, fun k hk => hset k hk (h.waiting k hk)⟩

/-- A request without a flag. -/
theorem append_none (hr : key r = none) : Keyed key waiting (awaited ++ [r]) := by
  have hkeys : (awaited ++ [r]).filterMap key = awaited.filterMap key := by
    simp [hr]
  exact ⟨hkeys ▸ h.nodup, fun k hk => h.waiting k (hkeys ▸ hk)⟩

/-- A request that sets a flag. -/
theorem append_some {k : κ} (hr : key r = some k) (hnew : k ∉ awaited.filterMap key)
    (hk : waiting' k = true) (hset : ∀ j, waiting j = true → waiting' j = true) :
    Keyed key waiting' (awaited ++ [r]) := by
  have hkeys : (awaited ++ [r]).filterMap key = awaited.filterMap key ++ [k] := by
    simp [hr]
  constructor
  · rw [hkeys, List.nodup_append]
    refine ⟨h.nodup, List.nodup_singleton k, ?_⟩
    rintro a ha b hb rfl
    rw [List.mem_singleton.mp hb] at ha
    exact hnew ha
  · intro j hj
    rw [hkeys] at hj
    rcases List.mem_append.mp hj with hj | hj
    · exact hset j (h.waiting j hj)
    · rw [List.mem_singleton.mp hj]
      exact hk

/-- The flag of an awaited response is set. -/
theorem waiting_of_mem {k : κ} (hr : r ∈ awaited) (hkey : key r = some k) : waiting k = true :=
  h.waiting k (List.mem_filterMap.mpr ⟨r, hr, hkey⟩)

end

variable [DecidableEq α]

theorem perm_filterMap_erase (key : α → Option κ) (hr : r ∈ awaited) :
    (awaited.filterMap key).Perm ((key r).toList ++ (awaited.erase r).filterMap key) := by
  have hperm := (List.perm_cons_erase hr).filterMap key
  cases hkey : key r with
  | none => simpa [hkey] using hperm
  | some k => simpa [hkey] using hperm

/-- A response arrives, and its flag may be cleared. -/
theorem erase (h : Keyed key waiting awaited) (hr : r ∈ awaited)
    (hset : ∀ k, key r ≠ some k → waiting k = true → waiting' k = true) :
    Keyed key waiting' (awaited.erase r) := by
  have hperm := perm_filterMap_erase key hr
  have hnodup := hperm.nodup_iff.mp h.nodup
  refine ⟨(List.nodup_append.mp hnodup).2.1, fun k hk => ?_⟩
  refine hset k ?_ (h.waiting k (hperm.mem_iff.mpr (List.mem_append_right _ hk)))
  intro hkey
  rw [hkey] at hnodup
  exact (List.nodup_append.mp hnodup).2.2 k (List.mem_singleton_self k) k hk rfl

end Keyed

/-! ## Flags in a list

The entries of a list carry a flag `p` each. -/

section Flags

variable {p : α → Bool} {f : α → α}

/-- A change of one entry that sets the flag `p`. -/
theorem any_modify_set (hp : ∀ a, p (f a) = true)
    {l : List α} {i : Nat} (h : (l[i]?).any p = true ∨ i < l.length) :
    ((l.modify i f)[i]?).any p = true := by
  have hi : i < l.length := by
    rcases h with h | h
    · by_contra hi
      rw [List.getElem?_eq_none (by omega)] at h
      cases h
    · exact h
  rw [List.getElem?_modify, List.getElem?_eq_getElem hi]
  simp [hp]

/-- A change of one entry that leaves the value `p`. -/
theorem map_modify_keep {β : Type} (p : α → β) (hf : ∀ a, p (f a) = p a)
    (l : List α) (i : Nat) : (l.modify i f).map p = l.map p := by
  apply List.ext_getElem? fun j => ?_
  rw [List.getElem?_map, List.getElem?_map, List.getElem?_modify]
  cases l[j]? with
  | none => rfl
  | some a => by_cases hij : i = j <;> simp [hij, hf]

/-- A change of another entry, or one that leaves the flag `p`. -/
theorem any_modify_keep {i j : Nat} (hp : i ≠ j ∨ ∀ a, p (f a) = p a) (l : List α) :
    ((l.modify i f)[j]?).any p = (l[j]?).any p := by
  rw [List.getElem?_modify]
  cases l[j]? with
  | none => rfl
  | some a =>
    rcases hp with hij | hp
    · simp [hij]
    · by_cases hij : i = j <;> simp [hij, hp]

/-- A new entry leaves the flags of the others. -/
theorem any_append {l : List α} {j : Nat}
    (h : (l[j]?).any p = true) (l' : List α) : ((l ++ l')[j]?).any p = true := by
  cases hl : l[j]? with
  | none => rw [hl] at h; cases h
  | some a =>
    have hj : j < l.length := (List.getElem?_eq_some_iff.mp hl).1
    rw [List.getElem?_append_left hj]
    exact h

end Flags

/-! ## Delivery -/

section Delivery

variable {β : Type} [DecidableEq α]

/-- The inputs bring the responses; `ordered` are those of the responder that
keeps the order. -/
def Delivers (answers : β → Option α) (ordered : α → Bool) : List α → List β → Prop
  | awaited, [] => awaited = []
  | awaited, b :: bs => ∃ r, answers b = some r ∧ r ∈ awaited ∧
      (ordered r = true → (awaited.filter ordered).head? = some r) ∧
      Delivers answers ordered (awaited.erase r) bs

instance decidableDelivers (answers : β → Option α) (ordered : α → Bool) :
    ∀ (awaited : List α) (bs : List β), Decidable (Delivers answers ordered awaited bs)
  | awaited, [] => inferInstanceAs (Decidable (awaited = []))
  | awaited, b :: bs =>
    match h : answers b with
    | none => isFalse (fun ⟨r, hr, _⟩ => by rw [h] at hr; cases hr)
    | some r =>
      have := decidableDelivers answers ordered (awaited.erase r) bs
      decidable_of_iff (r ∈ awaited ∧
          (ordered r = true → (awaited.filter ordered).head? = some r) ∧
          Delivers answers ordered (awaited.erase r) bs)
        ⟨fun hr => ⟨r, h, hr⟩, fun ⟨r', hr', hrest⟩ => by
          rw [h] at hr'
          cases hr'
          exact hrest⟩

variable {ordered : α → Bool} {awaited : List α} {r : α}

theorem filter_erase (hr : ordered r = false) :
    (awaited.erase r).filter ordered = awaited.filter ordered := by
  rw [← List.erase_filter]
  exact List.erase_of_not_mem (by simp [hr])

theorem filter_erase_head (hhead : (awaited.filter ordered).head? = some r) :
    (awaited.erase r).filter ordered = (awaited.filter ordered).tail := by
  rw [← List.erase_filter]
  cases hfilter : awaited.filter ordered with
  | nil => rfl
  | cons a l =>
    rw [hfilter] at hhead
    cases hhead
    rw [List.erase_cons_head, List.tail_cons]

/-- What is delivered in order leaves the last one for the end. -/
theorem getLast_filter_erase (hr : ordered r = true → (awaited.filter ordered).head? = some r)
    {x : α} (hx : ((awaited.erase r).filter ordered).getLast? = some x) :
    (awaited.filter ordered).getLast? = some x := by
  cases hordered : ordered r with
  | false => rwa [filter_erase hordered] at hx
  | true =>
    rw [filter_erase_head (hr hordered)] at hx
    cases hfilter : awaited.filter ordered with
    | nil => rw [hfilter] at hx; cases hx
    | cons a l =>
      rw [hfilter, List.tail_cons] at hx
      rw [List.getLast?_cons, hx]
      rfl

end Delivery

end UniMrcp.Lib
