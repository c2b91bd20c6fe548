import Mathlib.Data.List.Basic

/-!
# Circular arrays

`Holds data start xs`: the cells of the circular array `data` from the index
`start` on hold the elements of `xs`, one after the other and around the end
of the array.  The lemmas say what a queue in a circular array does:

* `Holds.put`: write the cell behind the elements;
* `Holds.take`: go one cell on;
* `Holds.unwrap`: move the elements to the front of a larger array.
-/

namespace UniMrcp.Lib.Ring

variable {α : Type} {data : List (Option α)} {start : Nat}

/-- The index `i` cells behind `start` in a circular array of `size` cells. -/
def cell (size start i : Nat) : Nat := (start + i) % size

theorem cell_eq {size start i : Nat} (hstart : start < size) (hi : i ≤ size) :
    cell size start i = if start + i < size then start + i else start + i - size := by
  unfold cell
  split
  · exact Nat.mod_eq_of_lt ‹_›
  · rw [Nat.mod_eq_sub_mod (by omega), Nat.mod_eq_of_lt (by omega)]

theorem cell_lt {size : Nat} (hsize : 0 < size) (start i : Nat) : cell size start i < size :=
  Nat.mod_lt _ hsize

theorem cell_succ (size start i : Nat) :
    cell size (cell size start 1) i = cell size start (i + 1) := by
  unfold cell
  rw [Nat.mod_add_mod, Nat.add_assoc, Nat.add_comm 1]

/-- Different cells less than one round apart. -/
theorem cell_ne {size start i j : Nat} (hstart : start < size) (hij : i < j) (hj : j < size) :
    cell size start i ≠ cell size start j := by
  rw [cell_eq hstart (by omega), cell_eq hstart (by omega)]
  split <;> split <;> omega

/-- The cells from `start` on hold the elements. -/
structure Holds (data : List (Option α)) (start : Nat) (xs : List α) : Prop where
  start_lt : start < data.length
  length_le : xs.length ≤ data.length
  get : ∀ i x, xs[i]? = some x → data[cell data.length start i]? = some (some x)

theorem holds_nil (h : start < data.length) :
    Holds data start [] :=
  ⟨h, Nat.zero_le _, fun _ _ hx => by simp at hx⟩

/-- The cell behind the elements takes one more. -/
theorem Holds.put {xs : List α} (h : Holds data start xs) (hroom : xs.length < data.length)
    (x : α) :
    Holds (data.set (cell data.length start xs.length) (some x)) start (xs ++ [x]) := by
  have hstart := h.start_lt
  refine ⟨by simpa using hstart, by simp; omega, ?_⟩
  intro i y hy
  rw [List.length_set]
  by_cases hi : i < xs.length
  · rw [List.getElem?_append_left hi] at hy
    rw [List.getElem?_set_ne (cell_ne hstart hi hroom).symm]
    exact h.get i y hy
  · obtain rfl : i = xs.length := by
      have hlt := (List.getElem?_eq_some_iff.mp hy).1
      rw [List.length_append, List.length_singleton] at hlt
      omega
    obtain rfl : x = y := by simpa using hy
    rw [List.getElem?_set_self (cell_lt (by omega) _ _)]

/-- The first element is in the first cell, and the others follow it. -/
theorem Holds.take {x : α} {xs : List α} (h : Holds data start (x :: xs)) :
    data[start]? = some (some x) ∧ Holds data (cell data.length start 1) xs := by
  have hstart := h.start_lt
  constructor
  · have hfirst := h.get 0 x rfl
    rwa [cell, Nat.add_zero, Nat.mod_eq_of_lt hstart] at hfirst
  · refine ⟨cell_lt (by omega) _ _, ?_, ?_⟩
    · have hle := h.length_le
      rw [List.length_cons] at hle
      omega
    · intro i y hy
      rw [cell_succ]
      exact h.get (i + 1) y (by simpa using hy)

/-- The array cut at `start` and put together the other way round, with free
cells behind it. -/
theorem Holds.unwrap {xs : List α} (h : Holds data start xs) (free : List (Option α)) :
    Holds (data.drop start ++ data.take start ++ free) 0 xs := by
  have hstart := h.start_lt
  have hle := h.length_le
  have hlength : (data.drop start ++ data.take start ++ free).length =
      data.length + free.length := by
    simp only [List.length_append, List.length_drop, List.length_take]
    omega
  refine ⟨by omega, by omega, ?_⟩
  intro i x hx
  have hi : i < xs.length := (List.getElem?_eq_some_iff.mp hx).1
  have hget := h.get i x hx
  rw [cell_eq hstart (by omega)] at hget
  rw [cell_eq (by omega) (by omega), Nat.zero_add, if_pos (by omega),
    List.getElem?_append_left
      (by rw [List.length_append, List.length_drop, List.length_take]; omega)]
  split at hget
  · rw [List.getElem?_append_left (by rw [List.length_drop]; omega), List.getElem?_drop]
    exact hget
  · rw [List.getElem?_append_right (by rw [List.length_drop]; omega), List.length_drop,
      List.getElem?_take_of_lt (by omega)]
    rw [show i - (data.length - start) = start + i - data.length by omega]
    exact hget

end UniMrcp.Lib.Ring
