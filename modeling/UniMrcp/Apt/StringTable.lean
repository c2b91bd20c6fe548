import Mathlib.Data.List.GetD
import UniMrcp.Apt.TextStream

/-!
# String tables

A model of `apr-toolkit/src/apt_string_table.c` and of the case insensitive
comparison of `apt_string.h`.  A table item carries a key position; the
search compares the byte at that position before it compares the strings.
-/

namespace UniMrcp.Apt

open UniMrcp.Lib

/-- `tolower` of the C locale. -/
def toLower (b : UInt8) : UInt8 := if 65 ≤ b && b ≤ 90 then b + 32 else b

/-- `strncasecmp(s, t, n) == 0` for two strings of `n` bytes: the comparison
ends early where both have a NUL. -/
def strncasecmpEq : Bytes → Bytes → Bool
  | a :: s, b :: t => toLower a == toLower b && (a == 0 || strncasecmpEq s t)
  | _, _ => true

/-- `apt_string_compare` -/
def aptStringCompare (str1 str2 : Bytes) : Bool :=
  if str1.length != str2.length || str1.isEmpty then false
  else strncasecmpEq str1 str2

/-- `apt_str_table_item_t` -/
structure StrTableItem where
  value : Bytes
  key : Nat

/-- A table item from its source text. -/
def strTableItem (value : String) (key : Nat) : StrTableItem := ⟨bytesOf value, key⟩

/-- `apt_string_table_str_get` -/
def aptStringTableStrGet (table : List StrTableItem) (id : Nat) : Option Bytes :=
  (table[id]?).map StrTableItem.value

/-- The body of the loop of `apt_string_table_id_find`. -/
def StrTableItem.accepts (item : StrTableItem) (value : Bytes) : Bool :=
  if item.value.length != value.length then false
  else if item.key < value.length then
    toLower (item.value.getD item.key 0) == toLower (value.getD item.key 0) &&
      aptStringCompare item.value value
  else aptStringCompare item.value value

/-- The loop of `apt_string_table_id_find` from item `i` on. -/
def aptStringTableIdFindFrom : List StrTableItem → Nat → Bytes → Nat
  | [], i, _ => i
  | item :: table, i, value =>
    if item.accepts value then i else aptStringTableIdFindFrom table (i + 1) value

/-- `apt_string_table_id_find`: the size of the table when nothing matches. -/
def aptStringTableIdFind (table : List StrTableItem) (value : Bytes) : Nat :=
  aptStringTableIdFindFrom table 0 value

/-! ## The search

The comparison of the key bytes is implied by that of the strings, so the search
is a plain one.  The empty string is never found. -/

/-- The strings are equal ignoring case. -/
def sameText (str1 str2 : Bytes) : Bool := str1.map toLower == str2.map toLower

section

variable {s t : Bytes} (hs : 0 ∉ s)
include hs

theorem strncasecmpEq_eq (hlength : s.length = t.length) : strncasecmpEq s t = sameText s t := by
  induction s generalizing t with
  | nil => simp [strncasecmpEq, sameText, List.eq_nil_of_length_eq_zero hlength.symm]
  | cons a s ih =>
    obtain ⟨b, t, rfl⟩ := List.exists_cons_of_length_eq_add_one hlength.symm
    obtain ⟨ha, hs⟩ := not_or.mp (mt List.mem_cons.mpr hs)
    rw [strncasecmpEq, ih hs (Nat.succ.inj hlength), beq_false_of_ne (Ne.symm ha)]
    rfl

theorem aptStringCompare_eq : aptStringCompare s t = (!t.isEmpty && sameText s t) := by
  unfold aptStringCompare
  by_cases hlength : s.length = t.length
  · have hempty : s.isEmpty = t.isEmpty := by
      rw [Bool.eq_iff_iff, List.isEmpty_iff_length_eq_zero, List.isEmpty_iff_length_eq_zero,
        hlength]
    rw [strncasecmpEq_eq hs hlength, hempty]
    cases t.isEmpty <;> simp [hlength]
  · have hdiffer : sameText s t = false :=
      beq_false_of_ne fun heq => hlength (by simpa using congrArg List.length heq)
    simp [hlength, hdiffer]

theorem StrTableItem.accepts_eq (key : Nat) :
    StrTableItem.accepts ⟨s, key⟩ t = (!t.isEmpty && sameText s t) := by
  rw [← aptStringCompare_eq hs]
  unfold StrTableItem.accepts
  by_cases hlength : s.length = t.length
  · rw [if_neg (by simpa using hlength)]
    split
    · refine Bool.and_eq_right_iff_imp.mpr fun hequal => ?_
      rw [aptStringCompare_eq hs, Bool.and_eq_true] at hequal
      have hkey := congrArg (·.getD key (toLower 0)) (eq_of_beq hequal.2)
      simp only [List.getD_map] at hkey
      exact beq_iff_eq.mpr hkey
    · rfl
  · simp [aptStringCompare, hlength]

end

theorem aptStringTableIdFindFrom_eq {table : List StrTableItem} (value : Bytes)
    (h : ∀ item ∈ table, 0 ∉ item.value) (i : Nat) :
    aptStringTableIdFindFrom table i value =
      i + table.findIdx (fun item => !value.isEmpty && sameText item.value value) := by
  induction table generalizing i with
  | nil => rfl
  | cons item table ih =>
    obtain ⟨hitem, htable⟩ := List.forall_mem_cons.mp h
    rw [aptStringTableIdFindFrom, List.findIdx_cons, ih htable, StrTableItem.accepts_eq hitem]
    cases !value.isEmpty && sameText item.value value
    · exact Nat.add_right_comm i 1 _
    · rfl

/-- The search finds the first entry that is the value, ignoring case; there is
none for an empty value. -/
theorem string_table_linear_search (table : List StrTableItem) (value : Bytes)
    (h : ∀ item ∈ table, 0 ∉ item.value) :
    aptStringTableIdFind table value =
      table.findIdx (fun item => !value.isEmpty && sameText item.value value) :=
  (aptStringTableIdFindFrom_eq value h 0).trans (Nat.zero_add _)

/-- `stop` is the second of SPEAK and STOP, whatever their keys are. -/
theorem string_table_linear_search_stop :
    aptStringTableIdFind [⟨[83, 80, 69, 65, 75], 1⟩, ⟨[83, 84, 79, 80], 9⟩] [115, 116, 111, 112] =
      1 :=
  string_table_linear_search _ _ (by decide)

/-- An empty entry is not found. -/
theorem empty_value_not_found : sameText [] [] = true ∧ aptStringTableIdFind [⟨[], 0⟩] [] = 1 := by
  decide

end UniMrcp.Apt
