import Mathlib.Data.List.TakeWhile
import Mathlib.Data.Nat.Digits.Defs

/-!
# Decimal text over bytes

The decimal output of `printf` and the decimal input of `strtol`, over byte
lists.  `decimal n` is what `%u` prints; `decimalInt z` is what `%d` prints.
`strtol` skips white space, reads an optional sign and the longest run of
digits, and saturates at the bounds of a 64-bit `long`.  The end of the list
stands for the terminating NUL byte.

The two main facts are

* `strtol_decimalInt_append`: a printed number followed by anything that
  does not continue it reads back as that number;
* `strtol_append_of_stop`: what `strtol` reads depends on nothing behind a
  stopping byte, provided some byte before it is not white space.
-/

namespace UniMrcp.Lib

/-- The code of an ASCII character. -/
def byteOfChar (c : Char) : UInt8 := UInt8.ofNat c.toNat

/-- The bytes of an ASCII string literal, without a terminating NUL. -/
def bytesOf (s : String) : List UInt8 := s.toList.map byteOfChar

/-- `isdigit` of the C locale. -/
def isDigit (b : UInt8) : Bool := 48 ≤ b && b ≤ 57

/-- `isspace` of the C locale: HTAB, LF, VT, FF, CR and SP. -/
def isSpace (b : UInt8) : Bool := (9 ≤ b && b ≤ 13) || b == 32

/-- The text `%u` prints. -/
def decimal (n : Nat) : List UInt8 := (Nat.toDigits 10 n).map byteOfChar

/-- The text `%d` prints. -/
def decimalInt : Int → List UInt8
  | .ofNat n => decimal n
  | .negSucc n => 45 :: decimal (n + 1)

/-- The value of a run of digits, most significant first. -/
def digitsValue (ds : List UInt8) : Nat :=
  ds.foldl (fun acc d => 10 * acc + (d.toNat - 48)) 0

/-- Saturation at the bounds of a 64-bit `long`. -/
def clampLong (z : Int) : Int :=
  if z < -(2 ^ 63) then -(2 ^ 63) else if 2 ^ 63 ≤ z then 2 ^ 63 - 1 else z

/-- The sign and the digits of `strtol`, after the white space. -/
def strtolSigned (s : List UInt8) : Int :=
  match s with
  | [] => 0
  | c :: rest =>
    if c == 45 then -(digitsValue (rest.takeWhile isDigit) : Int)
    else if c == 43 then digitsValue (rest.takeWhile isDigit)
    else digitsValue (s.takeWhile isDigit)

/-- `strtol` in base 10, and `atol`. -/
def strtol (s : List UInt8) : Int :=
  clampLong (strtolSigned (s.dropWhile isSpace))

/-! ## Digits -/

theorem toNat_byteOfChar {c : Char} (h : c.toNat < 256) :
    (byteOfChar c).toNat = c.toNat := by
  simp [byteOfChar, Nat.mod_eq_of_lt h]

theorem toNat_of_isDigit {c : Char} (h : c.isDigit) :
    48 ≤ c.toNat ∧ c.toNat ≤ 57 := by
  simp only [Char.isDigit, Bool.and_eq_true, decide_eq_true_eq] at h
  exact h

theorem isDigit_byteOfChar {c : Char} (h : c.isDigit) :
    isDigit (byteOfChar c) = true := by
  have hc := toNat_of_isDigit h
  have hb := toNat_byteOfChar (c := c) (by omega)
  simp only [isDigit, Bool.and_eq_true, decide_eq_true_eq, UInt8.le_iff_toNat_le, hb]
  exact hc

variable {b : UInt8}

theorem isDigit_of_mem_decimal {n : Nat} (h : b ∈ decimal n) :
    isDigit b = true := by
  obtain ⟨c, hc, rfl⟩ := List.mem_map.mp h
  exact isDigit_byteOfChar (Nat.isDigit_of_mem_toDigits (by decide) (by decide) hc)

theorem decimal_ne_nil (n : Nat) : decimal n ≠ [] := by
  simp [decimal]

/-- A positive number of digits is enough exactly below the power of ten. -/
theorem length_decimal_le_iff {n k : Nat} (h : 0 < k) :
    (decimal n).length ≤ k ↔ n < 10 ^ k := by
  simp [decimal, Nat.length_toDigits_le_iff (by decide : 1 < 10) h]

@[simp] theorem digitsValue_decimal (n : Nat) : digitsValue (decimal n) = n := by
  have key : ∀ (l : List Char) (acc : Nat), (∀ c ∈ l, c.isDigit) →
      (l.map byteOfChar).foldl (fun acc d => 10 * acc + (d.toNat - 48)) acc =
        Nat.ofDigitChars 10 l acc := by
    intro l
    induction l with
    | nil => intro acc _; simp
    | cons c l ih =>
      intro acc h
      have hc := toNat_of_isDigit (h c (by simp))
      rw [List.map_cons, List.foldl_cons, toNat_byteOfChar (by omega),
        ih _ (fun d hd => h d (by simp [hd]))]
      rfl
  rw [digitsValue, decimal, key]
  · exact Nat.ofDigitChars_ten_toDigits
  · exact fun c hc => Nat.isDigit_of_mem_toDigits (by decide) (by decide) hc

/-! ## Prefix runs -/

theorem forall_head?_append {p : UInt8 → Prop} {s t : List UInt8}
    (hs : ∀ b ∈ s.head?, p b) (ht : ∀ b ∈ t.head?, p b) : ∀ b ∈ (s ++ t).head?, p b := by
  cases s with
  | nil => exact ht
  | cons b s => exact hs

/-- A run ends where the first byte behind it fails the test. -/
theorem takeWhile_append_of_stop {p : UInt8 → Bool} {s t : List UInt8}
    (hs : ∀ b ∈ s, p b = true) (ht : ∀ b ∈ t.head?, p b = false) :
    (s ++ t).takeWhile p = s := by
  rw [List.takeWhile_append_of_pos hs]
  cases t with
  | nil => simp
  | cons b t => simp [ht b (by simp)]

/-- The bytes behind a byte that fails the test do not matter. -/
theorem takeWhile_append_cons_of_stop {p : UInt8 → Bool} {e : UInt8}
    (he : p e = false) (s t : List UInt8) :
    (s ++ e :: t).takeWhile p = s.takeWhile p := by
  induction s with
  | nil => simp [he]
  | cons b s ih =>
    rw [List.cons_append, List.takeWhile_cons, List.takeWhile_cons, ih]

theorem drop_takeWhile_length (p : UInt8 → Bool) (text : List UInt8) :
    text.drop (text.takeWhile p).length = text.dropWhile p := by
  induction text with
  | nil => rfl
  | cons c text ih =>
    rw [List.takeWhile_cons, List.dropWhile_cons]
    split
    · simpa using ih
    · rfl

theorem isSpace_false_of_isDigit (h : isDigit b = true) :
    isSpace b = false := by
  grind [isSpace, isDigit]

/-! ## Reading what was printed -/

variable {t : List UInt8}

theorem strtolSigned_decimal_append (n : Nat) (ht : ∀ b ∈ t.head?, isDigit b = false) :
    strtolSigned (decimal n ++ t) = n := by
  obtain ⟨d, ds, hd⟩ := List.exists_cons_of_ne_nil (decimal_ne_nil n)
  have hdig : isDigit d = true := isDigit_of_mem_decimal (n := n) (by simp [hd])
  have h45 : (d == 45) = false := by grind [isDigit]
  have h43 : (d == 43) = false := by grind [isDigit]
  have hrun := takeWhile_append_of_stop (s := decimal n)
    (fun b hb => isDigit_of_mem_decimal hb) ht
  rw [hd, List.cons_append, strtolSigned, h45, h43]
  rw [hd, List.cons_append] at hrun
  simp [hrun, ← hd]

theorem strtolSigned_decimalInt_append (z : Int) (ht : ∀ b ∈ t.head?, isDigit b = false) :
    strtolSigned (decimalInt z ++ t) = z := by
  cases z with
  | ofNat n => exact strtolSigned_decimal_append n ht
  | negSucc n =>
    have hrun := takeWhile_append_of_stop (s := decimal (n + 1))
      (fun b hb => isDigit_of_mem_decimal hb) ht
    simp only [decimalInt, List.cons_append, strtolSigned, beq_self_eq_true, if_true,
      hrun, digitsValue_decimal]
    omega

theorem decimalInt_ne_nil (z : Int) : decimalInt z ≠ [] := by
  cases z with
  | ofNat n => exact decimal_ne_nil n
  | negSucc n => simp [decimalInt]

/-- A printed number has only digits and the minus sign in it. -/
theorem of_mem_decimalInt {z : Int} (h : b ∈ decimalInt z) :
    b = 45 ∨ isDigit b = true := by
  cases z with
  | ofNat n => exact Or.inr (isDigit_of_mem_decimal h)
  | negSucc n =>
    rcases List.mem_cons.mp h with h | h
    · exact Or.inl h
    · exact Or.inr (isDigit_of_mem_decimal h)

theorem isSpace_false_of_mem_decimalInt {z : Int} (h : b ∈ decimalInt z) :
    isSpace b = false := by
  rcases of_mem_decimalInt h with rfl | h
  · decide
  · exact isSpace_false_of_isDigit h

/-- A printed number reads back when no digit follows it. -/
theorem strtol_decimalInt_append {z : Int} (h1 : -(2 ^ 63) ≤ z) (h2 : z < 2 ^ 63)
    (ht : ∀ b ∈ t.head?, isDigit b = false) :
    strtol (decimalInt z ++ t) = z := by
  obtain ⟨d, ds, hd⟩ := List.exists_cons_of_ne_nil (decimalInt_ne_nil z)
  have hns : isSpace d = false := isSpace_false_of_mem_decimalInt (z := z) (by simp [hd])
  have hdrop : (decimalInt z ++ t).dropWhile isSpace = decimalInt z ++ t := by
    rw [hd, List.cons_append, List.dropWhile_cons, hns]
    rfl
  rw [strtol, hdrop, strtolSigned_decimalInt_append z ht, clampLong,
    if_neg (by omega), if_neg (by omega)]

/-- `strtol_decimalInt_append` for an unsigned number. -/
theorem strtol_decimal_append {n : Nat} (h : n < 2 ^ 63) (ht : ∀ b ∈ t.head?, isDigit b = false) :
    strtol (decimal n ++ t) = n :=
  strtol_decimalInt_append (z := (n : Int)) (by omega) (by omega) ht

/-! ## What `strtol` looks at -/

/-- Once the white space is over, nothing behind a non-digit is read. -/
theorem strtolSigned_append_cons_of_stop {e : UInt8} (he : isDigit e = false)
    {s : List UInt8} (hs : s ≠ []) (t : List UInt8) :
    strtolSigned (s ++ e :: t) = strtolSigned s := by
  obtain ⟨c, rest, rfl⟩ := List.exists_cons_of_ne_nil hs
  have hrest := takeWhile_append_cons_of_stop he rest t
  have hall := takeWhile_append_cons_of_stop he (c :: rest) t
  rw [List.cons_append] at hall ⊢
  simp [strtolSigned, hrest, hall]

/-- If some byte of `s` is not white space, `strtol` reads nothing behind a
non-digit that follows `s`. -/
theorem strtol_append_of_stop {e : UInt8} (he : isDigit e = false) {s : List UInt8}
    (hs : s.all isSpace = false) (t : List UInt8) :
    strtol (s ++ e :: t) = strtol s := by
  have hne : s.dropWhile isSpace ≠ [] := by
    intro h
    rw [List.dropWhile_eq_nil_iff] at h
    rw [List.all_eq_true.mpr h] at hs
    cases hs
  have hdrop : (s ++ e :: t).dropWhile isSpace = s.dropWhile isSpace ++ e :: t := by
    rw [List.dropWhile_append, if_neg (by simpa using hne)]
  rw [strtol, hdrop, strtolSigned_append_cons_of_stop he hne, ← strtol]

end UniMrcp.Lib
