import Mathlib.Data.List.Range
import Mathlib.Data.List.Nodup
import Mathlib.Data.Nat.ModEq

/-!
# The RTP port search

`mpf_rtp_stream_local_media_create` walks the configured range in steps of two
on a 16-bit position that is shared by all streams.  The walk returns to the
minimum only where it meets the maximum exactly.  The ports that a stream binds are
its RTP port and the RTCP port behind it.
-/

namespace UniMrcp.Mpf

/-- `rtp_port_cur` after one candidate. -/
def portNext (min max cur : Nat) : Nat :=
  let cur' := (cur + 2) % 2 ^ 16
  if cur' = max then min else cur'

/-- `mpf_rtp_socket_pair_bind`: the ports bound.  It fails on a busy RTP port only;
the RTCP port is tried and its failure ignored. -/
def mpfRtpSocketPairBind (busy : Nat → Bool) (port : Nat) : Option (List Nat) :=
  let rtcp := (port + 1) % 2 ^ 16
  if busy port then none else some (port :: if busy rtcp then [] else [rtcp])

/-- The RTP ports tried, the ports bound and the position left behind.  The search of
`fuel` iterations has no outcome when they are not enough. -/
def portSearch (min max : Nat) (busy : Nat → Bool) (first : Nat) :
    Nat → Nat → Option (List Nat × Option (List Nat) × Nat)
  | 0, _ => none
  | fuel + 1, cur =>
    let cur' := portNext min max cur
    match mpfRtpSocketPairBind busy cur with
    | some ports => some ([cur], some ports, cur')
    | none =>
      if first = cur' then some ([cur], none, cur')
      else (portSearch min max busy first fuel cur').map fun r => (cur :: r.1, r.2)

/-- The positions that earlier searches leave. -/
inductive Position (min max : Nat) : Nat → Prop
  | start : Position min max min
  | search {cur cur' fuel : Nat} {busy : Nat → Bool} {tried : List Nat}
      {bound : Option (List Nat)}
      (hcur : Position min max cur)
      (hsearch : portSearch min max busy cur fuel cur = some (tried, bound, cur')) :
      Position min max cur'

/-- The search ends, tries no port twice, binds inside the range only, and fails
only with every candidate busy. -/
def PortFound (min max cur : Nat) (busy : Nat → Bool) : Prop :=
  ∃ fuel tried bound cur', portSearch min max busy cur fuel cur = some (tried, bound, cur') ∧
    tried.Nodup ∧ (∀ ports ∈ bound, ∀ p ∈ ports, min ≤ p ∧ p < max) ∧
    (bound = none → ∀ i, min + 2 * i < max → busy (min + 2 * i) = true)

variable {min max : Nat}

theorem mpfRtpSocketPairBind_none {busy : Nat → Bool} {port : Nat}
    (h : mpfRtpSocketPairBind busy port = none) : busy port = true := by
  by_contra hfree
  simp [mpfRtpSocketPairBind, hfree] at h

theorem mpfRtpSocketPairBind_mem {busy : Nat → Bool} {port p : Nat} {ports : List Nat}
    (h : mpfRtpSocketPairBind busy port = some ports) (hp : p ∈ ports) :
    p = port ∨ p = (port + 1) % 2 ^ 16 := by
  unfold mpfRtpSocketPairBind at h
  split at h
  · cases h
  · cases h
    split at hp
    · exact .inl (List.mem_singleton.mp hp)
    · simpa using hp

/-- A search round a cycle `c` of `n` positions, from the `k`-th on. -/
theorem portSearch_cycle {c : Nat → Nat} {n : Nat}
    (hnext : ∀ k, portNext min max (c k) = c (k + 1)) (hback : c n = c 0)
    (hinj : ∀ a < n, ∀ b < n, c a = c b → a = b) (busy : Nat → Bool) (fuel k : Nat) (hk : k < n)
    (hfuel : k + fuel = n) :
    ∃ m bound, portSearch min max busy (c 0) fuel (c k) =
        some ((List.range' k m).map c, bound, c (k + m)) ∧ k + m ≤ n ∧
      (∀ ports ∈ bound, ∀ p ∈ ports, ∃ j, p = c j ∨ p = (c j + 1) % 2 ^ 16) ∧
      (bound = none → ∀ j, k ≤ j → j < n → busy (c j)) := by
  induction fuel generalizing k with
  | zero => omega
  | succ fuel ih =>
    cases hbind : mpfRtpSocketPairBind busy (c k) with
    | some ports =>
      exact ⟨1, some ports, by simp [portSearch, hbind, hnext], hk,
        fun _ h p hp => ⟨k, mpfRtpSocketPairBind_mem (Option.some.inj h ▸ hbind) hp⟩, by simp⟩
    | none =>
    have hbusy := mpfRtpSocketPairBind_none hbind
    simp only [portSearch, hbind, hnext]
    obtain rfl | hk' : k + 1 = n ∨ k + 1 < n := by omega
    · -- The position is back at the first one: every port of the cycle was busy.
      refine ⟨1, none, by simp [hback], le_rfl, by simp, fun _ j hkj hj => ?_⟩
      obtain rfl : j = k := by omega
      exact hbusy
    · have hmore : ¬ c 0 = c (k + 1) := fun h =>
        absurd (hinj 0 (by omega) _ hk' h) (by omega)
      obtain ⟨m, bound, hsearch, hm, hbound, hfail⟩ := ih (k + 1) hk' (by omega)
      refine ⟨m + 1, bound, ?_, by omega, hbound, fun hnone j hkj hj => ?_⟩
      · rw [if_neg hmore, hsearch, Nat.add_right_comm]
        rfl
      · obtain rfl | hlt := eq_or_lt_of_le hkj
        · exact hbusy
        · exact hfail hnone j hlt hj

/-- What the walk keeps, the position left behind has. -/
theorem portSearch_keeps {P : Nat → Prop} (hnext : ∀ cur, P cur → P (portNext min max cur))
    {busy : Nat → Bool} {first fuel cur : Nat} {r : List Nat × Option (List Nat) × Nat}
    (hcur : P cur) (h : portSearch min max busy first fuel cur = some r) : P r.2.2 := by
  induction fuel generalizing cur r with
  | zero => cases h
  | succ fuel ih =>
    simp only [portSearch] at h
    split at h
    · cases h
      exact hnext _ hcur
    split at h
    · cases h
      exact hnext _ hcur
    · obtain ⟨r', hr', rfl⟩ := Option.map_eq_some_iff.mp h
      exact @ih _ r' (hnext _ hcur) hr'

section Cycle

variable {n : Nat} (hpos : 0 < n)
  (hnext : ∀ i < n, portNext min max (min + 2 * i) = min + 2 * ((i + 1) % n))

include hpos hnext

/-- A walk that returns stays on the candidates. -/
theorem Position.candidate {cur : Nat} (hcur : Position min max cur) :
    ∃ i < n, cur = min + 2 * i := by
  induction hcur with
  | start => exact ⟨0, hpos, rfl⟩
  | search _ hsearch ih =>
    refine portSearch_keeps (P := fun cur => ∃ i < n, cur = min + 2 * i) ?_ ih hsearch
    rintro _ ⟨i, hi, rfl⟩
    exact ⟨_, Nat.mod_lt _ hpos, hnext i hi⟩

/-- From any of the candidates, the search goes round all of them. -/
theorem portFound_candidate (heven : (max - min) % 2 = 0) (hmax : max < 2 ^ 16)
    (hn : ∀ i, min + 2 * i < max ↔ i < n) {i : Nat}
    (busy : Nat → Bool) : PortFound min max (min + 2 * (i % n)) busy := by
  have hinj : ∀ a < n, ∀ b < n, min + 2 * ((i + a) % n) = min + 2 * ((i + b) % n) → a = b := by
    intro a ha b hb h
    have hmod : i + a ≡ i + b [MOD n] := by
      unfold Nat.ModEq
      omega
    exact hmod.add_left_cancel'.eq_of_lt_of_lt ha hb
  obtain ⟨m, bound, hsearch, hm, hbound, hfail⟩ :=
    portSearch_cycle (c := fun k => min + 2 * ((i + k) % n))
      (fun k => by rw [hnext _ (Nat.mod_lt _ hpos), Nat.mod_add_mod, Nat.add_assoc])
      (by simp) hinj busy n 0 hpos (Nat.zero_add n)
  refine ⟨n, _, bound, _, hsearch, ?_, ?_, ?_⟩
  · refine List.Nodup.map_on (fun a ha b hb => hinj a ?_ b ?_) List.nodup_range'
    all_goals
      rw [List.mem_range'_1] at ha hb
      omega
  · intro ports hports p hp
    obtain ⟨j, hp⟩ := hbound ports hports p hp
    have hj := (hn _).mpr (Nat.mod_lt (i + j) hpos)
    omega
  · intro hnone j hj
    -- The candidate `j` comes `j - i` steps after the first one, counted round the cycle.
    have hbusy := hfail hnone ((j + (n - i % n)) % n) (Nat.zero_le _) (Nat.mod_lt _ hpos)
    have hback : (i + (j + (n - i % n)) % n) % n = j := by
      have hi := Nat.mod_lt i hpos
      rw [Nat.add_mod_mod, ← Nat.mod_add_mod, show i % n + (j + (n - i % n)) = j + n by omega,
        Nat.add_mod_right, Nat.mod_eq_of_lt ((hn j).mp hj)]
    rwa [hback] at hbusy

end Cycle

theorem Position.next {cur : Nat} (hcur : Position min max cur) :
    Position min max (portNext min max cur) := by
  have hfree : portSearch min max (fun _ => false) cur 1 cur =
    some ([cur], some [cur, (cur + 1) % 2 ^ 16], portNext min max cur) := rfl
  exact hcur.search hfree

/-- Free ports are bound wherever they lie. -/
theorem PortFound.of_free {cur : Nat} (h : PortFound min max cur fun _ => false) :
    ∀ p ∈ [cur, (cur + 1) % 2 ^ 16], min ≤ p ∧ p < max := by
  obtain ⟨fuel, tried, bound, cur', hsearch, -, hbound, -⟩ := h
  cases fuel with
  | zero => cases hsearch
  | succ fuel =>
    cases hsearch
    exact hbound _ rfl

/-- The search is right from every position reached exactly where the range holds
an even number of ports. -/
theorem port_found_iff (hrange : min < max) (hmax : max < 2 ^ 16) :
    (∀ cur, Position min max cur → ∀ busy, PortFound min max cur busy) ↔
      (max - min) % 2 = 0 := by
  constructor
  · intro h
    by_contra hodd
    -- `max - 1` is reached, and the RTCP port that goes with it is the maximum.
    have hreach : ∀ i, min + 2 * i < max → Position min max (min + 2 * i) := by
      intro i
      induction i with
      | zero => exact fun _ => .start
      | succ i ih =>
        intro hi
        have hstep : portNext min max (min + 2 * i) = min + 2 * (i + 1) := by
          unfold portNext
          dsimp only
          rw [Nat.mod_eq_of_lt (by omega), if_neg (by omega)]
          omega
        exact hstep ▸ (ih (by omega)).next
    have hlast := hreach ((max - 1 - min) / 2) (by omega)
    have hbound := (h _ hlast fun _ => false).of_free _ (List.mem_cons_of_mem _ List.mem_cons_self)
    omega
  · intro heven cur hcur busy
    obtain ⟨n, hn⟩ : ∃ n, n = (max - min + 1) / 2 := ⟨_, rfl⟩
    have hnext : ∀ i < n, portNext min max (min + 2 * i) = min + 2 * ((i + 1) % n) := by
      intro i hi
      unfold portNext
      dsimp only
      obtain rfl | hmore : i + 1 = n ∨ i + 1 < n := by omega
      · rw [Nat.mod_self]
        split_ifs <;> omega
      · rw [Nat.mod_eq_of_lt hmore]
        split_ifs <;> omega
    obtain ⟨i, hi, rfl⟩ := hcur.candidate (by omega) hnext
    have hfound := portFound_candidate (by omega) hnext heven hmax (by omega) busy (i := i)
    rwa [Nat.mod_eq_of_lt hi] at hfound

theorem port_found_even : Position 5000 5004 5002 ∧ PortFound 5000 5004 5002 fun _ => true := by
  have hcur : Position 5000 5004 5002 := Position.start.next
  exact ⟨hcur, (port_found_iff (by decide) (by decide)).mpr rfl _ hcur _⟩

/-- The third port of `[5000, 5003]` is 5004. -/
theorem odd_range_left : Position 5000 5003 5004 ∧ ¬ PortFound 5000 5003 5004 fun _ => false :=
  ⟨Position.start.next.next, fun h => absurd (h.of_free 5004 (by decide)).2 (by decide)⟩

end UniMrcp.Mpf
