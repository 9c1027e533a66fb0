/-
Rounding leaves what is representable alone.

Rounding a quotient depends on its value only, not on how it is written as a quotient, and a representable multiple of
the least number is rounded to itself. So the exact expansion of a number reads back to it, and the search for the
shortest decimal ends with one that does.
- `nearestUnits_mul`: a common factor changes nothing.
- `nearestUnits_of_representable`: a representable number is its own nearest one.
- `readsBack_shortest`: the shortest decimal reads back.
-/
import LineGrammar.Binary64.Shortest

namespace LineGrammar

/-! ## Quotients -/

theorem roundToEven_mul (num den : Nat) {c : Nat} (hc : 0 < c) :
    roundToEven (num * c) (den * c) = roundToEven num den := by
  have hlt : ∀ a b : Nat, 2 * (a * c) < b * c ↔ 2 * a < b := fun a b => by
    rw [← Nat.mul_assoc]
    exact Nat.mul_lt_mul_right hc
  have hgt : ∀ a b : Nat, b * c < 2 * (a * c) ↔ b < 2 * a := fun a b => by
    rw [← Nat.mul_assoc]
    exact Nat.mul_lt_mul_right hc
  simp only [roundToEven, Nat.mul_div_mul_right _ _ hc, Nat.mul_mod_mul_right, hlt, hgt]

theorem roundToEven_of_multiple (q : Nat) {den : Nat} (hd : 0 < den) : roundToEven (q * den) den = q := by
  simp [roundToEven, Nat.mul_div_cancel _ hd, hd]

theorem nearestUnits_mul (num den : Nat) {c : Nat} (hc : 0 < c) :
    nearestUnits (num * c) (den * c) = nearestUnits num den := by
  have h : ∀ s, den * c * s = den * s * c := fun s => Nat.mul_right_comm den c s
  simp only [nearestUnits, Nat.mul_div_mul_right _ _ hc, h, roundToEven_mul _ _ hc]

/-! ## Representable numbers -/

/-- a representable number is a multiple of the distance around it -/
theorem spacing_dvd {u : Nat} (h : Representable u) : Nat.pow 2 (spacing u) ∣ u := by
  obtain ⟨m, k, hm, -, rfl⟩ := h
  by_cases hs : spacing (m * Nat.pow 2 k) ≤ k
  · exact Nat.dvd_mul_left_of_dvd (Nat.pow_dvd_pow 2 hs) m
  · -- a wider distance would take more than 53 bits
    have hlow := two_pow_le_of_spacing_pos (n := m * Nat.pow 2 k) (by omega)
    have hpow : Nat.pow 2 (53 + k) = Nat.pow 2 53 * Nat.pow 2 k := Nat.pow_add 2 53 k
    have hhigh : m * Nat.pow 2 k < Nat.pow 2 (53 + k) := by
      rw [hpow]
      exact Nat.mul_lt_mul_of_pos_right hm (Nat.two_pow_pos k)
    have hexp := (Nat.pow_lt_pow_iff_right (by decide : 1 < 2)).1 (Nat.lt_of_le_of_lt hlow hhigh)
    omega

/-- **A representable number is its own nearest one.** -/
theorem nearestUnits_of_representable {u : Nat} (h : Representable u) {den : Nat} (hd : 0 < den) :
    nearestUnits (u * den) den = u := by
  obtain ⟨q, hq⟩ := spacing_dvd h
  have hquot : u * den / den = u := Nat.mul_div_cancel u hd
  have hnum : u * den = q * (den * Nat.pow 2 (spacing u)) := by
    conv => lhs; rw [hq]
    rw [Nat.mul_comm (Nat.pow 2 (spacing u)) q, Nat.mul_assoc, Nat.mul_comm (Nat.pow 2 (spacing u)) den]
  have hpos : 0 < den * Nat.pow 2 (spacing u) := Nat.mul_pos hd (Nat.pow_pos (by decide))
  simp only [nearestUnits, hquot]
  rw [hnum, roundToEven_of_multiple q hpos, Nat.mul_comm]
  exact hq.symm

theorem lt_rangeEnd_of_representable {u : Nat} (h : Representable u) : u < rangeEnd := by
  obtain ⟨m, k, hm, hk, rfl⟩ := h
  have hpow : Nat.pow 2 (53 + k) = Nat.pow 2 53 * Nat.pow 2 k := Nat.pow_add 2 53 k
  have hlt : m * Nat.pow 2 k < Nat.pow 2 (53 + k) := by
    rw [hpow]
    exact Nat.mul_lt_mul_of_pos_right hm (Nat.two_pow_pos k)
  have hrange : 53 + k ≤ rangeBits := by
    unfold rangeBits
    omega
  have hle : ∀ e, 53 + k ≤ e → Nat.pow 2 (53 + k) ≤ Nat.pow 2 e := fun e he => Nat.pow_le_pow_right (by decide) he
  unfold rangeEnd
  exact Nat.lt_of_lt_of_le hlt (hle rangeBits hrange)

namespace Binary64

theorem ofNearest_eq (negative : Bool) {num den u : Nat} (h : Representable u) (hu : nearestUnits num den = u) :
    ofNearest negative num den = .finite negative u h := by
  subst hu
  exact dif_pos (lt_rangeEnd_of_representable h)

theorem ofNearest_mul (negative : Bool) (num den : Nat) {c : Nat} (hc : 0 < c) :
    ofNearest negative (num * c) (den * c) = ofNearest negative num den := by
  simp only [ofNearest, nearestUnits_mul num den hc]

/-! ## Decimals that read back -/

/-- the sign of a decimal is the sign of what it reads as -/
theorem nearest_of_readsBack {u : Nat} (h : Representable u) {d : Decimal} (hd : readsBack u d = true)
    (negative : Bool) : nearest negative d = .finite negative u h := by
  unfold readsBack at hd
  split at hd
  · rename_i sign u' h' hn
    obtain rfl : u' = u := by simpa using hd
    unfold nearest ofDecimal at hn ⊢
    split at hn
    · rename_i hz
      rw [if_pos hz]
      cases hn
      rfl
    · rename_i hz
      rw [if_neg hz]
      split at hn
      · simp at hn
      · rename_i hlarge
        rw [if_neg hlarge]
        split at hn
        · rename_i hsmall
          rw [if_pos hsmall]
          cases hn
          rfl
        · rename_i hsmall
          rw [if_neg hsmall]
          refine ofNearest_eq negative h ?_
          unfold ofNearest at hn
          split at hn
          · exact (Binary64.finite.inj hn).2
          · simp at hn
  · simp at hd

theorem two_mul_le_log2_mul_five_pow {u : Nat} (hu : 0 < u) (n : Nat) : 2 * n ≤ (u * Nat.pow 5 n).log2 := by
  have hle : 2 ^ (2 * n) ≤ u * Nat.pow 5 n := by
    rw [Nat.pow_mul]
    exact Nat.le_trans (Nat.pow_le_pow_left (by decide) n) (Nat.le_mul_of_pos_left _ hu)
  have hne : u * Nat.pow 5 n ≠ 0 := Nat.ne_of_gt (Nat.lt_of_lt_of_le (Nat.two_pow_pos _) hle)
  exact (Nat.le_log2 hne).2 hle

theorem mul_five_pow_mul_two_pow (u n : Nat) : u * Nat.pow 5 n * Nat.pow 2 n = u * Nat.pow 10 n := by
  have h : Nat.pow 5 n * Nat.pow 2 n = Nat.pow 10 n := (Nat.mul_pow 5 2 n).symm
  rw [Nat.mul_assoc, h]

theorem expansion_mul_unitsOfOne (u : Nat) : expansion u * unitsOfOne = u * Nat.pow 10 places := by
  unfold expansion unitsOfOne
  exact mul_five_pow_mul_two_pow u places

/-- an expansion has so many digits that it is never taken for too small -/
theorem le_log2_expansion {u : Nat} (hu : 0 < u) : 2 * places ≤ (expansion u).log2 := by
  unfold expansion
  exact two_mul_le_log2_mul_five_pow hu places

theorem ofDecimal_expansion {u : Nat} (h : Representable u) (hu : 0 < u) :
    ofDecimal false (expansion u) (-places) = .finite false u h := by
  have hplaces : places = 1074 := rfl
  have hlog := le_log2_expansion hu
  have hne : ¬ (expansion u == 0) = true := by
    intro hz
    rw [beq_iff_eq.1 hz, Nat.log2_zero] at hlog
    omega
  have hsmall : ¬ ((expansion u).log2 : Int) + 1076 < 3 * - -(places : Int) := by omega
  have hexp : (-(places : Int)).toNat = 0 ∧ (- -(places : Int)).toNat = places := by omega
  rw [ofDecimal, if_neg hne, if_neg (by omega), if_neg hsmall, hexp.1, hexp.2]
  refine ofNearest_eq false h ?_
  have hone : Nat.pow 10 0 = 1 := rfl
  have hpos : ∀ n, 0 < Nat.pow 10 n := fun n => Nat.pow_pos (by decide)
  rw [hone, Nat.mul_one, expansion_mul_unitsOfOne]
  exact nearestUnits_of_representable h (hpos places)

/-- **The exact expansion of a number reads back.** -/
theorem readsBack_exactDecimal {u : Nat} (h : Representable u) : readsBack u (exactDecimal u) = true := by
  have hnearest : nearest false (exactDecimal u) = .finite false u h := by
    rcases Nat.eq_zero_or_pos u with rfl | hu
    · simp only [nearest, exactDecimal, expansion, Nat.zero_mul]
      rfl
    · exact ofDecimal_expansion h hu
  rw [readsBack, hnearest]
  exact beq_self_eq_true u

/-- **The shortest decimal reads back.** -/
theorem readsBack_shortest {u : Nat} (h : Representable u) : readsBack u (shortest u) = true := by
  rcases readsBack_shortest_or_exact u with hs | hs
  · exact hs
  · rw [hs]
    exact readsBack_exactDecimal h

end Binary64

end LineGrammar
