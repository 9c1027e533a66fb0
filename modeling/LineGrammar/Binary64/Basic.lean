/-
Numbers of double precision, without rounding errors of their own.

The magnitude of a finite number is a multiple of the least positive one, 2^-1074, so it is kept as that multiple, its
`units`; a multiple is `Representable` when 53 bits suffice for it. Rounding a quotient to the nearest number and
comparing a number with an integer are then exact computations on natural numbers.

`representable_nearestUnits`: rounding yields a representable number as long as it stays in range.
-/

namespace LineGrammar

/-- how many binary places, and so how many decimal ones, a finite number has at most -/
def places : Nat := 1074

/-- the units of the number one -/
def unitsOfOne : Nat := Nat.pow 2 places

theorem unitsOfOne_pos : 0 < unitsOfOne := by
  unfold unitsOfOne
  generalize places = n
  exact Nat.two_pow_pos n

/-- the multiples of the least positive number that are finite numbers themselves -/
def Representable (units : Nat) : Prop :=
  ∃ significand scale, significand < Nat.pow 2 53 ∧ scale ≤ 2045 ∧ units = significand * Nat.pow 2 scale

/-- A number of double precision. What is not a number carries a payload, by which alone such values differ. -/
inductive Binary64 where
  | nan (payload : Nat)
  | infinite (negative : Bool)
  | finite (negative : Bool) (units : Nat) (representable : Representable units)
  deriving DecidableEq

/-- the integer nearest to a quotient, an exact half going to the even neighbour -/
def roundToEven (num den : Nat) : Nat :=
  let q := num / den
  let r := num % den
  if 2 * r < den then q else if den < 2 * r then q + 1 else q + q % 2

/-- the exponent of the distance between the representable numbers around `units` -/
def spacing (units : Nat) : Nat :=
  units.log2 - 52

/-- the multiple of the local distance that is nearest to a quotient of units -/
def nearestUnits (num den : Nat) : Nat :=
  let scale := spacing (num / den)
  roundToEven num (den * Nat.pow 2 scale) * Nat.pow 2 scale

theorem roundToEven_le (num den : Nat) : roundToEven num den ≤ num / den + 1 := by
  simp only [roundToEven]
  split
  · omega
  · split <;> omega

theorem le_roundToEven (num den : Nat) : num / den ≤ roundToEven num den := by
  simp only [roundToEven]
  split
  · omega
  · split <;> omega

theorem two_pow_le_of_spacing_pos {n : Nat} (h : 0 < spacing n) : Nat.pow 2 (52 + spacing n) ≤ n := by
  have hl : 52 + spacing n = n.log2 := by simp only [spacing] at h ⊢; omega
  have hn : n ≠ 0 := by rintro rfl; simp [spacing] at h
  rw [hl]
  exact Nat.log2_self_le hn

theorem lt_two_pow_spacing (n : Nat) : n < Nat.pow 2 (53 + spacing n) := by
  by_cases hn : n = 0
  · subst hn
    exact Nat.two_pow_pos _
  · refine Nat.lt_of_lt_of_le Nat.lt_log2_self (Nat.pow_le_pow_right (by decide) ?_)
    simp only [spacing]
    omega

theorem two_pow_le_mul {a b c k m : Nat} (hc : c = a + b) (hm : Nat.pow 2 a ≤ m) (hk : b ≤ k) :
    Nat.pow 2 c ≤ m * Nat.pow 2 k := by
  have h : Nat.pow 2 (a + b) = Nat.pow 2 a * Nat.pow 2 b := Nat.pow_add 2 a b
  rw [hc, h]
  exact Nat.mul_le_mul hm (Nat.pow_le_pow_right (by decide) hk)

theorem representable_zero : Representable 0 :=
  ⟨0, 0, by decide, by decide, rfl⟩

/-- how many bits the units in range have -/
def rangeBits : Nat := 2098

/-- the least magnitude out of range, 2^1024, in units -/
def rangeEnd : Nat := Nat.pow 2 rangeBits

/-- The number that rounding takes a multiple of the local distance from is below 2^53, and so 2^53 at most after
it. -/
theorem roundToEven_spacing_le (num den : Nat) :
    roundToEven num (den * Nat.pow 2 (spacing (num / den))) ≤ Nat.pow 2 53 := by
  refine Nat.le_trans (roundToEven_le _ _) ?_
  rw [← Nat.div_div_eq_div_mul]
  have h : num / den < Nat.pow 2 (spacing (num / den)) * Nat.pow 2 53 := by
    have h := lt_two_pow_spacing (num / den)
    have e : Nat.pow 2 (53 + spacing (num / den)) = Nat.pow 2 53 * Nat.pow 2 (spacing (num / den)) := Nat.pow_add 2 _ _
    rwa [e, Nat.mul_comm] at h
  exact Nat.div_lt_of_lt_mul h

theorem le_roundToEven_spacing {num den : Nat} (h : 0 < spacing (num / den)) :
    Nat.pow 2 52 ≤ roundToEven num (den * Nat.pow 2 (spacing (num / den))) := by
  refine Nat.le_trans ?_ (le_roundToEven _ _)
  rw [← Nat.div_div_eq_div_mul]
  refine (Nat.le_div_iff_mul_le (Nat.two_pow_pos _)).2 ?_
  have e : Nat.pow 2 (52 + spacing (num / den)) = Nat.pow 2 52 * Nat.pow 2 (spacing (num / den)) := Nat.pow_add 2 _ _
  exact Nat.le_trans (Nat.le_of_eq e.symm) (two_pow_le_of_spacing_pos h)

/-- A product of at most 2^53 and a power of two is representable as long as it stays in range. -/
theorem representable_mul {m k e : Nat} (he : e = 2098) (hm : m ≤ Nat.pow 2 53) (hl : 0 < k → Nat.pow 2 52 ≤ m)
    (h : m * Nat.pow 2 k < Nat.pow 2 e) : Representable (m * Nat.pow 2 k) := by
  by_cases hlt : m < Nat.pow 2 53
  · by_cases hk : k ≤ 2045
    · exact ⟨m, k, hlt, hk, rfl⟩
    · exact absurd h (Nat.not_lt_of_le (two_pow_le_mul he (hl (by omega)) (by omega : 2046 ≤ k)))
  · have hm' : m = Nat.pow 2 53 := Nat.le_antisymm hm (Nat.le_of_not_lt hlt)
    subst hm'
    refine ⟨Nat.pow 2 52, k + 1, by decide, ?_, ?_⟩
    · have h₁ : Nat.pow 2 (53 + k) < Nat.pow 2 e :=
        Nat.lt_of_le_of_lt (two_pow_le_mul rfl (Nat.le_refl _) (Nat.le_refl k)) h
      have h₂ : 53 + k < e := (Nat.pow_lt_pow_iff_right (by decide : 1 < 2)).1 h₁
      omega
    · have c : Nat.pow 2 (53 + k) = Nat.pow 2 (52 + (k + 1)) := by rw [Nat.add_comm k 1, ← Nat.add_assoc]
      have l : Nat.pow 2 (53 + k) = Nat.pow 2 53 * Nat.pow 2 k := Nat.pow_add 2 _ _
      have r : Nat.pow 2 (52 + (k + 1)) = Nat.pow 2 52 * Nat.pow 2 (k + 1) := Nat.pow_add 2 _ _
      rw [← l, c, r]

/-- Rounding yields a representable number as long as it stays in range. -/
theorem representable_nearestUnits (num den : Nat) (h : nearestUnits num den < rangeEnd) :
    Representable (nearestUnits num den) := by
  unfold rangeEnd at h
  exact representable_mul (e := rangeBits) rfl (roundToEven_spacing_le num den) le_roundToEven_spacing h

namespace Binary64

/-- the number with the given units if they are in range, an infinity otherwise -/
def ofNearest (negative : Bool) (num den : Nat) : Binary64 :=
  if h : nearestUnits num den < rangeEnd then
    .finite negative (nearestUnits num den) (representable_nearestUnits num den h)
  else .infinite negative

/-- the number nearest to `digits · 10^exponent`; far outside the range no power of ten is computed -/
def ofDecimal (negative : Bool) (digits : Nat) (exponent : Int) : Binary64 :=
  if digits == 0 then .finite negative 0 representable_zero
  else if 310 < exponent then .infinite negative
  else if (digits.log2 : Int) + 1076 < 3 * -exponent then .finite negative 0 representable_zero
  else ofNearest negative (digits * unitsOfOne * Nat.pow 10 exponent.toNat) (Nat.pow 10 (-exponent).toNat)

/-- the number nearest to an integer, unless that is out of range -/
def ofInt? (n : Int) : Option Binary64 :=
  match ofNearest (n < 0) (n.natAbs * unitsOfOne) 1 with
  | .infinite _ => none
  | x => some x

def zero : Binary64 := .finite false 0 representable_zero

/-- the sum of two numbers, rounded; infinities of different signs have none -/
def add : Binary64 → Binary64 → Binary64
  | .finite a u _, .finite b v _ =>
    if a == b then ofNearest a (u + v) 1
    else if u < v then ofNearest b (v - u) 1
    else if v < u then ofNearest a (u - v) 1
    else zero
  | .infinite a, .infinite b => if a == b then .infinite a else .nan 0
  | .finite .., y => y
  | .nan payload, _ | _, .nan payload => .nan payload
  | x, .finite .. => x

/-- the product of two numbers, rounded; a zero and an infinity have none -/
def mul : Binary64 → Binary64 → Binary64
  | .finite a u _, .finite b v _ => ofNearest (a != b) (u * v) unitsOfOne
  | .infinite a, .infinite b => .infinite (a != b)
  | .nan payload, _ | _, .nan payload => .nan payload
  | .finite a u _, .infinite b | .infinite a, .finite b u _ => if u == 0 then .nan 0 else .infinite (a != b)

/-- the value itself, except that what is not a number gets the given payload -/
def withPayload (payload : Nat) : Binary64 → Binary64
  | .nan _ => .nan payload
  | x => x

def isNaN : Binary64 → Bool
  | .nan _ => true
  | _ => false

def negate : Binary64 → Binary64
  | .nan payload => .nan payload
  | .infinite negative => .infinite !negative
  | .finite negative units h => .finite (!negative) units h

/-- equality of numbers: a zero equals a zero of the other sign, and what is not a number equals only itself -/
def same : Binary64 → Binary64 → Bool
  | .nan p, .nan q => p == q
  | .infinite a, .infinite b => a == b
  | .finite a u _, .finite b v _ => u == v && (a == b || u == 0)
  | _, _ => false

/-- equality with an integer, which is not rounded first -/
def sameInt : Binary64 → Int → Bool
  | .finite negative units _, n => units == n.natAbs * unitsOfOne && (units == 0 || negative == decide (n < 0))
  | _, _ => false

/-- a number equals one integer at most -/
theorem eq_of_sameInt {x : Binary64} {m n : Int} (hm : x.sameInt m = true) (hn : x.sameInt n = true) : m = n := by
  cases x with
  | finite negative units h =>
    simp only [sameInt, Bool.and_eq_true, Bool.or_eq_true, beq_iff_eq] at hm hn
    obtain ⟨hm, hmsign⟩ := hm
    obtain ⟨hn, hnsign⟩ := hn
    have habs : m.natAbs = n.natAbs := Nat.eq_of_mul_eq_mul_right unitsOfOne_pos (hm.symm.trans hn)
    rcases Nat.eq_zero_or_pos units with rfl | hunits
    · -- zero has either sign
      have hzero : m.natAbs = 0 := (Nat.mul_eq_zero.1 hm.symm).resolve_right (Nat.ne_of_gt unitsOfOne_pos)
      omega
    · have hsign : decide (m < 0) = decide (n < 0) := by
        rw [← hmsign.resolve_left (Nat.ne_of_gt hunits), ← hnsign.resolve_left (Nat.ne_of_gt hunits)]
      rw [decide_eq_decide] at hsign
      omega
  | _ => cases hm

end Binary64

end LineGrammar
