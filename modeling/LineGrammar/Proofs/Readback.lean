/-
Numbers that are written are read back.

An integer is written as a sign and digits, a number of double precision as a sign and a decimal in one of two forms.
Reading splits such a text where writing has put it together, and takes it whole. The digits of a large whole number
are filled up with zeros before the point; what is read is then another decimal of the same value.
- `leadingInt_intText`: integers of no more digits than can be read.
- `leadingReal?_magnitudeText`: the forms of a decimal.
- `leadingReal?_chars`: numbers of double precision.
- `convert_chars`: both, as a field reads its token.
-/
import LineGrammar.Number
import LineGrammar.ReadError
import LineGrammar.Proofs.Rounding

namespace LineGrammar

/-! ## Runs of digits -/

/-- whether no digit comes next -/
def endsDigits : List Char → Bool
  | [] => true
  | c :: _ => !isDigit c

theorem takeWhile_digits {digits rest : List Char} (hd : ∀ c ∈ digits, isDigit c = true)
    (hr : endsDigits rest = true) : (digits ++ rest).takeWhile isDigit = digits := by
  rw [List.takeWhile_append_of_pos hd]
  cases rest with
  | nil => simp
  | cons c rest => simp [show isDigit c = false by simpa [endsDigits] using hr]

theorem dropWhile_digits {digits rest : List Char} (hd : ∀ c ∈ digits, isDigit c = true)
    (hr : endsDigits rest = true) : (digits ++ rest).dropWhile isDigit = rest := by
  rw [List.dropWhile_append_of_pos hd]
  cases rest with
  | nil => rfl
  | cons c rest => simp [show isDigit c = false by simpa [endsDigits] using hr]

theorem takeWhile_all_digits {digits : List Char} (hd : ∀ c ∈ digits, isDigit c = true) :
    digits.takeWhile isDigit = digits := by
  have h := takeWhile_digits hd (rfl : endsDigits [] = true)
  rwa [List.append_nil] at h

theorem isDigit_range {c : Char} (h : isDigit c = true) : 48 ≤ c.toNat ∧ c.toNat ≤ 57 := by
  simp only [isDigit, Char.isDigit, Bool.and_eq_true, decide_eq_true_eq] at h
  exact ⟨by simpa using UInt32.le_iff_toNat_le.1 h.1, by simpa using UInt32.le_iff_toNat_le.1 h.2⟩

theorem isAsciiBlank_of_isDigit {c : Char} (h : isDigit c = true) : isAsciiBlank c = false := by
  have hr := isDigit_range h
  simp only [isAsciiBlank, Bool.or_eq_false_iff, Bool.and_eq_false_iff, decide_eq_false_iff_not, beq_eq_false_iff_ne]
  omega

theorem isBlank_of_isDigit {c : Char} (h : isDigit c = true) : isBlank c = false := by
  have hr := isDigit_range h
  simp only [isBlank, Bool.or_eq_false_iff, Bool.and_eq_false_iff, decide_eq_false_iff_not, beq_eq_false_iff_ne]
  omega

theorem natText_ne_nil (n : Nat) : natText n ≠ [] :=
  Nat.toDigits_ne_nil

theorem forall_isDigit_natText (n : Nat) : ∀ c ∈ natText n, isDigit c = true :=
  fun _ h => isDigit_of_mem_natText h

theorem isDigit_of_mem_take (n p : Nat) : ∀ c ∈ (natText n).take p, isDigit c = true :=
  fun _ h => isDigit_of_mem_natText (List.mem_of_mem_take h)

theorem isDigit_of_mem_drop (n p : Nat) : ∀ c ∈ (natText n).drop p, isDigit c = true :=
  fun _ h => isDigit_of_mem_natText (List.mem_of_mem_drop h)

theorem isDigit_of_mem_zeros (k : Nat) : ∀ c ∈ List.replicate k '0', isDigit c = true := by
  intro c hc
  rw [List.eq_of_mem_replicate hc]
  decide

theorem digitsValue_replicate_zero_append (k : Nat) (digits : List Char) :
    digitsValue (List.replicate k '0' ++ digits) = digitsValue digits := by
  simp [digitsValue, Nat.ofDigitChars_append, Nat.ofDigitChars_replicate_zero]

theorem digitsValue_append_replicate_zero (digits : List Char) (k : Nat) :
    digitsValue (digits ++ List.replicate k '0') = digitsValue digits * Nat.pow 10 k := by
  simp [digitsValue, Nat.ofDigitChars_append, Nat.ofDigitChars_replicate_zero, Nat.mul_comm]

/-! ## Signs -/

/-- a sign or nothing, and whether it makes a number negative -/
inductive Sign : List Char → Bool → Prop where
  | none : Sign [] false
  | plus : Sign ['+'] false
  | minus : Sign ['-'] true

/-- whether a text begins with a character above the blanks and the signs, as every magnitude does -/
def beginsAboveSigns : List Char → Bool
  | [] => false
  | c :: _ => '.'.toNat ≤ c.toNat

theorem beginsAboveSigns_append {front : List Char} (h : beginsAboveSigns front = true) (rest : List Char) :
    beginsAboveSigns (front ++ rest) = true := by
  cases front with
  | nil => cases h
  | cons c front => exact h

theorem isNegative_of_sign {sign : List Char} {negative : Bool} (h : Sign sign negative) :
    isNegative sign = negative := by
  cases h <;> rfl

theorem splitSign_of_sign {sign body : List Char} {negative : Bool} (h : Sign sign negative)
    (hb : beginsAboveSigns body = true) : splitSign (sign ++ body) = (sign, body) := by
  cases h with
  | plus => rfl
  | minus => rfl
  | none =>
    cases body with
    | nil => cases hb
    | cons c body =>
      have hc : 46 ≤ c.toNat := by simpa [beginsAboveSigns] using hb
      have hplus : c ≠ '+' := by
        rintro rfl
        exact absurd hc (by decide)
      have hminus : c ≠ '-' := by
        rintro rfl
        exact absurd hc (by decide)
      unfold splitSign
      split <;> simp_all

theorem not_isAsciiBlank_of_above {c : Char} (h : '+'.toNat ≤ c.toNat) : isAsciiBlank c = false := by
  have hc : 43 ≤ c.toNat := h
  simp only [isAsciiBlank, Bool.or_eq_false_iff, Bool.and_eq_false_iff, decide_eq_false_iff_not, beq_eq_false_iff_ne]
  omega

/-- what begins with a sign, or above the signs, begins with no blank -/
theorem exists_cons_of_sign {sign body : List Char} {negative : Bool} (h : Sign sign negative)
    (hb : beginsAboveSigns body = true) : ∃ c rest, sign ++ body = c :: rest ∧ isAsciiBlank c = false := by
  cases h with
  | plus => exact ⟨'+', body, rfl, rfl⟩
  | minus => exact ⟨'-', body, rfl, rfl⟩
  | none =>
    cases body with
    | nil => cases hb
    | cons c body =>
      have hc : '.'.toNat ≤ c.toNat := of_decide_eq_true hb
      exact ⟨c, body, rfl, not_isAsciiBlank_of_above (Nat.le_trans (by decide) hc)⟩

/-- the sign of a negative number, nothing otherwise -/
def signText (negative : Bool) : List Char :=
  if negative then ['-'] else []

theorem sign_signText (negative : Bool) : Sign (signText negative) negative := by
  cases negative with
  | true => exact .minus
  | false => exact .none

/-- whether a text begins with a digit -/
def beginsWithDigit : List Char → Bool
  | [] => false
  | c :: _ => isDigit c

theorem beginsWithDigit_append {digits rest : List Char} (hne : digits ≠ [])
    (hd : ∀ c ∈ digits, isDigit c = true) : beginsWithDigit (digits ++ rest) = true := by
  cases digits with
  | nil => exact absurd rfl hne
  | cons c digits => exact hd c List.mem_cons_self

theorem beginsAboveSigns_of_digit {text : List Char} (h : beginsWithDigit text = true) :
    beginsAboveSigns text = true := by
  cases text with
  | nil => cases h
  | cons c text => exact decide_eq_true (Nat.le_trans (by decide) (isDigit_range (c := c) h).1)

theorem isNegative_signText (negative : Bool) : isNegative (signText negative) = negative :=
  isNegative_of_sign (sign_signText negative)

theorem splitSign_signText {body : List Char} (negative : Bool) (h : beginsWithDigit body = true) :
    splitSign (signText negative ++ body) = (signText negative, body) :=
  splitSign_of_sign (sign_signText negative) (beginsAboveSigns_of_digit h)

theorem takeWhile_blank_signText {body : List Char} (negative : Bool) (h : beginsWithDigit body = true) :
    (signText negative ++ body).takeWhile isAsciiBlank = [] ∧
      (signText negative ++ body).dropWhile isAsciiBlank = signText negative ++ body := by
  obtain ⟨c, rest, hcons, hc⟩ := exists_cons_of_sign (sign_signText negative) (beginsAboveSigns_of_digit h)
  simp [hcons, hc]

/-! ## Integers -/

theorem intText_eq (n : Int) : intText n = signText (decide (n < 0)) ++ natText n.natAbs := by
  cases n with
  | ofNat n => rfl
  | negSucc n =>
    rw [decide_eq_true (Int.negSucc_lt_zero n)]
    rfl

/-- **An integer that is not too long is read back.** -/
theorem leadingInt_intText {n : Int} (h : isWritable n = true) :
    leadingInt (intText n) = .ok ⟨n, (intText n).length⟩ := by
  have hlimit : (natText n.natAbs).length ≤ digitLimit := of_decide_eq_true h
  have hbegins : beginsWithDigit (natText n.natAbs ++ []) = true :=
    beginsWithDigit_append (natText_ne_nil _) (forall_isDigit_natText n.natAbs)
  rw [List.append_nil] at hbegins
  have hdigits := takeWhile_all_digits (forall_isDigit_natText n.natAbs)
  obtain ⟨htake, hdrop⟩ := takeWhile_blank_signText (decide (n < 0)) hbegins
  have hvalue : (if decide (n < 0) = true then -((n.natAbs : Nat) : Int) else n.natAbs) = n := by
    by_cases hn : n < 0
    · rw [if_pos (decide_eq_true hn)]
      omega
    · rw [decide_eq_false hn, if_neg Bool.false_ne_true]
      omega
  rw [intText_eq]
  simp only [leadingInt, htake, hdrop, splitSign_signText _ hbegins, hdigits, isNegative_signText,
    digitsValue_natText, hvalue]
  rw [if_neg (by simpa using natText_ne_nil _), if_neg (by omega)]
  simp

/-! ## Decimals -/

/-- digits with a point among them -/
theorem leadingMantissa?_point {whole fraction rest : List Char} (hne : whole ≠ [])
    (hw : ∀ c ∈ whole, isDigit c = true) (hf : ∀ c ∈ fraction, isDigit c = true) (hr : endsDigits rest = true) :
    leadingMantissa? (whole ++ '.' :: (fraction ++ rest)) =
      some (whole, fraction, whole.length + 1 + fraction.length) := by
  have hpoint : endsDigits ('.' :: (fraction ++ rest)) = true := rfl
  simp only [leadingMantissa?, takeWhile_digits hw hpoint, dropWhile_digits hw hpoint, takeWhile_digits hf hr]
  rw [if_neg (by simp [hne])]

/-- digits without a point, before an exponent -/
theorem leadingMantissa?_plain {whole rest : List Char} (hne : whole ≠ []) (hw : ∀ c ∈ whole, isDigit c = true) :
    leadingMantissa? (whole ++ 'e' :: rest) = some (whole, [], whole.length) := by
  have hends : endsDigits ('e' :: rest) = true := rfl
  simp only [leadingMantissa?, takeWhile_digits hw hends, dropWhile_digits hw hends]
  rw [if_neg (by simp [hne])]
  rfl

namespace Binary64

/-- an exponent is read back -/
theorem leadingExponent_exponentText (e : Int) :
    leadingExponent ('e' :: exponentText e) = (e, ('e' :: exponentText e).length) := by
  obtain ⟨digits, htext, hvalue, hne, hd⟩ : ∃ digits, exponentText e = (if e < 0 then '-' else '+') :: digits ∧
      digitsValue digits = e.natAbs ∧ digits ≠ [] ∧ ∀ c ∈ digits, isDigit c = true := by
    by_cases hshort : (natText e.natAbs).length < 2
    · refine ⟨'0' :: natText e.natAbs, by simp only [exponentText, if_pos hshort], ?_, by simp, ?_⟩
      · have h := digitsValue_replicate_zero_append 1 (natText e.natAbs)
        rwa [digitsValue_natText] at h
      · intro c hc
        rcases List.mem_cons.1 hc with rfl | hc
        · decide
        · exact isDigit_of_mem_natText hc
    · exact ⟨natText e.natAbs, by simp only [exponentText, if_neg hshort], digitsValue_natText _, natText_ne_nil _,
        forall_isDigit_natText _⟩
  have htake := takeWhile_all_digits hd
  rw [htext]
  by_cases hneg : e < 0
  · have hsign : isNegative ['-'] = true := rfl
    have he : -((e.natAbs : Nat) : Int) = e := by omega
    simp only [if_pos hneg, leadingExponent, splitSign, htake, hvalue, hsign, he, if_true]
    rw [if_pos (by decide), if_neg (by simpa using hne), Prod.mk.injEq]
    exact ⟨rfl, by simp only [List.length_cons, List.length_nil]; omega⟩
  · have hsign : isNegative ['+'] = false := rfl
    have he : ((e.natAbs : Nat) : Int) = e := by omega
    simp only [if_neg hneg, leadingExponent, splitSign, htake, hvalue, hsign, he, Bool.false_eq_true, if_false]
    rw [if_pos (by decide), if_neg (by simpa using hne), Prod.mk.injEq]
    exact ⟨rfl, by simp only [List.length_cons, List.length_nil]; omega⟩

/-- how a mantissa and an exponent are read -/
theorem leadingReal?_of_mantissa {body whole fraction : List Char} {size extent : Nat} {exponent : Int}
    (negative : Bool) (hb : beginsWithDigit body = true)
    (hm : leadingMantissa? body = some (whole, fraction, size))
    (he : leadingExponent (body.drop size) = (exponent, extent)) :
    leadingReal? (signText negative ++ body) =
      some ⟨nearest negative (.ofParts whole fraction exponent), (signText negative).length + size + extent⟩ := by
  obtain ⟨htake, hdrop⟩ := takeWhile_blank_signText negative hb
  simp only [leadingReal?, htake, hdrop, splitSign_signText negative hb, hm, he, isNegative_signText]
  simp

/-- a decimal written out, with a point -/
theorem leadingReal?_point {whole fraction : List Char} (negative : Bool) (hne : whole ≠ [])
    (hw : ∀ c ∈ whole, isDigit c = true) (hf : ∀ c ∈ fraction, isDigit c = true) :
    leadingReal? (signText negative ++ (whole ++ '.' :: fraction)) =
      some ⟨nearest negative (.ofParts whole fraction 0),
        (signText negative ++ (whole ++ '.' :: fraction)).length⟩ := by
  have hm := leadingMantissa?_point hne hw hf (rfl : endsDigits [] = true)
  rw [List.append_nil] at hm
  have he : leadingExponent ((whole ++ '.' :: fraction).drop (whole.length + 1 + fraction.length)) = (0, 0) := by
    rw [List.drop_of_length_le (by simp; omega)]
    rfl
  rw [leadingReal?_of_mantissa negative (beginsWithDigit_append hne hw) hm he]
  simp
  omega

/-- a decimal with an exponent, its digits with or without a point -/
theorem leadingReal?_exponent {whole fraction : List Char} (negative : Bool) (e : Int) (hne : whole ≠ [])
    (hw : ∀ c ∈ whole, isDigit c = true) (hf : ∀ c ∈ fraction, isDigit c = true) :
    leadingReal? (signText negative ++
        (whole ++ (if fraction.isEmpty then [] else '.' :: fraction) ++ 'e' :: exponentText e)) =
      some ⟨nearest negative (.ofParts whole fraction e), (signText negative ++
        (whole ++ (if fraction.isEmpty then [] else '.' :: fraction) ++ 'e' :: exponentText e)).length⟩ := by
  have hends : endsDigits ('e' :: exponentText e) = true := rfl
  cases hempty : fraction.isEmpty with
  | true =>
    obtain rfl := List.isEmpty_iff.1 hempty
    simp only [if_true, List.append_nil]
    have he : leadingExponent ((whole ++ 'e' :: exponentText e).drop whole.length) =
        (e, ('e' :: exponentText e).length) := by
      rw [List.drop_left]
      exact leadingExponent_exponentText e
    rw [leadingReal?_of_mantissa negative (beginsWithDigit_append hne hw) (leadingMantissa?_plain hne hw) he]
    simp
    omega
  | false =>
    have hbody : whole ++ '.' :: fraction ++ 'e' :: exponentText e =
        whole ++ '.' :: (fraction ++ 'e' :: exponentText e) := by simp
    have he : leadingExponent ((whole ++ '.' :: (fraction ++ 'e' :: exponentText e)).drop
        (whole.length + 1 + fraction.length)) = (e, ('e' :: exponentText e).length) := by
      rw [← hbody, List.drop_left' (by simp; omega)]
      exact leadingExponent_exponentText e
    simp only [Bool.false_eq_true, if_false, hbody]
    rw [leadingReal?_of_mantissa negative (beginsWithDigit_append hne hw) (leadingMantissa?_point hne hw hf hends) he]
    simp
    omega

theorem nearest_zero (negative : Bool) (e : Int) : nearest negative ⟨0, e⟩ = .finite negative 0 representable_zero := by
  simp [nearest, ofDecimal]

/-- zeros moved from the exponent to the digits -/
theorem nearest_fill (negative : Bool) {digits k : Nat} (hd : digits ≠ 0) (hk : k ≤ 310) :
    nearest negative ⟨digits * Nat.pow 10 (k + 1), -1⟩ = nearest negative ⟨digits, k⟩ := by
  have hne : ∀ m, m ≠ 0 → ¬ (m == 0) = true := fun m hm => by simpa using hm
  have hneg : (-(-1 : Int)).toNat = 1 ∧ (-1 : Int).toNat = 0 ∧ (-(k : Int)).toNat = 0 ∧ (k : Int).toNat = k := by omega
  have hnum : digits * Nat.pow 10 (k + 1) * unitsOfOne * Nat.pow 10 0 = digits * unitsOfOne * Nat.pow 10 k * 10 := by
    have h0 : Nat.pow 10 0 = 1 := rfl
    have hk' : Nat.pow 10 (k + 1) = Nat.pow 10 k * 10 := rfl
    rw [h0, hk', Nat.mul_one, ← Nat.mul_assoc, Nat.mul_right_comm _ 10 unitsOfOne,
      Nat.mul_right_comm digits (Nat.pow 10 k) unitsOfOne]
  have hden : Nat.pow 10 1 = Nat.pow 10 0 * 10 := rfl
  have hpos : 0 < Nat.pow 10 (k + 1) := Nat.pow_pos (by decide)
  simp only [nearest, ofDecimal]
  rw [if_neg (hne _ (Nat.mul_ne_zero hd (Nat.ne_of_gt hpos))), if_neg (by omega), if_neg (by omega),
    if_neg (hne _ hd), if_neg (by omega), if_neg (by omega), hneg.1, hneg.2.1, hneg.2.2.1, hneg.2.2.2, hnum, hden]
  exact ofNearest_mul negative _ _ (by decide)

/-! ## The forms of a decimal -/

/-- the digits of a number, with a point somewhere among them -/
theorem ofParts_take_drop (m p : Nat) (e : Int) (hp : p ≤ (natText m).length) :
    Decimal.ofParts ((natText m).take p) ((natText m).drop p) e = ⟨m, e - (natText m).length + p⟩ := by
  simp only [Decimal.ofParts, List.take_append_drop, digitsValue_natText, List.length_drop, Decimal.mk.injEq, true_and]
  omega

/-- a decimal below one, with zeros between the point and the digits -/
theorem leadingReal?_belowOne (negative : Bool) (m : Nat) {e : Int} {k : Nat} (h : (natText m).length + e = -k) :
    leadingReal? (signText negative ++ '0' :: '.' :: (List.replicate k '0' ++ natText m)) =
      some ⟨nearest negative ⟨m, e⟩,
        (signText negative ++ '0' :: '.' :: (List.replicate k '0' ++ natText m)).length⟩ := by
  have hfraction := List.forall_mem_append.2 ⟨isDigit_of_mem_zeros k, forall_isDigit_natText m⟩
  have hvalue := digitsValue_replicate_zero_append (1 + k) (natText m)
  rw [← List.replicate_append_replicate, List.append_assoc, digitsValue_natText] at hvalue
  have hparts : Decimal.ofParts ['0'] (List.replicate k '0' ++ natText m) 0 = ⟨m, e⟩ := by
    simp only [Decimal.ofParts, Decimal.mk.injEq, List.length_append, List.length_replicate]
    exact ⟨hvalue, by omega⟩
  have hread := leadingReal?_point negative (List.cons_ne_nil '0' []) (isDigit_of_mem_zeros 1) hfraction
  rw [hparts] at hread
  exact hread

/-- a decimal with the point among its digits -/
theorem leadingReal?_amongDigits (negative : Bool) (m : Nat) {e : Int} {p : Nat} (h : (natText m).length + e = p)
    (hpos : 0 < p) (hlt : p < (natText m).length) :
    leadingReal? (signText negative ++ ((natText m).take p ++ '.' :: (natText m).drop p)) =
      some ⟨nearest negative ⟨m, e⟩,
        (signText negative ++ ((natText m).take p ++ '.' :: (natText m).drop p)).length⟩ := by
  have hne : (natText m).take p ≠ [] := by
    rw [← List.length_pos_iff, List.length_take]
    omega
  have hread := leadingReal?_point negative hne (isDigit_of_mem_take m p) (isDigit_of_mem_drop m p)
  have hexp : (0 : Int) - (natText m).length + p = e := by omega
  rw [ofParts_take_drop m p 0 (Nat.le_of_lt hlt), hexp] at hread
  exact hread

/-- a whole number, with zeros between its digits and the point -/
theorem leadingReal?_filled (negative : Bool) {m k : Nat} (hm : m ≠ 0) (hk : k ≤ 310) :
    leadingReal? (signText negative ++ (natText m ++ List.replicate k '0' ++ '.' :: ['0'])) =
      some ⟨nearest negative ⟨m, k⟩,
        (signText negative ++ (natText m ++ List.replicate k '0' ++ '.' :: ['0'])).length⟩ := by
  have hwhole := List.forall_mem_append.2 ⟨forall_isDigit_natText m, isDigit_of_mem_zeros k⟩
  have hne : natText m ++ List.replicate k '0' ≠ [] := List.append_ne_nil_of_left_ne_nil (natText_ne_nil m) _
  have hvalue := digitsValue_append_replicate_zero (natText m) (k + 1)
  rw [List.replicate_succ', ← List.append_assoc, digitsValue_natText] at hvalue
  have hparts : Decimal.ofParts (natText m ++ List.replicate k '0') ['0'] 0 = ⟨m * Nat.pow 10 (k + 1), -1⟩ := by
    simp only [Decimal.ofParts, hvalue]
    rfl
  have hread := leadingReal?_point negative hne hwhole (isDigit_of_mem_zeros 1)
  rw [List.replicate_one, hparts, nearest_fill negative hm hk] at hread
  exact hread

/-- **A written decimal is read as a decimal of the same value, and to its end.** -/
theorem leadingReal?_magnitudeText (negative : Bool) (d : Decimal) :
    leadingReal? (signText negative ++ magnitudeText Layout.plain d) =
      some ⟨nearest negative d, (signText negative ++ magnitudeText Layout.plain d).length⟩ := by
  obtain ⟨m, e⟩ := d
  have hsize : 0 < (natText m).length := List.length_pos_iff.2 (natText_ne_nil m)
  simp only [magnitudeText]
  split
  · rename_i hm
    obtain rfl : m = 0 := by simpa using hm
    have hread :=
      leadingReal?_point negative (List.cons_ne_nil '0' []) (isDigit_of_mem_zeros 1) (isDigit_of_mem_zeros 1)
    have hparts : Decimal.ofParts ['0'] (List.replicate 1 '0') 0 = ⟨0, -1⟩ := rfl
    rw [hparts, nearest_zero] at hread
    rw [nearest_zero]
    exact hread
  · rename_i hm
    split
    · rename_i hrange
      simp only [Bool.and_eq_true, decide_eq_true_eq] at hrange
      split
      · exact leadingReal?_belowOne negative m (by omega)
      · obtain ⟨p, hp⟩ : ∃ p : Nat, (natText m).length + e = p := ⟨((natText m).length + e).toNat, by omega⟩
        simp only [hp, Int.toNat_natCast]
        by_cases hlt : p < (natText m).length
        · have hempty : ((natText m).drop p).isEmpty = false := by
            rw [List.isEmpty_eq_false_iff, ← List.length_pos_iff, List.length_drop]
            omega
          rw [Nat.sub_eq_zero_of_le (Nat.le_of_lt hlt), List.replicate_zero, List.append_nil, hempty]
          exact leadingReal?_amongDigits negative m hp (by omega) hlt
        · have hempty : ((natText m).drop p).isEmpty = true := by
            rw [List.isEmpty_iff]
            exact List.drop_of_length_le (by omega)
          obtain ⟨k, rfl⟩ : ∃ k : Nat, e = k := ⟨e.toNat, by omega⟩
          have hzeros : p - (natText m).length = k := by omega
          rw [List.take_of_length_le (by omega), hzeros, hempty]
          exact leadingReal?_filled negative (by simpa using hm) (by omega)
    · have hne : (natText m).take 1 ≠ [] := by
        rw [← List.length_pos_iff, List.length_take]
        omega
      have hread := leadingReal?_exponent negative ((natText m).length + e - 1) hne (isDigit_of_mem_take m 1)
        (isDigit_of_mem_drop m 1)
      have hexp : ((natText m).length + e - 1 : Int) - (natText m).length + (1 : Nat) = e := by omega
      rw [ofParts_take_drop m 1 _ hsize, hexp] at hread
      exact hread

/-- **A number of double precision is read back, and to its end.** -/
theorem leadingReal?_chars {x : Binary64} (h : x.isNaN = false) : leadingReal? x.chars = some ⟨x, x.chars.length⟩ := by
  cases x with
  | nan payload => simp [isNaN] at h
  | infinite negative => cases negative <;> rfl
  | finite negative u hu =>
    have hread := leadingReal?_magnitudeText negative (shortest u)
    rw [nearest_of_readsBack hu (readsBack_shortest hu)] at hread
    exact hread

/-! ## Tokens -/

theorem solid_exponentText (e : Int) : ∀ c ∈ exponentText e, isBlank c = false := by
  intro c hc
  simp only [exponentText, List.mem_cons] at hc
  rcases hc with rfl | hc
  · split <;> decide
  · split at hc
    · rcases List.mem_cons.1 hc with rfl | hc
      · decide
      · exact isBlank_of_isDigit (isDigit_of_mem_natText hc)
    · exact isBlank_of_isDigit (isDigit_of_mem_natText hc)

theorem solid_magnitudeText (d : Decimal) : ∀ c ∈ magnitudeText Layout.plain d, isBlank c = false := by
  have hdigit : ∀ c ∈ natText d.digits, isBlank c = false := fun c hc => isBlank_of_isDigit (isDigit_of_mem_natText hc)
  have hzeros : ∀ k, ∀ c ∈ List.replicate k '0', isBlank c = false := fun k c hc => by
    rw [List.eq_of_mem_replicate hc]
    decide
  have htake : ∀ k, ∀ c ∈ (natText d.digits).take k, isBlank c = false :=
    fun k c hc => hdigit c (List.mem_of_mem_take hc)
  have hdrop : ∀ k, ∀ c ∈ (natText d.digits).drop k, isBlank c = false :=
    fun k c hc => hdigit c (List.mem_of_mem_drop hc)
  intro c hc
  simp only [magnitudeText] at hc
  split at hc
  · simp only [List.mem_cons, List.not_mem_nil, or_false] at hc
    rcases hc with rfl | rfl | rfl <;> decide
  · split at hc
    · split at hc
      · simp only [List.mem_cons, List.mem_append] at hc
        rcases hc with rfl | rfl | hc | hc
        · decide
        · decide
        · exact hzeros _ c hc
        · exact hdigit c hc
      · simp only [List.mem_cons, List.mem_append] at hc
        rcases hc with (hc | hc) | rfl | hc
        · exact htake _ c hc
        · exact hzeros _ c hc
        · decide
        · split at hc
          · rw [List.mem_singleton.1 hc]
            decide
          · exact hdrop _ c hc
    · simp only [List.mem_cons, List.mem_append] at hc
      rcases hc with (hc | hc) | rfl | hc
      · exact htake _ c hc
      · split at hc
        · simp [Layout.plain] at hc
        · rcases List.mem_cons.1 hc with rfl | hc
          · decide
          · exact hdrop _ c hc
      · decide
      · exact solid_exponentText _ c hc

theorem solid_signText (negative : Bool) : ∀ c ∈ signText negative, isBlank c = false := by
  intro c hc
  cases negative with
  | true =>
    rw [List.mem_singleton.1 hc]
    decide
  | false => simp [signText] at hc

theorem isToken_chars (x : Binary64) : isToken x.chars = true := by
  cases x with
  | nan payload => rfl
  | infinite negative => cases negative <;> rfl
  | finite negative u hu =>
    refine isToken_iff.2 ⟨fun hnil => ?_, fun c hc => ?_⟩
    · -- from an empty text no number is read
      have hread := leadingReal?_chars (x := .finite negative u hu) rfl
      rw [hnil] at hread
      cases hread
    · rcases List.mem_append.1 hc with hc | hc
      · exact solid_signText negative c hc
      · exact solid_magnitudeText _ c hc

end Binary64

/-! ## Numbers of both kinds -/

/-- whether a number can be read back from what is written for it -/
def Number.readable : Number → Bool
  | .int n => isWritable n
  | .real x => !x.isNaN

theorem Number.isToken_chars (n : Number) : isToken n.chars = true := by
  cases n with
  | int n =>
    show isToken (intText n) = true
    rw [intText_eq]
    refine isToken_iff.2 ⟨by simp [natText_ne_nil], fun c hc => ?_⟩
    rcases List.mem_append.1 hc with hc | hc
    · exact Binary64.solid_signText _ c hc
    · exact isBlank_of_isDigit (isDigit_of_mem_natText hc)
  | real x => exact Binary64.isToken_chars x

/-- the number that is read where a number was written: only what is not a number loses something, its payload -/
def Number.reread : Number → Number
  | .real (.nan _) => .real (.nan 0)
  | n => n

theorem Number.legible_of_readable {n : Number} (h : n.readable = true) : n.legible = true := by
  cases n with
  | int n => exact h
  | real x => rfl

theorem Number.reread_of_readable {n : Number} (h : n.readable = true) : n.reread = n := by
  cases n with
  | int n => rfl
  | real x =>
    cases x with
    | nan payload => simp [readable, Binary64.isNaN] at h
    | _ => rfl

/-- **A field reads a written number back.** -/
theorem convert_chars {n : Number} (h : n.legible = true) (field context expected : Datum) (optional : Bool) :
    convert n.kind n.chars field context expected optional = .ok n.reread := by
  have hlead : leadingNumber n.kind n.chars = .ok ⟨n.reread, n.chars.length⟩ := by
    cases n with
    | int n =>
      have hn : leadingInt (Number.int n).chars = .ok ⟨n, (Number.int n).chars.length⟩ :=
        leadingInt_intText h
      simp only [Number.kind, leadingNumber, hn]
      rfl
    | real x =>
      cases hx : x.isNaN with
      | true =>
        cases x with
        | nan payload => rfl
        | _ => simp [Binary64.isNaN] at hx
      | false =>
        have hread : leadingReal? (Number.real x).chars = some ⟨x, (Number.real x).chars.length⟩ :=
          Binary64.leadingReal?_chars hx
        have hreread : (Number.real x).reread = .real x := Number.reread_of_readable (by simp [Number.readable, hx])
        simp only [Number.kind, leadingNumber, hread, hreread]
  simp only [convert, hlead, beq_self_eq_true, if_true]

end LineGrammar
