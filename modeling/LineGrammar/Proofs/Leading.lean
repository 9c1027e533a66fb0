/-
The number at the beginning of a text is the longest one there.

`Denotes` says which texts are numbers and what they stand for, without saying how one is read: blanks, a sign, and a
magnitude, which is digits for an integer, and a decimal or a word for a number of double precision. Of all beginnings
of a text that are numbers, reading takes the longest (`Longest`), which is refused only where it is an integer with too
many digits. What a token is converted to, and the error of a token that is not converted, follow from it.
- `digits_iff`: digits and what they stand for, by induction on them.
- `leadingMagnitude?_sound`, `leadingMagnitude?_greedy`: what is read behind the sign is a magnitude, and no magnitude
  there is longer.
- `leadingForm?_eq_some_iff`, `leadingNumber_eq`: the longest number at the beginning of a text, and when it is refused.
- `convert_eq_iff`: what a field makes of a token.
- `numbers_are_classified`: both, for every text and both kinds of numbers.
-/
import LineGrammar.Proofs.Readback

namespace LineGrammar

/-! ## Texts that are numbers -/

/-- decimal digits, with the natural number they stand for -/
inductive Digits : List Char → Nat → Prop where
  | one {d : Nat} (hd : d < 10) : Digits [Nat.digitChar d] d
  | more {front : List Char} {n d : Nat} (h : Digits front n) (hd : d < 10) :
      Digits (front ++ [Nat.digitChar d]) (10 * n + d)

def signed (negative : Bool) (n : Nat) : Int :=
  if negative then -n else n

/-- digits, among them a point or not: the number that all of them stand for, and how many come behind the point -/
inductive Mantissa : List Char → Nat → Nat → Prop where
  | whole {digits : List Char} {n : Nat} (h : Digits digits n) : Mantissa digits n 0
  | pointed {whole fraction : List Char} {n : Nat} (h : Digits (whole ++ fraction) n) :
      Mantissa (whole ++ '.' :: fraction) n fraction.length

/-- a complete exponent or nothing -/
inductive Exponent : List Char → Int → Prop where
  | absent : Exponent [] 0
  | present {mark : Char} {sign digits : List Char} {negative : Bool} {n : Nat} (hmark : mark = 'e' ∨ mark = 'E')
      (hsign : Sign sign negative) (hdigits : Digits digits n) :
      Exponent (mark :: (sign ++ digits)) (signed negative n)

/-- what stands behind the sign of a number -/
inductive Magnitude (negative : Bool) : NumberKind → List Char → Number → Prop where
  | int {digits : List Char} {n : Nat} (h : Digits digits n) :
      Magnitude negative .int digits (.int (signed negative n))
  | decimal {mantissa exponent : List Char} {n places : Nat} {e : Int} (hm : Mantissa mantissa n places)
      (he : Exponent exponent e) :
      Magnitude negative .real (mantissa ++ exponent) (.real (.nearest negative ⟨n, e - places⟩))
  | infinite {word : List Char}
      (h : word.map Char.toLower = "inf".toList ∨ word.map Char.toLower = "infinity".toList) :
      Magnitude negative .real word (.real (.infinite negative))
  | nan {word : List Char} (h : word.map Char.toLower = "nan".toList) :
      Magnitude negative .real word (.real (.nan 0))

/-- The text as a whole is a number: blanks, a sign, and a magnitude. -/
def Denotes (kind : NumberKind) (text : List Char) (n : Number) : Prop :=
  ∃ blanks sign body negative, text = blanks ++ (sign ++ body) ∧ (∀ c ∈ blanks, isAsciiBlank c = true) ∧
    Sign sign negative ∧ Magnitude negative kind body n

def IsNumber (kind : NumberKind) (text : List Char) : Prop :=
  ∃ n, Denotes kind text n

/-- an integer has no more digits than can be read; a number of double precision may have any number of them -/
def NotTooLong (kind : NumberKind) (text : List Char) : Prop :=
  kind = .int → text.countP isDigit ≤ digitLimit

/-- the longest beginning of a text that has a property is `k` characters long -/
structure Longest (P : List Char → Prop) (text : List Char) (k : Nat) : Prop where
  within : k ≤ text.length
  holds : P (text.take k)
  longest : ∀ j ≤ text.length, P (text.take j) → j ≤ k

/-- no beginning of the text is a number, or the longest that is one has too many digits -/
def Unreadable (kind : NumberKind) (text : List Char) : Prop :=
  (∀ j ≤ text.length, ¬ IsNumber kind (text.take j)) ∨
    ∃ k, Longest (IsNumber kind) text k ∧ ¬ NotTooLong kind (text.take k)

instance (kind : NumberKind) (text : List Char) : Decidable (NotTooLong kind text) :=
  inferInstanceAs (Decidable (_ → _))

theorem Longest.unique {P : List Char → Prop} {text : List Char} {j k : Nat} (hj : Longest P text j)
    (hk : Longest P text k) : j = k :=
  Nat.le_antisymm (hk.longest j hj.within hj.holds) (hj.longest k hk.within hk.holds)

/-- a text that has the property as a whole is its own longest beginning -/
theorem Longest.ofWhole {P : List Char → Prop} {text : List Char} (h : P text) : Longest P text text.length :=
  ⟨Nat.le_refl _, by rwa [List.take_length], fun _ hj _ => hj⟩

/-! ## Digits -/

theorem exists_digitChar {c : Char} (h : isDigit c = true) : ∃ d < 10, c = Nat.digitChar d := by
  obtain ⟨hlow, hhigh⟩ := isDigit_range h
  have hd : c.toNat - 48 < 10 := by omega
  refine ⟨c.toNat - 48, hd, Char.toNat_inj.1 ?_⟩
  rw [Nat.toNat_digitChar_of_lt_ten hd]
  omega

theorem isDigit_digitChar : ∀ d < 10, isDigit (Nat.digitChar d) = true := by
  decide

theorem digitsValue_more (front : List Char) {d : Nat} (hd : d < 10) :
    digitsValue (front ++ [Nat.digitChar d]) = 10 * digitsValue front + d := by
  rw [digitsValue, Nat.ofDigitChars_append, Nat.ofDigitChars_cons, Nat.ofDigitChars_nil,
    Nat.toNat_digitChar_of_lt_ten hd]
  simp [digitsValue]

/-- more digits behind the digits there are -/
theorem Digits.append {front digits : List Char} {n : Nat} (h : Digits front n)
    (hd : ∀ c ∈ digits, isDigit c = true) : Digits (front ++ digits) (Nat.ofDigitChars 10 digits n) := by
  induction digits generalizing front n with
  | nil => simpa using h
  | cons c digits ih =>
    obtain ⟨hc, htail⟩ := List.forall_mem_cons.1 hd
    obtain ⟨d, hlt, rfl⟩ := exists_digitChar hc
    have hmore := ih (h.more hlt) htail
    rw [List.append_assoc] at hmore
    rw [Nat.ofDigitChars_cons, Nat.toNat_digitChar_of_lt_ten hlt]
    simpa using hmore

/-- **Digits are characters that are digits, at least one of them, and stand for their value.** -/
theorem digits_iff {digits : List Char} {n : Nat} :
    Digits digits n ↔ digits ≠ [] ∧ (∀ c ∈ digits, isDigit c = true) ∧ digitsValue digits = n := by
  constructor
  · intro h
    induction h with
    | one hd =>
      refine ⟨List.cons_ne_nil _ _, ?_, by simpa [digitsValue] using digitsValue_more [] hd⟩
      intro c hc
      rw [List.mem_singleton.1 hc]
      exact isDigit_digitChar _ hd
    | more h hd ih =>
      obtain ⟨-, hfront, hvalue⟩ := ih
      refine ⟨by simp, ?_, by rw [digitsValue_more _ hd, hvalue]⟩
      intro c hc
      rcases List.mem_append.1 hc with hc | hc
      · exact hfront c hc
      · rw [List.mem_singleton.1 hc]
        exact isDigit_digitChar _ hd
  · rintro ⟨hne, hd, rfl⟩
    cases digits with
    | nil => exact absurd rfl hne
    | cons c digits =>
      obtain ⟨hc, htail⟩ := List.forall_mem_cons.1 hd
      obtain ⟨d, hlt, rfl⟩ := exists_digitChar hc
      have h := (Digits.one hlt).append htail
      rw [digitsValue, Nat.ofDigitChars_cons, Nat.toNat_digitChar_of_lt_ten hlt]
      simpa using h

theorem all_takeWhile_digits (text : List Char) : ∀ c ∈ text.takeWhile isDigit, isDigit c = true :=
  List.all_eq_true.1 List.all_takeWhile

/-! ## Signs -/

theorem splitSign_append (text : List Char) : (splitSign text).1 ++ (splitSign text).2 = text := by
  unfold splitSign
  split <;> rfl

theorem sign_splitSign (text : List Char) : Sign (splitSign text).1 (isNegative (splitSign text).1) := by
  unfold splitSign
  split
  · exact .plus
  · exact .minus
  · exact .none

theorem Digits.begins {digits : List Char} {n : Nat} (h : Digits digits n) : beginsAboveSigns digits = true := by
  obtain ⟨hne, hd, -⟩ := digits_iff.1 h
  have hbegins : beginsWithDigit (digits ++ []) = true := beginsWithDigit_append hne hd
  rw [List.append_nil] at hbegins
  exact beginsAboveSigns_of_digit hbegins

/-! ## Mantissas -/

/-- whether no digit and no point comes next -/
def endsMantissa : List Char → Bool
  | [] => true
  | c :: _ => !isDigit c && c != '.'

theorem takeWhile_of_endsMantissa {rest : List Char} (h : endsMantissa rest = true) :
    rest.takeWhile isDigit = [] := by
  cases rest with
  | nil => rfl
  | cons c rest => exact List.takeWhile_cons_of_neg (by simpa using (Bool.and_eq_true_iff.1 h).1)

theorem dropWhile_of_endsMantissa {rest : List Char} (h : endsMantissa rest = true) :
    rest.dropWhile isDigit = rest := by
  cases rest with
  | nil => rfl
  | cons c rest => exact List.dropWhile_cons_of_neg (by simpa using (Bool.and_eq_true_iff.1 h).1)

/-- what is read as a mantissa is one -/
theorem mantissa_of_leadingMantissa? {text whole fraction : List Char} {size : Nat}
    (h : leadingMantissa? text = some (whole, fraction, size)) :
    ∃ front rest, text = front ++ rest ∧ front.length = size ∧
      Mantissa front (digitsValue (whole ++ fraction)) fraction.length := by
  have hsplit : text.takeWhile isDigit ++ text.dropWhile isDigit = text := List.takeWhile_append_dropWhile
  have hwhole := all_takeWhile_digits text
  simp only [leadingMantissa?] at h
  split at h
  · rename_i rest hrest
    split at h
    · cases h
    · rename_i hempty
      have hfraction := all_takeWhile_digits rest
      cases h
      refine ⟨text.takeWhile isDigit ++ '.' :: rest.takeWhile isDigit, rest.dropWhile isDigit, ?_, ?_, ?_⟩
      · rw [List.append_assoc, List.cons_append, List.takeWhile_append_dropWhile, ← hrest, hsplit]
      · simp only [List.length_append, List.length_cons]
        omega
      · refine .pointed (digits_iff.2 ⟨?_, List.forall_mem_append.2 ⟨hwhole, hfraction⟩, rfl⟩)
        intro hnil
        obtain ⟨hw, hf⟩ := List.append_eq_nil_iff.1 hnil
        exact hempty (by rw [hw, hf]; rfl)
  · split at h
    · cases h
    · rename_i hempty
      cases h
      refine ⟨text.takeWhile isDigit, text.dropWhile isDigit, hsplit.symm, rfl, ?_⟩
      rw [List.append_nil]
      exact .whole (digits_iff.2 ⟨fun hnil => hempty (by rw [hnil]; rfl), hwhole, rfl⟩)

/-- no mantissa is longer than the one that is read, and it is the same one where nothing of it can follow -/
theorem leadingMantissa?_of_mantissa {front : List Char} {n places : Nat} (h : Mantissa front n places)
    (rest : List Char) :
    ∃ whole fraction size, leadingMantissa? (front ++ rest) = some (whole, fraction, size) ∧
      front.length ≤ size ∧ (endsMantissa rest = true →
        digitsValue (whole ++ fraction) = n ∧ fraction.length = places ∧ size = front.length) := by
  cases h with
  | whole h =>
    obtain ⟨hne, hd, hvalue⟩ := digits_iff.1 h
    have htake : (front ++ rest).takeWhile isDigit = front ++ rest.takeWhile isDigit :=
      List.takeWhile_append_of_pos hd
    have hdrop : (front ++ rest).dropWhile isDigit = rest.dropWhile isDigit := List.dropWhile_append_of_pos hd
    have hnonempty : (front ++ rest.takeWhile isDigit).isEmpty = false := by
      simp [hne]
    simp only [leadingMantissa?, htake, hdrop, hnonempty, Bool.false_and, Bool.false_eq_true, if_false]
    split
    · rename_i tail htail
      refine ⟨_, _, _, rfl, by simp only [List.length_append]; omega, fun hends => ?_⟩
      -- a point does come next
      rw [dropWhile_of_endsMantissa hends] at htail
      subst htail
      cases hends
    · refine ⟨_, _, _, rfl, by simp, fun hends => ?_⟩
      rw [takeWhile_of_endsMantissa hends]
      simpa using hvalue
  | pointed h =>
    rename_i whole fraction
    obtain ⟨hne, hd, hvalue⟩ := digits_iff.1 h
    obtain ⟨hw, hf⟩ := List.forall_mem_append.1 hd
    have hpoint : endsDigits ('.' :: (fraction ++ rest)) = true := rfl
    have hnonempty : (whole.isEmpty && (fraction ++ rest.takeWhile isDigit).isEmpty) = false := by
      cases whole with
      | nil =>
        have hfraction : fraction ≠ [] := by simpa using hne
        simp [hfraction]
      | cons c whole => rfl
    have htake : (fraction ++ rest).takeWhile isDigit = fraction ++ rest.takeWhile isDigit :=
      List.takeWhile_append_of_pos hf
    rw [List.append_assoc, List.cons_append]
    simp only [leadingMantissa?, takeWhile_digits hw hpoint, dropWhile_digits hw hpoint, htake, hnonempty,
      Bool.false_eq_true, if_false]
    refine ⟨_, _, _, rfl, by simp only [List.length_append, List.length_cons]; omega, fun hends => ?_⟩
    rw [takeWhile_of_endsMantissa hends, List.append_nil]
    refine ⟨hvalue, rfl, ?_⟩
    simp only [List.length_append, List.length_cons]
    omega

theorem Mantissa.begins {front : List Char} {n places : Nat} (h : Mantissa front n places) :
    beginsAboveSigns front = true := by
  cases h with
  | whole h => exact h.begins
  | pointed h =>
    rename_i whole fraction
    cases whole with
    | nil => rfl
    | cons c whole => exact h.begins

/-! ## Exponents -/

/-- what is read as an exponent is one, or nothing -/
theorem exponent_of_leadingExponent (text : List Char) :
    ∃ front rest, text = front ++ rest ∧ front.length = (leadingExponent text).2 ∧
      Exponent front (leadingExponent text).1 := by
  cases text with
  | nil => exact ⟨[], [], rfl, rfl, .absent⟩
  | cons c text =>
    by_cases hmark : (c == 'e' || c == 'E') = true
    · by_cases hempty : ((splitSign text).2.takeWhile isDigit).isEmpty = true
      · simp only [leadingExponent, hmark, hempty, if_true]
        exact ⟨[], c :: text, rfl, rfl, .absent⟩
      · simp only [leadingExponent, hmark, hempty, if_true, Bool.false_eq_true, if_false]
        have hdigits : Digits ((splitSign text).2.takeWhile isDigit) _ :=
          digits_iff.2 ⟨by simpa using hempty, all_takeWhile_digits _, rfl⟩
        refine ⟨c :: ((splitSign text).1 ++ (splitSign text).2.takeWhile isDigit),
          (splitSign text).2.dropWhile isDigit, ?_, ?_, .present (by simpa using hmark) (sign_splitSign text) hdigits⟩
        · rw [List.cons_append, List.append_assoc, List.takeWhile_append_dropWhile, splitSign_append]
        · simp only [List.length_cons, List.length_append]
          omega
    · simp only [leadingExponent, hmark]
      exact ⟨[], c :: text, rfl, rfl, .absent⟩

/-- no exponent is longer than the one that is read -/
theorem leadingExponent_of_exponent {front : List Char} {e : Int} (h : Exponent front e) (rest : List Char) :
    front.length ≤ (leadingExponent (front ++ rest)).2 ∧
      (rest = [] → leadingExponent (front ++ rest) = (e, front.length)) := by
  cases h with
  | absent =>
    refine ⟨Nat.zero_le _, ?_⟩
    rintro rfl
    rfl
  | present hmark hsign hdigits =>
    rename_i mark sign digits negative n
    obtain ⟨hne, hd, hvalue⟩ := digits_iff.1 hdigits
    have hm : (mark == 'e' || mark == 'E') = true := by simpa using hmark
    have htake : (digits ++ rest).takeWhile isDigit = digits ++ rest.takeWhile isDigit :=
      List.takeWhile_append_of_pos hd
    have hempty : (digits ++ rest.takeWhile isDigit).isEmpty = false := by
      simp [hne]
    rw [List.cons_append, List.append_assoc]
    simp only [leadingExponent, hm, splitSign_of_sign hsign (beginsAboveSigns_append hdigits.begins rest), htake,
      hempty, isNegative_of_sign hsign, if_true, Bool.false_eq_true, if_false]
    constructor
    · simp only [List.length_cons, List.length_append]
      omega
    · rintro rfl
      rw [List.takeWhile_nil, List.append_nil, hvalue, Prod.mk.injEq]
      refine ⟨rfl, ?_⟩
      simp only [List.length_cons, List.length_append]
      omega

/-- an exponent begins with a mark, which no mantissa can go on with -/
theorem endsMantissa_of_exponent {front rest : List Char} {e : Int} (h : Exponent front e)
    (hne : front ≠ [] ∨ rest = []) : endsMantissa (front ++ rest) = true := by
  cases h with
  | absent =>
    rw [hne.resolve_left (fun h => h rfl)]
    rfl
  | present hmark => rcases hmark with rfl | rfl <;> rfl

/-! ## Words -/

theorem beginsWithWord_iff {word text : List Char} :
    beginsWithWord word text = true ↔ word <+: text.map Char.toLower := by
  rw [beginsWithWord, beq_iff_eq, List.map_take, List.prefix_iff_eq_take]
  exact eq_comm

/-- only a letter becomes a letter in lower case -/
theorem letter_of_toLower {c : Char} (h : 'A'.toNat ≤ c.toLower.toNat) : 'A'.toNat ≤ c.toNat := by
  by_cases hupper : 'A'.val ≤ c.val
  · exact UInt32.le_iff_toNat_le.1 hupper
  · have hsame : c.toLower = c := dif_neg fun hrange => hupper hrange.1
    rwa [hsame] at h

/-- a text that begins with a word, cut behind it -/
theorem exists_word {word text : List Char} (h : beginsWithWord word text = true) :
    ∃ front rest, text = front ++ rest ∧ front.length = word.length ∧ front.map Char.toLower = word := by
  rw [beginsWithWord, beq_iff_eq] at h
  refine ⟨text.take word.length, text.drop word.length, (List.take_append_drop _ _).symm, ?_, h⟩
  have hlength := congrArg List.length h
  rwa [List.length_map] at hlength

/-- what is read as a word is one -/
theorem magnitude_of_leadingWord? {negative : Bool} {text : List Char} {w : Leading Binary64}
    (h : leadingWord? negative text = some w) :
    ∃ front rest, text = front ++ rest ∧ front.length = w.length ∧
      Magnitude negative .real front (.real w.value) := by
  simp only [leadingWord?] at h
  split at h
  · rename_i hword
    obtain ⟨front, rest, htext, hlength, hlower⟩ := exists_word hword
    cases h
    exact ⟨front, rest, htext, hlength, .infinite (.inr hlower)⟩
  · split at h
    · rename_i hword
      obtain ⟨front, rest, htext, hlength, hlower⟩ := exists_word hword
      cases h
      exact ⟨front, rest, htext, hlength, .infinite (.inl hlower)⟩
    · split at h
      · rename_i hword
        obtain ⟨front, rest, htext, hlength, hlower⟩ := exists_word hword
        cases h
        exact ⟨front, rest, htext, hlength, .nan hlower⟩
      · cases h

theorem beginsWithWord_append {front : List Char} (rest : List Char) {word : List Char}
    (h : front.map Char.toLower = word) : beginsWithWord word (front ++ rest) = true := by
  rw [beginsWithWord_iff, List.map_append, h]
  exact List.prefix_append _ _

/-- no word for an infinite number is longer than the one that is read -/
theorem leadingWord?_infinite (negative : Bool) {front : List Char}
    (h : front.map Char.toLower = "inf".toList ∨ front.map Char.toLower = "infinity".toList) (rest : List Char) :
    ∃ k, leadingWord? negative (front ++ rest) = some ⟨.infinite negative, k⟩ ∧ front.length ≤ k ∧
      (rest = [] → k = front.length) := by
  rcases h with h | h
  · have hlength : front.length = 3 := by simpa using congrArg List.length h
    by_cases hlong : beginsWithWord "infinity".toList (front ++ rest) = true
    · refine ⟨8, by rw [leadingWord?, if_pos hlong], by omega, ?_⟩
      rintro rfl
      rw [List.append_nil, beginsWithWord_iff, h] at hlong
      exact absurd hlong (by decide)
    · refine ⟨3, ?_, by omega, fun _ => by omega⟩
      rw [leadingWord?, if_neg hlong, if_pos (beginsWithWord_append rest h)]
  · have hlength : front.length = 8 := by simpa using congrArg List.length h
    exact ⟨8, by rw [leadingWord?, if_pos (beginsWithWord_append rest h)], by omega, fun _ => by omega⟩

theorem leadingWord?_nan (negative : Bool) {front : List Char} (h : front.map Char.toLower = "nan".toList)
    (rest : List Char) : leadingWord? negative (front ++ rest) = some ⟨.nan 0, 3⟩ := by
  have hother : ∀ word : List Char, beginsWithWord ('i' :: word) (front ++ rest) = false := by
    intro word
    rw [← Bool.not_eq_true, beginsWithWord_iff, List.map_append, h]
    rintro ⟨tail, htail⟩
    cases htail
  rw [leadingWord?, if_neg (by rw [show "infinity".toList = 'i' :: "nfinity".toList from rfl, hother]; simp),
    if_neg (by rw [show "inf".toList = 'i' :: "nf".toList from rfl, hother]; simp),
    if_pos (beginsWithWord_append rest h)]

/-- a word begins with a letter -/
theorem exists_letter {front word : List Char} {l : Char} (h : front.map Char.toLower = l :: word)
    (hl : 'A'.toNat ≤ l.toNat) : ∃ c front', front = c :: front' ∧ 'A'.toNat ≤ c.toNat := by
  cases front with
  | nil => cases h
  | cons c front =>
    obtain ⟨hc, -⟩ := List.cons.inj h
    exact ⟨c, front, rfl, letter_of_toLower (by rwa [hc])⟩

theorem exists_letter_of_infinite {front : List Char}
    (h : front.map Char.toLower = "inf".toList ∨ front.map Char.toLower = "infinity".toList) :
    ∃ c front', front = c :: front' ∧ 'A'.toNat ≤ c.toNat := by
  have hl : 'A'.toNat ≤ 'i'.toNat := by decide
  rcases h with h | h
  · exact exists_letter h hl
  · exact exists_letter h hl

theorem not_isDigit_of_letter {c : Char} (h : 'A'.toNat ≤ c.toNat) : isDigit c = false := by
  rw [← Bool.not_eq_true]
  intro hd
  have hhigh := (isDigit_range hd).2
  exact absurd (Nat.le_trans h hhigh) (by decide)

/-- where a letter stands there is no mantissa -/
theorem leadingMantissa?_of_letter {c : Char} (h : 'A'.toNat ≤ c.toNat) (rest : List Char) :
    leadingMantissa? (c :: rest) = none := by
  have hdigit := not_isDigit_of_letter h
  have hpoint : c ≠ '.' := by
    rintro rfl
    exact absurd h (by decide)
  simp [leadingMantissa?, hdigit, hpoint]

theorem Magnitude.begins {negative : Bool} {kind : NumberKind} {front : List Char} {n : Number}
    (h : Magnitude negative kind front n) : beginsAboveSigns front = true := by
  cases h with
  | int h => exact h.begins
  | decimal hm he => exact beginsAboveSigns_append hm.begins _
  | infinite h =>
    obtain ⟨c, tail, rfl, hc⟩ := exists_letter_of_infinite h
    exact decide_eq_true (Nat.le_trans (by decide) hc)
  | nan h =>
    obtain ⟨c, tail, rfl, hc⟩ := exists_letter h (by decide)
    exact decide_eq_true (Nat.le_trans (by decide) hc)

/-! ## Magnitudes -/

/-- the magnitude at the beginning of what stands behind a sign, an integer with any number of digits -/
def leadingMagnitude? (negative : Bool) (kind : NumberKind) (body : List Char) : Option (Leading Number) :=
  match kind with
  | .int =>
    let digits := body.takeWhile isDigit
    if digits.isEmpty then none else some ⟨.int (signed negative (digitsValue digits)), digits.length⟩
  | .real =>
    match leadingMantissa? body with
    | some (whole, fraction, size) =>
      let (exponent, extent) := leadingExponent (body.drop size)
      some ⟨.real (.nearest negative (.ofParts whole fraction exponent)), size + extent⟩
    | none => (leadingWord? negative body).map fun w => ⟨.real w.value, w.length⟩

/-- **What is read behind the sign is a magnitude.** -/
theorem leadingMagnitude?_sound {negative : Bool} {kind : NumberKind} {body : List Char} {r : Leading Number}
    (h : leadingMagnitude? negative kind body = some r) :
    ∃ front rest, body = front ++ rest ∧ front.length = r.length ∧ Magnitude negative kind front r.value := by
  cases kind with
  | int =>
    simp only [leadingMagnitude?] at h
    split at h
    · cases h
    · rename_i hempty
      cases h
      refine ⟨body.takeWhile isDigit, body.dropWhile isDigit, List.takeWhile_append_dropWhile.symm, rfl, .int ?_⟩
      exact digits_iff.2 ⟨by simpa using hempty, all_takeWhile_digits body, rfl⟩
  | real =>
    simp only [leadingMagnitude?] at h
    split at h
    · rename_i whole fraction size hread
      obtain ⟨mantissa, behind, rfl, hsize, hm⟩ := mantissa_of_leadingMantissa? hread
      obtain ⟨exponent, rest, hbehind, hextent, he⟩ := exponent_of_leadingExponent behind
      rw [List.drop_left' hsize] at h
      cases h
      refine ⟨mantissa ++ exponent, rest, ?_, ?_, .decimal hm he⟩
      · rw [List.append_assoc, ← hbehind]
      · rw [List.length_append, hsize, hextent]
    · cases hword : leadingWord? negative body with
      | none =>
        rw [hword] at h
        cases h
      | some w =>
        rw [hword] at h
        cases h
        exact magnitude_of_leadingWord? hword

/-- **No magnitude is longer than the one that is read.** -/
theorem leadingMagnitude?_greedy {negative : Bool} {kind : NumberKind} {front : List Char} {n : Number}
    (h : Magnitude negative kind front n) (rest : List Char) :
    ∃ r, leadingMagnitude? negative kind (front ++ rest) = some r ∧ front.length ≤ r.length ∧
      (rest = [] → r = ⟨n, front.length⟩) := by
  cases h with
  | int h =>
    obtain ⟨hne, hd, hvalue⟩ := digits_iff.1 h
    have htake : (front ++ rest).takeWhile isDigit = front ++ rest.takeWhile isDigit :=
      List.takeWhile_append_of_pos hd
    have hempty : (front ++ rest.takeWhile isDigit).isEmpty = false := by
      simp [hne]
    simp only [leadingMagnitude?, htake, hempty, Bool.false_eq_true, if_false]
    refine ⟨_, rfl, by simp, ?_⟩
    rintro rfl
    simp [hvalue]
  | decimal hm he =>
    rename_i mantissa exponent d places e
    rw [List.append_assoc]
    obtain ⟨whole, fraction, size, hread, hsize, hexact⟩ := leadingMantissa?_of_mantissa hm (exponent ++ rest)
    simp only [leadingMagnitude?, hread]
    by_cases hends : endsMantissa (exponent ++ rest) = true
    · obtain ⟨rfl, rfl, rfl⟩ := hexact hends
      obtain ⟨hextent, hwhole⟩ := leadingExponent_of_exponent he rest
      rw [List.drop_left]
      refine ⟨_, rfl, by simpa using hextent, fun hrest => ?_⟩
      simp only [hwhole hrest, List.length_append]
      rfl
    · -- the point of the mantissa that is read comes behind this one
      obtain rfl : exponent = [] := by
        by_cases hne : exponent = []
        · exact hne
        · exact absurd (endsMantissa_of_exponent he (.inl hne)) hends
      refine ⟨_, rfl, by simp only [List.append_nil]; omega, fun hrest => ?_⟩
      exact absurd (endsMantissa_of_exponent he (.inr hrest)) hends
  | infinite h =>
    obtain ⟨c, tail, rfl, hc⟩ := exists_letter_of_infinite h
    obtain ⟨k, hread, hlong, hexact⟩ := leadingWord?_infinite negative h rest
    refine ⟨⟨.real (.infinite negative), k⟩, ?_, hlong, fun hrest => by rw [hexact hrest]⟩
    rw [List.cons_append] at hread ⊢
    simp only [leadingMagnitude?, leadingMantissa?_of_letter hc, hread, Option.map_some]
  | nan h =>
    obtain ⟨c, tail, rfl, hc⟩ := exists_letter h (by decide)
    have hread := leadingWord?_nan negative h rest
    have hlength : (c :: tail).length = 3 := by simpa using congrArg List.length h
    refine ⟨⟨.real (.nan 0), 3⟩, ?_, Nat.le_of_eq hlength, fun _ => by rw [hlength]⟩
    rw [List.cons_append] at hread ⊢
    simp only [leadingMagnitude?, leadingMantissa?_of_letter hc, hread, Option.map_some]

/-! ## Blanks and signs before a magnitude -/

/-- a text apart, as it is read: the blanks at its beginning, a sign behind them, and what follows -/
structure Scanned (text blanks sign body : List Char) (negative : Bool) : Prop where
  split : text = blanks ++ (sign ++ body)
  blank : ∀ c ∈ blanks, isAsciiBlank c = true
  signs : Sign sign negative
  taken : text.takeWhile isAsciiBlank = blanks
  left : splitSign (text.dropWhile isAsciiBlank) = (sign, body)

theorem exists_scanned (text : List Char) : ∃ blanks sign body negative, Scanned text blanks sign body negative := by
  refine ⟨text.takeWhile isAsciiBlank, (splitSign (text.dropWhile isAsciiBlank)).1,
    (splitSign (text.dropWhile isAsciiBlank)).2, isNegative (splitSign (text.dropWhile isAsciiBlank)).1, ?_, ?_,
    sign_splitSign _, rfl, rfl⟩
  · rw [splitSign_append, List.takeWhile_append_dropWhile]
  · exact List.all_eq_true.1 List.all_takeWhile

/-- **Where a magnitude may begin a text is read apart in one way only.** -/
theorem Scanned.ofBegins {blanks sign body : List Char} {negative : Bool}
    (hblanks : ∀ c ∈ blanks, isAsciiBlank c = true) (hsign : Sign sign negative)
    (hb : beginsAboveSigns body = true) : Scanned (blanks ++ (sign ++ body)) blanks sign body negative := by
  obtain ⟨c, rest, hcons, hc⟩ := exists_cons_of_sign hsign hb
  refine ⟨rfl, hblanks, hsign, ?_, ?_⟩
  · rw [List.takeWhile_append_of_pos hblanks, hcons, List.takeWhile_cons_of_neg (by simp [hc]), List.append_nil]
  · rw [List.dropWhile_append_of_pos hblanks, hcons, List.dropWhile_cons_of_neg (by simp [hc]), ← hcons]
    exact splitSign_of_sign hsign hb

/-! ## Numbers at the beginning of a text -/

/-- the number at the beginning of a text, an integer with any number of digits -/
def leadingForm? (kind : NumberKind) (text : List Char) : Option (Leading Number) :=
  let blanks := text.takeWhile isAsciiBlank
  let (sign, body) := splitSign (text.dropWhile isAsciiBlank)
  (leadingMagnitude? (isNegative sign) kind body).map
    fun r => ⟨r.value, blanks.length + sign.length + r.length⟩

theorem leadingForm?_of_scanned {text blanks sign body : List Char} {negative : Bool}
    (h : Scanned text blanks sign body negative) (kind : NumberKind) :
    leadingForm? kind text = (leadingMagnitude? negative kind body).map
      fun r => ⟨r.value, blanks.length + sign.length + r.length⟩ := by
  rw [leadingForm?, h.taken, h.left]
  simp only [isNegative_of_sign h.signs]

/-- what is read at the beginning of a text is a number -/
theorem leadingForm?_sound {kind : NumberKind} {text : List Char} {r : Leading Number}
    (h : leadingForm? kind text = some r) : r.length ≤ text.length ∧ Denotes kind (text.take r.length) r.value := by
  obtain ⟨blanks, sign, body, negative, hscanned⟩ := exists_scanned text
  rw [leadingForm?_of_scanned hscanned] at h
  obtain ⟨m, hm, rfl⟩ := Option.map_eq_some_iff.1 h
  obtain ⟨front, rest, rfl, hlength, hmagnitude⟩ := leadingMagnitude?_sound hm
  have htext : text = blanks ++ (sign ++ front) ++ rest := by
    calc text = blanks ++ (sign ++ (front ++ rest)) := hscanned.split
      _ = blanks ++ (sign ++ front) ++ rest := by rw [List.append_assoc, List.append_assoc]
  have hsize : (blanks ++ (sign ++ front)).length = blanks.length + sign.length + m.length := by
    rw [List.length_append, List.length_append, hlength, Nat.add_assoc]
  subst htext
  refine ⟨?_, blanks, sign, front, negative, List.take_left' hsize, hscanned.blank, hscanned.signs, hmagnitude⟩
  rw [List.length_append, hsize]
  exact Nat.le_add_right _ _

/-- no number at the beginning of a text is longer than the one that is read -/
theorem leadingForm?_greedy {kind : NumberKind} {front : List Char} {n : Number} (h : Denotes kind front n)
    (rest : List Char) :
    ∃ r, leadingForm? kind (front ++ rest) = some r ∧ front.length ≤ r.length ∧
      (rest = [] → r = ⟨n, front.length⟩) := by
  obtain ⟨blanks, sign, body, negative, rfl, hblanks, hsign, hmagnitude⟩ := h
  obtain ⟨m, hread, hlong, hexact⟩ := leadingMagnitude?_greedy hmagnitude rest
  have hscanned := Scanned.ofBegins hblanks hsign (beginsAboveSigns_append hmagnitude.begins rest)
  have hsize : (blanks ++ (sign ++ body)).length = blanks.length + sign.length + body.length := by
    rw [List.length_append, List.length_append, Nat.add_assoc]
  rw [List.append_assoc, List.append_assoc, leadingForm?_of_scanned hscanned, hread]
  refine ⟨_, rfl, by rw [hsize]; exact Nat.add_le_add_left hlong _, fun hrest => ?_⟩
  rw [hexact hrest, hsize]

/-- a text stands for one number only -/
theorem Denotes.unique {kind : NumberKind} {text : List Char} {m n : Number} (hm : Denotes kind text m)
    (hn : Denotes kind text n) : m = n := by
  obtain ⟨r, hr, -, hrm⟩ := leadingForm?_greedy hm []
  obtain ⟨r', hr', -, hrn⟩ := leadingForm?_greedy hn []
  rw [hr, Option.some.injEq] at hr'
  subst hr'
  rw [hrm rfl] at hrn
  exact congrArg Leading.value (hrn rfl)

theorem leadingForm?_eq_some_iff {kind : NumberKind} {text : List Char} {r : Leading Number} :
    leadingForm? kind text = some r ↔
      Longest (IsNumber kind) text r.length ∧ Denotes kind (text.take r.length) r.value := by
  have hlongest : ∀ s, leadingForm? kind text = some s → Longest (IsNumber kind) text s.length := by
    intro s hs
    obtain ⟨hle, hdenotes⟩ := leadingForm?_sound hs
    refine ⟨hle, ⟨_, hdenotes⟩, fun j hj hnumber => ?_⟩
    obtain ⟨n, hn⟩ := hnumber
    obtain ⟨s', hs', hlong, -⟩ := leadingForm?_greedy hn (text.drop j)
    rw [List.take_append_drop, hs, Option.some.injEq] at hs'
    rwa [← hs', List.length_take, Nat.min_eq_left hj] at hlong
  constructor
  · intro h
    exact ⟨hlongest r h, (leadingForm?_sound h).2⟩
  · rintro ⟨hr, hdenotes⟩
    obtain ⟨s, hs, -⟩ := leadingForm?_greedy hdenotes (text.drop r.length)
    rw [List.take_append_drop] at hs
    have hlength := (hlongest s hs).unique hr
    have hvalue : s.value = r.value := by
      have hdenotes' := (leadingForm?_sound hs).2
      rw [hlength] at hdenotes'
      exact hdenotes'.unique hdenotes
    obtain ⟨v, k⟩ := s
    obtain ⟨v', k'⟩ := r
    obtain rfl : k = k' := hlength
    obtain rfl : v = v' := hvalue
    exact hs

theorem leadingForm?_eq_none_iff {kind : NumberKind} {text : List Char} :
    leadingForm? kind text = none ↔ ∀ j ≤ text.length, ¬ IsNumber kind (text.take j) := by
  constructor
  · rintro h j - ⟨n, hn⟩
    obtain ⟨r, hr, -⟩ := leadingForm?_greedy hn (text.drop j)
    rw [List.take_append_drop, h] at hr
    cases hr
  · intro h
    cases hr : leadingForm? kind text with
    | none => rfl
    | some r =>
      obtain ⟨hle, hdenotes⟩ := leadingForm?_sound hr
      exact absurd ⟨_, hdenotes⟩ (h r.length hle)

theorem leadingForm?_eq_some_whole_iff {kind : NumberKind} {text : List Char} {n : Number} :
    leadingForm? kind text = some ⟨n, text.length⟩ ↔ Denotes kind text n := by
  rw [leadingForm?_eq_some_iff, List.take_length]
  exact ⟨And.right, fun h => ⟨.ofWhole ⟨n, h⟩, h⟩⟩

theorem unreadable_iff {kind : NumberKind} {text : List Char} :
    Unreadable kind text ↔ ∀ r, leadingForm? kind text = some r → ¬ NotTooLong kind (text.take r.length) := by
  rw [Unreadable, ← leadingForm?_eq_none_iff]
  constructor
  · rintro (h | ⟨k, hk, hlong⟩) r hr
    · rw [h] at hr
      cases hr
    · rwa [(leadingForm?_eq_some_iff.1 hr).1.unique hk]
  · intro h
    cases hr : leadingForm? kind text with
    | none => exact .inl rfl
    | some r => exact .inr ⟨r.length, (leadingForm?_eq_some_iff.1 hr).1, h r hr⟩

theorem countP_isDigit_scanned {blanks sign digits : List Char} {negative : Bool}
    (hblanks : ∀ c ∈ blanks, isAsciiBlank c = true) (hsign : Sign sign negative)
    (hd : ∀ c ∈ digits, isDigit c = true) : (blanks ++ (sign ++ digits)).countP isDigit = digits.length := by
  have hb : blanks.countP isDigit = 0 := by
    refine List.countP_eq_zero.2 fun c hc hdigit => ?_
    have hblank := hblanks c hc
    rw [isAsciiBlank_of_isDigit hdigit] at hblank
    cases hblank
  have hs : sign.countP isDigit = 0 := by
    cases hsign <;> rfl
  rw [List.countP_append, List.countP_append, hb, hs, List.countP_eq_length.2 hd, Nat.zero_add, Nat.zero_add]

/-- **Only the digits of an integer can be too many.** -/
theorem leadingNumber_eq (kind : NumberKind) (text : List Char) :
    leadingNumber kind text =
      match leadingForm? kind text with
      | none => .error .noNumber
      | some r => if NotTooLong kind (text.take r.length) then .ok r else .error .tooManyDigits := by
  obtain ⟨blanks, sign, body, negative, hscanned⟩ := exists_scanned text
  rw [leadingForm?_of_scanned hscanned]
  cases kind with
  | int =>
    simp only [leadingNumber, leadingInt, leadingMagnitude?, hscanned.taken, hscanned.left,
      isNegative_of_sign hscanned.signs]
    by_cases hempty : (body.takeWhile isDigit).isEmpty = true
    · simp only [hempty, if_true]
      rfl
    · have htext : text = (blanks ++ (sign ++ body.takeWhile isDigit)) ++ body.dropWhile isDigit := by
        rw [List.append_assoc, List.append_assoc, List.takeWhile_append_dropWhile]
        exact hscanned.split
      have htake : text.take (blanks.length + sign.length + (body.takeWhile isDigit).length) =
          blanks ++ (sign ++ body.takeWhile isDigit) := by
        refine (congrArg _ htext).trans (List.take_left' ?_)
        simp only [List.length_append, Nat.add_assoc]
      have hcount := countP_isDigit_scanned hscanned.blank hscanned.signs (all_takeWhile_digits body)
      simp only [hempty, Bool.false_eq_true, if_false, Option.map_some, htake, NotTooLong, hcount, forall_const]
      by_cases hlimit : digitLimit < (body.takeWhile isDigit).length
      · simp only [if_pos hlimit, if_neg (Nat.not_le_of_lt hlimit)]
        rfl
      · simp only [if_neg hlimit, if_pos (Nat.le_of_not_lt hlimit)]
        rfl
  | real =>
    have hshort : ∀ front, NotTooLong .real front := by
      intro front h
      cases h
    simp only [leadingNumber, leadingReal?, leadingMagnitude?, hscanned.taken, hscanned.left,
      isNegative_of_sign hscanned.signs, hshort, if_true]
    cases leadingMantissa? body with
    | none => cases leadingWord? negative body <;> rfl
    | some m => simp only [Option.map_some, Nat.add_assoc]

/-! ## What becomes of a text -/

theorem leadingNumber_eq_ok_iff {kind : NumberKind} {text : List Char} {r : Leading Number} :
    leadingNumber kind text = .ok r ↔ leadingForm? kind text = some r ∧ NotTooLong kind (text.take r.length) := by
  rw [leadingNumber_eq]
  cases hform : leadingForm? kind text with
  | none => simp
  | some s =>
    by_cases hlong : NotTooLong kind (text.take s.length)
    · simp only [if_pos hlong, Except.ok.injEq, Option.some.injEq]
      exact ⟨fun h => ⟨h, h ▸ hlong⟩, And.left⟩
    · simp only [if_neg hlong, Option.some.injEq]
      refine ⟨fun h => (by cases h), ?_⟩
      rintro ⟨rfl, h⟩
      exact absurd h hlong

theorem leadingNumber_eq_error_iff {kind : NumberKind} {text : List Char} :
    (∃ fault, leadingNumber kind text = .error fault) ↔ Unreadable kind text := by
  rw [unreadable_iff]
  constructor
  · rintro ⟨fault, hfault⟩ r hr hlong
    rw [leadingNumber_eq_ok_iff.2 ⟨hr, hlong⟩] at hfault
    cases hfault
  · intro h
    cases hread : leadingNumber kind text with
    | error fault => exact ⟨fault, rfl⟩
    | ok r =>
      obtain ⟨hr, hlong⟩ := leadingNumber_eq_ok_iff.1 hread
      exact absurd hlong (h r hr)

section Conversion

variable (kind : NumberKind) (text : List Char) (field context expected : Datum) (optional : Bool)

/-- what a field makes of a token, by the numbers the token begins with -/
inductive Conversion : Except ReadError Number → Prop where
  /-- the token is a number as a whole -/
  | value {n : Number} (hn : Denotes kind text n) (hlong : NotTooLong kind text) : Conversion (.ok n)
  /-- something is left behind the longest number at its beginning -/
  | trailing {n : Number} {k : Nat} (hk : Longest (IsNumber kind) text k) (hn : Denotes kind (text.take k) n)
      (hlong : NotTooLong kind (text.take k)) (htail : text.drop k ≠ []) :
      Conversion (.error (.trailing field context text (text.drop k) n))
  /-- there is no token, but there must be one -/
  | missing (htext : text = []) (hoptional : optional = false) :
      Conversion (.error (.numberMissing field context expected))
  | malformed (h : Unreadable kind text) (hpresent : ¬ (text = [] ∧ optional = false)) :
      Conversion (.error (.notNumber field context text))

variable {kind text}

theorem convert_of_leadingForm? {r : Leading Number} (hr : leadingForm? kind text = some r)
    (hlong : NotTooLong kind (text.take r.length)) :
    convert kind text field context expected optional =
      if r.length = text.length then .ok r.value
      else .error (.trailing field context text (text.drop r.length) r.value) := by
  simp only [convert, leadingNumber_eq_ok_iff.2 ⟨hr, hlong⟩, beq_iff_eq]

theorem convert_of_unreadable (h : Unreadable kind text) :
    convert kind text field context expected optional =
      if text = [] ∧ optional = false then .error (.numberMissing field context expected)
      else .error (.notNumber field context text) := by
  obtain ⟨fault, hfault⟩ := leadingNumber_eq_error_iff.2 h
  simp only [convert, hfault, Bool.and_eq_true, Bool.not_eq_true', List.isEmpty_iff, and_comm]

theorem unreadable_nil : Unreadable kind [] := by
  refine unreadable_iff.2 fun r hr => ?_
  cases kind <;> cases hr

/-- **A field converts a token to the number it is, and refuses every other token by what it begins with.** -/
theorem convert_eq_iff {outcome : Except ReadError Number} :
    convert kind text field context expected optional = outcome ↔
      Conversion kind text field context expected optional outcome := by
  constructor
  · rintro rfl
    by_cases hun : Unreadable kind text
    · rw [convert_of_unreadable field context expected optional hun]
      split
      · rename_i hmissing
        exact .missing hmissing.1 hmissing.2
      · rename_i hpresent
        exact .malformed hun hpresent
    · obtain ⟨r, hr, hlong⟩ : ∃ r, leadingForm? kind text = some r ∧ NotTooLong kind (text.take r.length) := by
        simpa [unreadable_iff] using hun
      obtain ⟨hk, hn⟩ := leadingForm?_eq_some_iff.1 hr
      rw [convert_of_leadingForm? field context expected optional hr hlong]
      split
      · rename_i hwhole
        rw [hwhole, List.take_length] at hn hlong
        exact .value hn hlong
      · rename_i hpart
        refine .trailing hk hn hlong fun hnil => hpart ?_
        have hle := List.drop_eq_nil_iff.1 hnil
        exact Nat.le_antisymm hk.within hle
  · rintro (⟨hn, hlong⟩ | ⟨hk, hn, hlong, htail⟩ | ⟨rfl, hoptional⟩ | ⟨hun, hpresent⟩)
    · rename_i n
      have hr := leadingForm?_eq_some_whole_iff.2 hn
      rw [convert_of_leadingForm? field context expected optional hr (by rwa [List.take_length]), if_pos rfl]
    · rename_i n k
      have hr : leadingForm? kind text = some ⟨n, k⟩ := leadingForm?_eq_some_iff.2 ⟨hk, hn⟩
      rw [convert_of_leadingForm? field context expected optional hr hlong, if_neg]
      intro hwhole
      exact htail (List.drop_eq_nil_iff.2 (Nat.le_of_eq hwhole.symm))
    · rw [convert_of_unreadable field context expected optional unreadable_nil, if_pos ⟨rfl, hoptional⟩]
    · rw [convert_of_unreadable field context expected optional hun, if_neg hpresent]

end Conversion

/-- The number that is read at the beginning of a text, and what a field makes of the text as a token. -/
structure Classified (kind : NumberKind) (text : List Char) : Prop where
  /-- the longest number at the beginning of the text is read -/
  read : ∀ n k, leadingNumber kind text = .ok ⟨n, k⟩ ↔
    Longest (IsNumber kind) text k ∧ Denotes kind (text.take k) n ∧ NotTooLong kind (text.take k)
  /-- nothing is read where there is no number, or an integer with too many digits -/
  refused : (∃ fault, leadingNumber kind text = .error fault) ↔ Unreadable kind text
  converted : ∀ field context expected optional outcome,
    convert kind text field context expected optional = outcome ↔
      Conversion kind text field context expected optional outcome

/-- a mark without digits is no exponent and stays behind -/
example : (leadingForm? .real " -1.e+x".toList).map Leading.length = some 4 := by
  decide +kernel

end LineGrammar
