/-
The tokens of a text, seen from the text's shape.

Every text is blanks only, or blanks, a token, and a rest that does not go on with that token. All that is proved about
tokens follows this shape.
- `tokens_append`: a text that ends where the next one cannot go on with its last token has its tokens first.
- `tokens_eq_nil_iff`: only blanks have no tokens.
- `token_cases`: the induction along the shape.
- `tokens_joinTokens`: tokens that are written with a blank between them are read back.
-/
import Mathlib.Data.List.TakeWhile
import LineGrammar.Grammar.DefaultLine

namespace LineGrammar

/-- a text of blanks only -/
def Blank (text : List Char) : Prop :=
  ∀ c ∈ text, isBlank c = true

theorem Blank.nil : Blank [] := by
  simp [Blank]

theorem Blank.append {a b : List Char} (ha : Blank a) (hb : Blank b) : Blank (a ++ b) := by
  intro c hc
  rcases List.mem_append.1 hc with h | h
  · exact ha c h
  · exact hb c h

theorem isToken_chars (t : Token) : isToken t.chars = true :=
  isToken_iff.2 ⟨t.nonempty, t.solid⟩

theorem ne_nil_of_isToken {t : List Char} (h : isToken t = true) : t ≠ [] :=
  (isToken_iff.1 h).1

/-- a token begins with a character that is not blank -/
theorem not_atBoundary_of_isToken {t s : List Char} (h : isToken t = true) : atBoundary (t ++ s) = false := by
  obtain ⟨hne, hs⟩ := isToken_iff.1 h
  cases t with
  | nil => exact absurd rfl hne
  | cons c t => exact hs c List.mem_cons_self

theorem atBoundary_append_of_blank {a s : List Char} (ha : Blank a) (hs : atBoundary s = true) :
    atBoundary (a ++ s) = true := by
  cases a with
  | nil => exact hs
  | cons c a => exact ha c List.mem_cons_self

/-! ## Tokens of composed texts -/

theorem tokens_cons_blank {c : Char} (s : List Char) (hc : isBlank c = true) : tokens (c :: s) = tokens s := by
  rw [tokens, if_pos hc]

theorem tokens_cons_end {c : Char} {s : List Char} (hc : isBlank c = false) (hs : atBoundary s = true) :
    tokens (c :: s) = [c] :: tokens s := by
  rw [tokens, if_neg (by simp [hc]), if_pos hs]

theorem tokens_cons_solid {c : Char} {s : List Char} (hc : isBlank c = false) (hs : atBoundary s = false) :
    tokens (c :: s) = (tokens s).modifyHead (c :: ·) := by
  rw [tokens, if_neg (by simp [hc]), if_neg (by simp [hs])]

theorem tokens_ne_nil {s : List Char} (hs : atBoundary s = false) : tokens s ≠ [] := by
  induction s with
  | nil => simp [atBoundary] at hs
  | cons c s ih =>
    cases h : atBoundary s with
    | true => simp [tokens_cons_end hs h]
    | false =>
      rw [tokens_cons_solid hs h]
      cases ht : tokens s with
      | nil => exact absurd ht (ih h)
      | cons t ts => simp

theorem tokens_blank_append {a : List Char} (s : List Char) (ha : Blank a) : tokens (a ++ s) = tokens s := by
  induction a with
  | nil => rfl
  | cons c a ih =>
    rw [List.cons_append, tokens_cons_blank _ (ha c List.mem_cons_self)]
    exact ih (fun d hd => ha d (List.mem_cons_of_mem c hd))

/-- **Tokens do not reach over a boundary.** -/
theorem tokens_append {a s : List Char} (hs : atBoundary s = true) : tokens (a ++ s) = tokens a ++ tokens s := by
  induction a with
  | nil => rfl
  | cons c a ih =>
    rw [List.cons_append]
    cases hc : isBlank c with
    | true => rw [tokens_cons_blank _ hc, tokens_cons_blank _ hc, ih]
    | false =>
      cases a with
      | nil =>
        rw [List.nil_append, tokens_cons_end hc hs, tokens_cons_end hc rfl]
        rfl
      | cons d a =>
        cases hd : isBlank d with
        | true => rw [tokens_cons_end hc (by exact hd), tokens_cons_end hc (by exact hd), ih, List.cons_append]
        | false =>
          rw [tokens_cons_solid hc (by exact hd), tokens_cons_solid hc (by exact hd), ih]
          cases ht : tokens (d :: a) with
          | nil => exact absurd ht (tokens_ne_nil hd)
          | cons t ts => rfl

theorem tokens_eq_nil_of_blank {s : List Char} (hs : Blank s) : tokens s = [] := by
  simpa [tokens] using tokens_blank_append [] hs

/-- the same, with the boundary at the end of the first text -/
theorem tokens_append_of_ends {a : List Char} (s : List Char) (ha : atBoundary a.reverse = true) :
    tokens (a ++ s) = tokens a ++ tokens s := by
  cases hrev : a.reverse with
  | nil => simp [List.reverse_eq_nil_iff.1 hrev, tokens]
  | cons c front =>
    have hc : isBlank c = true := by rw [hrev] at ha; exact ha
    have he : a = front.reverse ++ [c] := by rw [← List.reverse_reverse a, hrev, List.reverse_cons]
    have hblank : Blank [c] := by simpa [Blank] using hc
    rw [he, List.append_assoc, tokens_append (by exact hc), tokens_append (s := [c]) (by exact hc),
      tokens_blank_append _ hblank, tokens_eq_nil_of_blank hblank, List.append_nil]

/-- only blanks have no tokens -/
theorem tokens_eq_nil_iff {s : List Char} : tokens s = [] ↔ Blank s := by
  refine ⟨fun h => ?_, tokens_eq_nil_of_blank⟩
  induction s with
  | nil => exact Blank.nil
  | cons c s ih =>
    cases hc : isBlank c with
    | false => exact absurd h (tokens_ne_nil hc)
    | true =>
      rw [tokens_cons_blank _ hc] at h
      intro d hd
      rcases List.mem_cons.1 hd with rfl | hd
      · exact hc
      · exact ih h d hd

theorem tokens_of_isToken {t : List Char} (ht : isToken t = true) : tokens t = [t] := by
  obtain ⟨hne, hs⟩ := isToken_iff.1 ht
  induction t with
  | nil => exact absurd rfl hne
  | cons c t ih =>
    have hc : isBlank c = false := hs c List.mem_cons_self
    cases t with
    | nil => rw [tokens_cons_end hc rfl, tokens]
    | cons d t =>
      have hd : isBlank d = false := hs d (by simp)
      have hs' : ∀ e ∈ d :: t, isBlank e = false := fun e he => hs e (List.mem_cons_of_mem c he)
      rw [tokens_cons_solid hc (by exact hd), ih (isToken_iff.2 ⟨by simp, hs'⟩) (by simp) hs']
      rfl

theorem tokens_token_append {t s : List Char} (ht : isToken t = true) (hs : atBoundary s = true) :
    tokens (t ++ s) = t :: tokens s := by
  rw [tokens_append hs, tokens_of_isToken ht]
  rfl

/-! ## The shape of a text -/

theorem blank_leadingBlanks (s : List Char) : Blank (leadingBlanks s) :=
  fun _ hc => List.mem_takeWhile_imp hc

theorem leadingBlanks_append_skipBlanks (s : List Char) : leadingBlanks s ++ skipBlanks s = s :=
  List.takeWhile_append_dropWhile

theorem leadingToken_append_afterToken (s : List Char) : leadingToken s ++ afterToken s = s :=
  List.takeWhile_append_dropWhile

theorem atBoundary_afterToken (s : List Char) : atBoundary (afterToken s) = true := by
  induction s with
  | nil => rfl
  | cons c s ih =>
    cases hc : isBlank c with
    | true => simp [afterToken, atBoundary, hc]
    | false => simpa [afterToken, hc] using ih

theorem skipBlanks_of_blank_append {a s : List Char} (ha : Blank a) (hs : atBoundary s = false) :
    skipBlanks (a ++ s) = s := by
  have h : skipBlanks s = s := by
    cases s with
    | nil => rfl
    | cons c s =>
      have hc : isBlank c = false := hs
      simp [skipBlanks, hc]
  rw [skipBlanks, List.dropWhile_append_of_pos ha]
  exact h

theorem leadingToken_append {t s : List Char} (ht : isToken t = true) (hs : atBoundary s = true) :
    leadingToken (t ++ s) = t := by
  have hsolid : ∀ c ∈ t, (!isBlank c) = true := fun c hc => by simp [(isToken_iff.1 ht).2 c hc]
  rw [leadingToken, List.takeWhile_append_of_pos hsolid]
  cases s with
  | nil => simp
  | cons c s =>
    have hc : isBlank c = true := hs
    simp [hc]

theorem afterToken_append {t s : List Char} (ht : isToken t = true) (hs : atBoundary s = true) :
    afterToken (t ++ s) = s := by
  have h := leadingToken_append_afterToken (t ++ s)
  rw [leadingToken_append ht hs] at h
  exact List.append_cancel_left h

/-- a text is blanks, or blanks with a token behind them that ends where the text ends or a blank comes next -/
theorem blank_or_token (s : List Char) :
    Blank s ∨ ∃ b t r, s = b ++ (t ++ r) ∧ Blank b ∧ isToken t = true ∧ atBoundary r = true := by
  cases h : skipBlanks s with
  | nil => exact Or.inl (List.dropWhile_eq_nil_iff.1 h)
  | cons c r =>
    have hc : isBlank c = false := by
      have hd : s.dropWhile isBlank = c :: r := h
      have hne : s.dropWhile isBlank ≠ [] := by simp [hd]
      simpa [hd] using List.head_dropWhile_not isBlank hne
    refine Or.inr ⟨leadingBlanks s, leadingToken (c :: r), afterToken (c :: r), ?_, blank_leadingBlanks s, ?_,
      atBoundary_afterToken _⟩
    · rw [leadingToken_append_afterToken, ← h, leadingBlanks_append_skipBlanks]
    · refine isToken_iff.2 ⟨by simp [leadingToken, hc], fun d hd => ?_⟩
      simpa using List.mem_takeWhile_imp hd

/-- **Induction along the tokens of a text.** -/
theorem token_cases {motive : List Char → Prop} (blank : ∀ b, Blank b → motive b)
    (token : ∀ b t r, Blank b → isToken t = true → atBoundary r = true → motive r → motive (b ++ (t ++ r)))
    (s : List Char) : motive s := by
  induction h : s.length using Nat.strongRecOn generalizing s with
  | _ n ih =>
    rcases blank_or_token s with hb | ⟨b, t, r, rfl, hb, ht, hr⟩
    · exact blank s hb
    · refine token b t r hb ht hr (ih r.length ?_ r rfl)
      have := List.length_pos_iff.2 (ne_nil_of_isToken ht)
      simp only [List.length_append] at h
      omega

theorem isToken_of_mem_tokens {s t : List Char} (h : t ∈ tokens s) : isToken t = true := by
  induction s using token_cases with
  | blank b hb => simp [tokens_eq_nil_of_blank hb] at h
  | token b u r hb hu hr ih =>
    rw [tokens_blank_append _ hb, tokens_token_append hu hr] at h
    rcases List.mem_cons.1 h with rfl | h
    · exact hu
    · exact ih h

/-! ## Tokens that are written out -/

/-- **Tokens with blanks between them are read back.** -/
theorem tokens_joinTokens {ts : List (List Char)} (h : ∀ t ∈ ts, isToken t = true) : tokens (joinTokens ts) = ts := by
  induction ts with
  | nil => rfl
  | cons t ts ih =>
    have ht := h t List.mem_cons_self
    have ih := ih (fun u hu => h u (List.mem_cons_of_mem t hu))
    cases ts with
    | nil => simpa [joinTokens, List.intercalate_singleton] using tokens_of_isToken ht
    | cons u ts =>
      have hb : Blank [' '] := by simp [Blank]; decide
      rw [joinTokens, List.intercalate_cons_cons, List.append_assoc,
        tokens_token_append ht (by simp [atBoundary]; decide), tokens_blank_append _ hb]
      exact congrArg (t :: ·) ih

end LineGrammar
