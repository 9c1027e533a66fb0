/-
Tokens cut out from where a cursor stands.

Reading a token takes it out of the line and leaves the cursor where it was, so that the next reading takes the token
behind it. A cursor may stand anywhere, in the middle of a token too: what counts is the text after it. What is left of
that text is a text without its first tokens (`withoutTokens`), all of whose blanks are still there; and so many
readings in a row are one cut (`Cursor.cut`).
- `tokens_withoutTokens`, `blanks_withoutTokens`: what a cut leaves.
- `exists_gaps`: a text and what a cut leaves of it, side by side.
- `Cursor.next_eq`: reading one token is a cut.
- `Cursor.cut_nexts`: reading several is a cut, by induction on how many.
- `Cursor.reads_in_turn`: what several readings give, and what they leave.
-/
import LineGrammar.Proofs.Anchor

namespace LineGrammar

/-! ## A text without its first tokens -/

/-- the text without its first tokens; the blanks stay -/
def withoutTokens : Nat → List Char → List Char
  | 0, text => text
  | k + 1, text => leadingBlanks text ++ withoutTokens k (afterToken (skipBlanks text))

theorem withoutTokens_blank_append (k : Nat) {b : List Char} (hb : Blank b) (s : List Char) :
    withoutTokens k (b ++ s) = b ++ withoutTokens k s := by
  cases k with
  | zero => rfl
  | succ k =>
    have hlead : leadingBlanks (b ++ s) = b ++ leadingBlanks s := List.takeWhile_append_of_pos hb
    have hskip : skipBlanks (b ++ s) = skipBlanks s := List.dropWhile_append_of_pos hb
    rw [withoutTokens, withoutTokens, hlead, hskip, List.append_assoc]

theorem withoutTokens_nil (k : Nat) : withoutTokens k [] = [] := by
  induction k with
  | zero => rfl
  | succ k ih => exact ih

/-- blanks only lose nothing -/
theorem withoutTokens_of_blank (k : Nat) {b : List Char} (hb : Blank b) : withoutTokens k b = b := by
  have h := withoutTokens_blank_append k hb []
  rwa [List.append_nil, withoutTokens_nil, List.append_nil] at h

theorem withoutTokens_token (k : Nat) {b t r : List Char} (hb : Blank b) (ht : isToken t = true)
    (hr : atBoundary r = true) : withoutTokens (k + 1) (b ++ (t ++ r)) = b ++ withoutTokens k r := by
  have hskip : skipBlanks (t ++ r) = t ++ r := skipBlanks_of_blank_append Blank.nil (not_atBoundary_of_isToken ht)
  have hlead : leadingBlanks (t ++ r) = [] := by
    have h := leadingBlanks_append_skipBlanks (t ++ r)
    rw [hskip] at h
    exact List.append_left_eq_self.1 h
  rw [withoutTokens_blank_append _ hb, withoutTokens, hlead, hskip, afterToken_append ht hr, List.nil_append]

theorem withoutTokens_succ (k : Nat) (s : List Char) :
    withoutTokens k (withoutTokens 1 s) = withoutTokens (k + 1) s := by
  rw [withoutTokens, withoutTokens, withoutTokens, withoutTokens_blank_append _ (blank_leadingBlanks s)]

/-- **The tokens that are left are the ones behind.** -/
theorem tokens_withoutTokens (k : Nat) (s : List Char) : tokens (withoutTokens k s) = (tokens s).drop k := by
  induction s using token_cases generalizing k with
  | blank b hb => rw [withoutTokens_of_blank k hb, tokens_eq_nil_of_blank hb, List.drop_nil]
  | token b t r hb ht hr ih =>
    cases k with
    | zero => rfl
    | succ k =>
      rw [withoutTokens_token k hb ht hr, tokens_blank_append _ hb, tokens_blank_append _ hb, tokens_token_append ht hr,
        List.drop_succ_cons, ih]

/-- **No blank is lost.** -/
theorem blanks_withoutTokens (k : Nat) (s : List Char) : blanks (withoutTokens k s) = blanks s := by
  induction s using token_cases generalizing k with
  | blank b hb => rw [withoutTokens_of_blank k hb]
  | token b t r hb ht hr ih =>
    cases k with
    | zero => rfl
    | succ k =>
      have hcut : blanks (b ++ r) = blanks (b ++ (t ++ r)) := blanks_of_split rfl ht
      rw [withoutTokens_token k hb ht hr, ← hcut]
      simpa [blanks] using ih k

/-- **Every token cut out had its blanks before it, and these are left:** the text is blanks and tokens in turn, and
what is left is the same without the tokens. -/
theorem exists_gaps (k : Nat) (s : List Char) :
    ∃ gaps tail, gaps.length = ((tokens s).take k).length ∧ (∀ gap ∈ gaps, Blank gap) ∧
      s = (List.zipWith (· ++ ·) gaps ((tokens s).take k)).flatten ++ tail ∧
      withoutTokens k s = gaps.flatten ++ tail := by
  induction s using token_cases generalizing k with
  | blank b hb =>
    refine ⟨[], b, ?_, by simp, ?_, ?_⟩
    · simp [tokens_eq_nil_of_blank hb]
    · simp [tokens_eq_nil_of_blank hb]
    · rw [withoutTokens_of_blank k hb]
      rfl
  | token b t r hb ht hr ih =>
    have htokens : tokens (b ++ (t ++ r)) = t :: tokens r := by
      rw [tokens_blank_append _ hb, tokens_token_append ht hr]
    cases k with
    | zero => exact ⟨[], b ++ (t ++ r), rfl, by simp, rfl, rfl⟩
    | succ k =>
      obtain ⟨gaps, tail, hlength, hgaps, hsplit, hleft⟩ := ih k
      refine ⟨b :: gaps, tail, ?_, List.forall_mem_cons.2 ⟨hb, hgaps⟩, ?_, ?_⟩
      · rw [htokens, List.take_succ_cons, List.length_cons, List.length_cons, hlength]
      · rw [htokens, List.take_succ_cons, List.zipWith_cons_cons, List.flatten_cons, List.append_assoc,
          List.append_assoc, ← hsplit]
      · rw [withoutTokens_token k hb ht hr, hleft, List.flatten_cons, List.append_assoc]

namespace Cursor

/-! ## Cutting out -/

/-- the first tokens after the cursor cut out -/
def cut (c : Cursor) (k : Nat) : Cursor :=
  ⟨c.line.take c.position ++ withoutTokens k c.rest, c.position⟩

/-- behind its line a cursor has nothing after it -/
theorem rest_of_outside {c : Cursor} (h : ¬ c.position ≤ c.line.length) : c.rest = [] :=
  List.drop_of_length_le (Nat.le_of_not_le h)

theorem cut_zero (c : Cursor) : c.cut 0 = c := by
  cases c with
  | mk line position => exact congrArg (fun line => (⟨line, position⟩ : Cursor)) (List.take_append_drop position line)

theorem take_cut (c : Cursor) (k : Nat) : (c.cut k).line.take c.position = c.line.take c.position := by
  by_cases h : c.position ≤ c.line.length
  · exact List.take_left' (List.length_take_of_le h)
  · rw [cut, rest_of_outside h, withoutTokens_nil, List.append_nil, List.take_take, Nat.min_self]

theorem rest_cut (c : Cursor) (k : Nat) : (c.cut k).rest = withoutTokens k c.rest := by
  by_cases h : c.position ≤ c.line.length
  · exact List.drop_left' (List.length_take_of_le h)
  · rw [rest, cut, rest_of_outside h, withoutTokens_nil, List.append_nil]
    exact List.drop_of_length_le (Nat.le_trans (List.length_take_le _ _) (Nat.le_refl _))

theorem cut_cut (c : Cursor) (k : Nat) : (c.cut 1).cut k = c.cut (k + 1) := by
  have hposition : (c.cut 1).position = c.position := rfl
  rw [cut, hposition, take_cut, rest_cut, withoutTokens_succ]
  rfl

/-- the tokens ahead of the cursor are fewer by those cut out -/
theorem ahead_cut (c : Cursor) (k : Nat) : (c.cut k).ahead = c.ahead.drop k := by
  rw [ahead, rest_cut, tokens_withoutTokens]
  rfl

theorem ahead_of_atEnd {c : Cursor} (h : c.atEnd = true) : c.ahead = [] := by
  have hle : c.line.length ≤ c.position := by simpa [atEnd] using h
  rw [ahead, rest, List.drop_of_length_le hle, tokens]

/-- where no token is ahead none is cut out -/
theorem cut_of_ahead_nil {c : Cursor} (h : c.ahead = []) (k : Nat) : c.cut k = c := by
  rw [cut, withoutTokens_of_blank k (tokens_eq_nil_iff.1 h)]
  exact cut_zero c

/-- **The next token is the first one ahead, and it is cut out.** -/
theorem next_eq (c : Cursor) : c.next = (c.ahead.head?, c.cut 1) := by
  rcases blank_or_token c.rest with hb | ⟨b, t, r, hsplit, hb, ht, hr⟩
  · have hahead : c.ahead = [] := tokens_eq_nil_of_blank hb
    rw [next_of_blank hb, cut_of_ahead_nil hahead, hahead, List.head?_nil]
  · rw [next_of_token hsplit hb ht hr, cut, ahead, hsplit, withoutTokens_token 0 hb ht hr, tokens_blank_append _ hb,
      tokens_token_append ht hr, List.head?_cons]
    rfl

/-- what is read is what was ahead -/
theorem next_fst (c : Cursor) : c.next.1 = c.peek? := by
  unfold next
  cases c.peek? <;> rfl

/-! ## Several readings -/

/-- reads so many times, one time after the other, with what every reading gives -/
def nexts : Nat → Cursor → List (Option (List Char)) × Cursor
  | 0, c => ([], c)
  | k + 1, c => (c.next.1 :: (nexts k c.next.2).1, (nexts k c.next.2).2)

/-- **Several readings are one cut.** -/
theorem cut_nexts (k : Nat) (c : Cursor) : (nexts k c).2 = c.cut k := by
  induction k generalizing c with
  | zero => exact c.cut_zero.symm
  | succ k ih =>
    have hone : c.next.2 = c.cut 1 := by rw [next_eq]
    rw [nexts, ih, hone, cut_cut]

/-- the tokens ahead are given one after the other, and then nothing -/
theorem nexts_fst (k : Nat) (c : Cursor) :
    (nexts k c).1 = (c.ahead.take k).map some ++ List.replicate (k - c.ahead.length) none := by
  induction k generalizing c with
  | zero => simp [nexts]
  | succ k ih =>
    have hone : c.next.2 = c.cut 1 := by rw [next_eq]
    have hfirst : c.next.1 = c.ahead.head? := by rw [next_eq]
    rw [nexts, ih, hone, ahead_cut, hfirst]
    cases c.ahead with
    | nil => simp [List.replicate_succ]
    | cons t ts => simp

/-- every reading gives what a look ahead would have given right before it -/
theorem getElem?_nexts {j k : Nat} (h : j < k) (c : Cursor) : (nexts k c).1[j]? = some (nexts j c).2.peek? := by
  induction k generalizing j c with
  | zero => exact absurd h (Nat.not_lt_zero j)
  | succ k ih =>
    cases j with
    | zero => exact congrArg some (next_fst c)
    | succ j =>
      have hj : j < k := Nat.lt_of_succ_lt_succ h
      rw [nexts, List.getElem?_cons_succ, ih hj, nexts]

/-- What so many readings in a row come to, from wherever the cursor stands. -/
structure ReadsInTurn (c : Cursor) (k : Nat) : Prop where
  /-- the tokens ahead are given in order, and nothing once they are used up -/
  given : (c.nexts k).1 = (c.ahead.take k).map some ++ List.replicate (k - c.ahead.length) none
  /-- each of the readings gives what a look ahead right before it would have given -/
  foreseen : ∀ j < k, (c.nexts k).1[j]? = some (c.nexts j).2.peek?
  /-- the cursor does not move -/
  position_eq : (c.nexts k).2.position = c.position
  /-- the text before the cursor stays as it is -/
  before_eq : (c.nexts k).2.line.take c.position = c.line.take c.position
  /-- The text after the cursor is blanks and the tokens given, in turn, with something behind them. On the line that
  is left the blanks and what is behind them stand as they did, and the tokens are gone. -/
  cut : ∃ gaps tail, gaps.length = (c.ahead.take k).length ∧ (∀ gap ∈ gaps, Blank gap) ∧
    c.rest = (List.zipWith (· ++ ·) gaps (c.ahead.take k)).flatten ++ tail ∧
    (c.nexts k).2.line = c.line.take c.position ++ (gaps.flatten ++ tail)
  /-- so the tokens behind those given are still ahead, and no blank is lost -/
  left : (c.nexts k).2.ahead = c.ahead.drop k ∧ blanks (c.nexts k).2.line = blanks c.line

/-- **Readings in a row give the tokens ahead in their order, and cut them out and nothing else.** -/
theorem reads_in_turn (c : Cursor) (k : Nat) : c.ReadsInTurn k where
  given := nexts_fst k c
  foreseen _ hj := getElem?_nexts hj c
  position_eq := by
    rw [cut_nexts]
    rfl
  before_eq := by rw [cut_nexts, take_cut]
  cut := by
    obtain ⟨gaps, tail, hlength, hgaps, hsplit, hleft⟩ := exists_gaps k c.rest
    refine ⟨gaps, tail, hlength, hgaps, hsplit, ?_⟩
    rw [cut_nexts, Cursor.cut, hleft]
  left := by
    rw [cut_nexts]
    refine ⟨ahead_cut c k, ?_⟩
    have hline : c.line = c.line.take c.position ++ c.rest := (List.take_append_drop c.position c.line).symm
    calc blanks (c.cut k).line
        = blanks (c.line.take c.position) ++ blanks (withoutTokens k c.rest) := List.filter_append _ _
      _ = blanks (c.line.take c.position) ++ blanks c.rest := by rw [blanks_withoutTokens]
      _ = blanks (c.line.take c.position ++ c.rest) := (List.filter_append _ _).symm
      _ = blanks c.line := by rw [← hline]

/-- from within a token what is left of it is read first -/
example : nexts 3 ⟨"NUM 2  7 ".toList, 1⟩ = ([some "UM".toList, some "2".toList, some "7".toList],
    ⟨"N    ".toList, 1⟩) := by decide

end Cursor

end LineGrammar
