/-
What a cursor finds, cuts out and reads, said of the tokens of its line.

A label is found exactly where it is one of the tokens, and the first such token is the one found (`FirstAt`). Cutting a
label out never fails, for a cursor can always stay where the label was; so nothing that is read puts a cursor outside
its line.
- `labelOffset?_eq_none_iff`, `firstAt_of_labelOffset?`: what is found.
- `FirstAt.around_eq`: the text is split at its label as its tokens are.
- `removeAt_of_split`: what cutting out leaves.
- `next_of_token`, `next_of_blank`: what is read behind the cursor.
-/
import LineGrammar.Proofs.Tokens

namespace LineGrammar

/-! ## Where a label is -/

/-- the text around the first token that equals the label -/
structure FirstAt (label text before after : List Char) : Prop where
  split : text = before ++ (label ++ after)
  starts : atBoundary before.reverse = true
  stops : atBoundary after = true
  first : label ∉ tokens before

theorem beginsWithLabel_iff {label text : List Char} :
    beginsWithLabel label text = true ↔ ∃ after, text = label ++ after ∧ atBoundary after = true := by
  simp only [beginsWithLabel, Bool.and_eq_true, List.isPrefixOf_iff_prefix]
  constructor
  · rintro ⟨⟨after, rfl⟩, h⟩
    exact ⟨after, rfl, by simpa using h⟩
  · rintro ⟨after, rfl, h⟩
    exact ⟨⟨after, rfl⟩, by simpa using h⟩

theorem labelOffset?_cons_blank {label : List Char} {c : Char} (free : Bool) (s : List Char)
    (hl : isToken label = true) (hc : isBlank c = true) :
    labelOffset? label free (c :: s) = (labelOffset? label true s).map (· + 1) := by
  have h : ¬ beginsWithLabel label (c :: s) = true := by
    rw [beginsWithLabel_iff]
    rintro ⟨after, h, -⟩
    have hb : atBoundary (label ++ after) = isBlank c := by rw [← h]; rfl
    rw [not_atBoundary_of_isToken hl, hc] at hb
    exact absurd hb (by decide)
  rw [labelOffset?, hc]
  simp [h]

theorem labelOffset?_blank_append {label b : List Char} (s : List Char) (hl : isToken label = true) (hb : Blank b) :
    labelOffset? label true (b ++ s) = (labelOffset? label true s).map (· + b.length) := by
  induction b with
  | nil => simp
  | cons c b ih =>
    rw [List.cons_append, labelOffset?_cons_blank true _ hl (hb c List.mem_cons_self),
      ih (fun d hd => hb d (List.mem_cons_of_mem c hd)), Option.map_map]
    rfl

/-- inside a token no label begins -/
theorem labelOffset?_inside {label t r : List Char} (hl : isToken label = true)
    (ht : ∀ c ∈ t, isBlank c = false) (hr : atBoundary r = true) :
    labelOffset? label false (t ++ r) = (labelOffset? label true r).map (· + t.length) := by
  induction t with
  | nil =>
    cases r with
    | nil =>
      have h : beginsWithLabel label [] = false := by
        cases label with
        | nil => exact absurd rfl (ne_nil_of_isToken hl)
        | cons c label => rfl
      simp [labelOffset?, h]
    | cons c r =>
      rw [List.nil_append, labelOffset?_cons_blank false r hl hr, labelOffset?_cons_blank true r hl hr, Option.map_map]
      rfl
  | cons c t ih =>
    rw [List.cons_append, labelOffset?, ht c List.mem_cons_self, ih (fun d hd => ht d (List.mem_cons_of_mem c hd))]
    simp [Option.map_map, Function.comp_def, Nat.add_assoc]

theorem labelOffset?_label_append {label r : List Char} (hr : atBoundary r = true) :
    labelOffset? label true (label ++ r) = some 0 := by
  have h : beginsWithLabel label (label ++ r) = true := beginsWithLabel_iff.2 ⟨r, rfl, hr⟩
  cases hs : label ++ r with
  | nil => rw [hs] at h; simp [labelOffset?, h]
  | cons c s => rw [hs] at h; simp [labelOffset?, h]

theorem labelOffset?_token_append {label t r : List Char} (hl : isToken label = true) (ht : isToken t = true)
    (hr : atBoundary r = true) (hne : t ≠ label) :
    labelOffset? label true (t ++ r) = (labelOffset? label true r).map (· + t.length) := by
  have h : ¬ beginsWithLabel label (t ++ r) = true := by
    rw [beginsWithLabel_iff]
    rintro ⟨after, h, ha⟩
    -- both sides begin with one token, so the two tokens are equal
    have hh := congrArg leadingToken h
    rw [leadingToken_append ht hr, leadingToken_append hl ha] at hh
    exact hne hh
  obtain ⟨hne', hs⟩ := isToken_iff.1 ht
  cases t with
  | nil => exact absurd rfl hne'
  | cons c t =>
    rw [List.cons_append] at h ⊢
    rw [labelOffset?, hs c List.mem_cons_self,
      labelOffset?_inside hl (fun d hd => hs d (List.mem_cons_of_mem c hd)) hr]
    simp [h, Option.map_map, Function.comp_def, Nat.add_assoc]

/-- **A label that is no token of the text is not found.** -/
theorem labelOffset?_eq_none_iff {label : List Char} (hl : isToken label = true) (s : List Char) :
    labelOffset? label true s = none ↔ label ∉ tokens s := by
  induction s using token_cases with
  | blank b hb =>
    have h : labelOffset? label true [] = none := by
      cases label with
      | nil => exact absurd rfl (ne_nil_of_isToken hl)
      | cons c label => rfl
    have hb' := labelOffset?_blank_append [] hl hb
    rw [List.append_nil, h] at hb'
    simp [hb', tokens_eq_nil_of_blank hb]
  | token b t r hb ht hr ih =>
    rw [labelOffset?_blank_append _ hl hb, tokens_blank_append _ hb, tokens_token_append ht hr]
    by_cases h : t = label
    · subst h
      simp [labelOffset?_label_append hr]
    · rw [labelOffset?_token_append hl ht hr h]
      simp [ih, Ne.symm h]

/-- **The token found is the first one that equals the label.** -/
theorem firstAt_of_labelOffset? {label : List Char} (hl : isToken label = true) {s : List Char} {k : Nat}
    (h : labelOffset? label true s = some k) : ∃ before after, FirstAt label s before after ∧ before.length = k := by
  induction s using token_cases generalizing k with
  | blank b hb =>
    have hn := (labelOffset?_eq_none_iff hl b).2 (by simp [tokens_eq_nil_of_blank hb])
    rw [hn] at h
    simp at h
  | token b t r hb ht hr ih =>
    rw [labelOffset?_blank_append _ hl hb] at h
    by_cases he : t = label
    · subst he
      rw [labelOffset?_label_append hr] at h
      refine ⟨b, r, ⟨rfl, ?_, hr, by simp [tokens_eq_nil_of_blank hb]⟩, by simpa using h⟩
      simpa using atBoundary_append_of_blank (s := []) (fun c hc => hb c (List.mem_reverse.1 hc)) rfl
    · rw [labelOffset?_token_append hl ht hr he] at h
      obtain ⟨j, hj, rfl⟩ : ∃ j, labelOffset? label true r = some j ∧ j + t.length + b.length = k := by
        cases hj : labelOffset? label true r with
        | none => simp [hj] at h
        | some j => exact ⟨j, rfl, by simpa [hj] using h⟩
      obtain ⟨before, after, hf, rfl⟩ := ih hj
      -- the rest goes on with a blank, so there is something before the label in it
      have hne : before ≠ [] := by
        rintro rfl
        have hs := hf.split
        rw [List.nil_append] at hs
        rw [hs, not_atBoundary_of_isToken hl] at hr
        exact absurd hr (by decide)
      have hbound : atBoundary before = true := by
        cases before with
        | nil => exact absurd rfl hne
        | cons c before => rw [hf.split] at hr; exact hr
      refine ⟨b ++ (t ++ before), after, ⟨?_, ?_, hf.stops, ?_⟩, by simp; omega⟩
      · rw [hf.split]; simp
      · rw [List.reverse_append, List.reverse_append]
        have hs := hf.starts
        cases hrev : before.reverse with
        | nil => exact absurd (List.reverse_eq_nil_iff.1 hrev) hne
        | cons c s => rw [hrev] at hs; exact hs
      · rw [tokens_blank_append _ hb, tokens_token_append ht hbound]
        simp [hf.first, Ne.symm he]

/-- the tokens of the text around a label -/
theorem FirstAt.tokens_eq {label text before after : List Char} (h : FirstAt label text before after)
    (hl : isToken label = true) : tokens text = tokens before ++ label :: tokens after := by
  rw [h.split, tokens_append_of_ends _ h.starts, tokens_token_append hl h.stops]

/-- the tokens before the first one that equals the label, and those after it -/
def around (label : List Char) (ts : List (List Char)) : List (List Char) × List (List Char) :=
  (ts.takeWhile (· != label), (ts.dropWhile (· != label)).tail)

theorem around_append {label : List Char} {a : List (List Char)} (b : List (List Char)) (ha : label ∉ a) :
    around label (a ++ label :: b) = (a, b) := by
  have hne : ∀ t ∈ a, (t != label) = true := by
    intro t ht
    simp only [bne_iff_ne, ne_eq]
    rintro rfl
    exact ha ht
  simp [around, List.takeWhile_append_of_pos hne, List.dropWhile_append_of_pos hne]

/-- a label that comes first has no tokens before it -/
theorem around_cons (label : List Char) (ts : List (List Char)) : around label (label :: ts) = ([], ts) :=
  around_append ts List.not_mem_nil

/-- the tokens around a label are those of the text without it -/
theorem around_eq_erase {label : List Char} {ts : List (List Char)} (h : label ∈ ts) :
    (around label ts).1 ++ (around label ts).2 = ts.erase label := by
  obtain ⟨a, b, ha, hts, herase⟩ := List.exists_erase_eq h
  rw [herase, hts, around_append b ha]

/-- a text is split at a label as its tokens are -/
theorem FirstAt.around_eq {label text before after : List Char} (h : FirstAt label text before after)
    (hl : isToken label = true) : around label (tokens text) = (tokens before, tokens after) := by
  rw [h.tokens_eq hl, around_append _ h.first]

/-- a token that is found for the first time is erased from the tokens -/
theorem FirstAt.tokens_around {label text before after : List Char} (h : FirstAt label text before after)
    (hl : isToken label = true) : tokens (before ++ after) = (tokens text).erase label := by
  have hmem : label ∈ tokens text := by
    rw [h.tokens_eq hl]
    exact List.mem_append_right _ List.mem_cons_self
  rw [← around_eq_erase hmem, h.around_eq hl, tokens_append_of_ends _ h.starts]

namespace Cursor

/-! ## Cutting out -/

theorem seek_natCast {c : Cursor} {n : Nat} (h : n ≤ c.line.length) : c.seek n = .ok { c with position := n } := by
  simp [seek, h]

/-- **Cutting a found text out leaves the cursor on its line.** -/
theorem removeAt_of_split {c : Cursor} {label before after : List Char} (h : c.line = before ++ (label ++ after)) :
    c.removeAt before.length label.length = (⟨before ++ after, before.length⟩, none) := by
  have hs : ∀ n : Nat, sliceIndex c.line.length n = n := fun n => by
    simp only [sliceIndex, if_neg (Int.not_lt.2 (Int.natCast_nonneg n)), Int.toNat_natCast]
  have hd : List.drop (before.length + label.length) (before ++ (label ++ after)) = after := by
    rw [← List.append_assoc, ← List.length_append]
    exact List.drop_left
  have hline : c.line.take (sliceIndex c.line.length before.length) ++
      c.line.drop (sliceIndex c.line.length (before.length + label.length : Nat)) = before ++ after := by
    rw [hs, hs, h, hd, List.take_left]
  have hseek : (⟨before ++ after, c.position⟩ : Cursor).seek before.length = .ok ⟨before ++ after, before.length⟩ :=
    seek_natCast (by simp)
  rw [Int.natCast_add] at hline
  simp only [removeAt, hline, hseek]

/-! ## Reading behind the cursor -/

theorem next_of_blank {c : Cursor} (h : Blank c.rest) : c.next = (none, c) := by
  have hs : skipBlanks c.rest = [] := List.dropWhile_eq_nil_iff.2 h
  simp [next, peek?, hs]

theorem next_of_token {c : Cursor} {b t r : List Char} (h : c.rest = b ++ (t ++ r)) (hb : Blank b)
    (ht : isToken t = true) (hr : atBoundary r = true) :
    c.next = (some t, ⟨c.line.take c.position ++ (b ++ r), c.position⟩) := by
  have hs : skipBlanks c.rest = t ++ r := by
    rw [h]
    exact skipBlanks_of_blank_append hb (not_atBoundary_of_isToken ht)
  have hlead : leadingBlanks c.rest = b := by
    have hh := leadingBlanks_append_skipBlanks c.rest
    rw [hs, h] at hh
    rw [h]
    exact List.append_cancel_right hh
  have hp : c.peek? = some t := by
    unfold peek?
    cases htr : t ++ r with
    | nil => exact absurd (List.append_eq_nil_iff.1 htr).1 (ne_nil_of_isToken ht)
    | cons d s =>
      have hl : leadingToken (d :: s) = t := by rw [← htr, leadingToken_append ht hr]
      simp [hs, htr, hl]
  simp [next, hp, withoutToken, hs, hlead, afterToken_append ht hr]

end Cursor

end LineGrammar
