/-
Escaping the cells of a table.

Every character that would mean markup in a cell gets a backslash before it. This can be done in rounds, one for each
mark, every round going over all that the round before has left. The backslash comes first: its own round doubles the
backslashes of the text, and no later round touches them, so the rounds together are one pass over the characters
(`foldl_escapeMark`). Taking the backslashes away gives the text back. And what is escaped has an even number of
backslashes at its end wherever a character of the text begins, so a mark, with one backslash more before it, has an
odd number.
- `escapeCell_eq_rounds`: escaping in rounds.
- `unescape_escapeCell`: escaping a cell loses nothing.
- `exists_of_mark`: where a mark stands in an escaped cell.
- `cells_are_escaped`: what escaping comes to, for every text.
-/
import Mathlib.Algebra.Ring.Parity
import Mathlib.Data.List.DropRight
import LineGrammar.Manual.Text

namespace LineGrammar

/-! ## One pass -/

theorem escapeCell_cons (c : Char) (rest : List Char) :
    escapeCell (c :: rest) = (if isMarkup c then ['\\', c] else [c]) ++ escapeCell rest := by
  rw [escapeCell, List.flatMap_cons]
  rfl

theorem escapeCell_append (a b : List Char) : escapeCell (a ++ b) = escapeCell a ++ escapeCell b :=
  List.flatMap_append

/-- a character that stays as it is where it is no backslash -/
theorem unescape_cons {c : Char} (h : c ≠ '\\') (rest : List Char) : unescape (c :: rest) = c :: unescape rest := by
  rw [unescape]
  intro d ds hc
  exact absurd hc h

/-- **Taking the backslashes away gives the text of the cell back.** -/
theorem unescape_escapeCell (text : List Char) : unescape (escapeCell text) = text := by
  induction text with
  | nil => rfl
  | cons c rest ih =>
    rw [escapeCell_cons]
    split
    · rw [List.cons_append, List.cons_append, List.nil_append, unescape, ih]
    · rename_i hmark
      have hc : c ≠ '\\' := by
        rintro rfl
        exact hmark rfl
      rw [List.cons_append, List.nil_append, unescape_cons hc, ih]

/-- escaping puts no newline in and takes none out -/
theorem newline_mem_escapeCell {text : List Char} : '\n' ∈ escapeCell text ↔ '\n' ∈ text := by
  induction text with
  | nil => rfl
  | cons c rest ih =>
    rw [escapeCell_cons, List.mem_append, List.mem_cons, ih]
    split <;> simp

theorem toList_cellText (text : String) : (cellText text).toList = escapeCell text.toList :=
  String.toList_ofList

/-! ## Rounds -/

/-- the text with every occurrence of one mark replaced by a backslash and the mark -/
def escapeMark (mark : Char) (text : List Char) : List Char :=
  text.flatMap (fun c => if c = mark then ['\\', mark] else [c])

/-- the marks in the order of their rounds -/
def marks : List Char :=
  ['\\', '*', '\x60', '|']

theorem isMarkup_iff {c : Char} : isMarkup c = true ↔ c ∈ marks := by
  simp [isMarkup, marks, or_assoc]

/-- **Rounds are one pass over the characters,** if each mark has one round and none but the first is for the
backslash. -/
theorem foldl_escapeMark {ms : List Char} (hn : ms.Nodup) (hb : '\\' ∉ ms.tail) (text : List Char) :
    ms.foldl (fun t m => escapeMark m t) text = text.flatMap (fun c => if c ∈ ms then ['\\', c] else [c]) := by
  induction ms generalizing text with
  | nil => simp
  | cons m ms ih =>
    obtain ⟨hm, hms⟩ := List.nodup_cons.1 hn
    have hb' : '\\' ∉ ms := hb
    have htail : '\\' ∉ ms.tail := fun h => hb' (List.mem_of_mem_tail h)
    rw [List.foldl_cons, ih hms htail, escapeMark, List.flatMap_assoc]
    refine List.flatMap_congr fun c _ => ?_
    by_cases hc : c = m
    · -- what this round has put in is left alone by the others
      subst hc
      simp [hm, hb']
    · simp [hc]

/-- escaping a cell is a round for every mark, each on what the one before has left -/
theorem escapeCell_eq_rounds (text : List Char) :
    escapeCell text = marks.foldl (fun t m => escapeMark m t) text := by
  rw [foldl_escapeMark (by decide) (by decide), escapeCell]
  simp only [isMarkup_iff]

/-- with the backslash in the last round the backslashes of the other rounds are escaped too -/
example : unescape (escapeMark '\\' (escapeMark '*' ['*'])) = ['\\', '*'] := by decide

/-! ## Backslashes before a mark -/

/-- how many backslashes the text ends with -/
def backslashesAtEnd (text : List Char) : Nat :=
  (text.rtakeWhile (· == '\\')).length

theorem backslashesAtEnd_backslash (text : List Char) :
    backslashesAtEnd (text ++ ['\\']) = backslashesAtEnd text + 1 := by
  simp [backslashesAtEnd]

theorem backslashesAtEnd_other {c : Char} (h : c ≠ '\\') (text : List Char) :
    backslashesAtEnd (text ++ [c]) = 0 := by
  simp [backslashesAtEnd, h]

/-- **An escaped text ends with an even number of backslashes:** those at the end come in pairs. -/
theorem even_backslashesAtEnd (text : List Char) : Even (backslashesAtEnd (escapeCell text)) := by
  induction text using List.reverseRecOn with
  | nil => exact Even.zero
  | append_singleton text c ih =>
    rw [escapeCell_append, escapeCell_cons]
    by_cases hc : c = '\\'
    · subst hc
      have hpair : escapeCell text ++ (['\\', '\\'] ++ escapeCell []) = (escapeCell text ++ ['\\']) ++ ['\\'] := by
        simp [escapeCell]
      have hmark : isMarkup '\\' = true := rfl
      rw [if_pos hmark, hpair, backslashesAtEnd_backslash, backslashesAtEnd_backslash, add_assoc]
      exact ih.add even_two
    · -- whether it is a mark or not, the character itself comes last
      obtain ⟨front, hfront⟩ : ∃ front, escapeCell text ++ ((if isMarkup c then ['\\', c] else [c]) ++ escapeCell []) =
          front ++ [c] := by
        split
        · exact ⟨escapeCell text ++ ['\\'], by simp [escapeCell]⟩
        · exact ⟨escapeCell text, by simp [escapeCell]⟩
      rw [hfront, backslashesAtEnd_other hc]
      exact Even.zero

/-- **A mark in an escaped text is a mark of the text,** behind a backslash of its own. -/
theorem exists_of_mark {text before after : List Char} {mark : Char} (hm : isMarkup mark = true) (hne : mark ≠ '\\')
    (h : escapeCell text = before ++ mark :: after) :
    ∃ done rest, text = done ++ mark :: rest ∧ before = escapeCell done ++ ['\\'] ∧ after = escapeCell rest := by
  induction text generalizing before with
  | nil => simp [escapeCell] at h
  | cons c text ih =>
    rw [escapeCell_cons] at h
    by_cases hc : isMarkup c = true
    · rw [if_pos hc] at h
      rcases before with _ | ⟨b, _ | ⟨b', before⟩⟩
      · exact absurd (List.cons.inj h).1.symm hne
      · obtain ⟨rfl, hpair⟩ := List.cons.inj h
        obtain ⟨rfl, rfl⟩ := List.cons.inj hpair
        exact ⟨[], text, rfl, rfl, rfl⟩
      · obtain ⟨rfl, hpair⟩ := List.cons.inj h
        obtain ⟨rfl, hrest⟩ := List.cons.inj hpair
        obtain ⟨done, rest, rfl, rfl, rfl⟩ := ih hrest
        refine ⟨c :: done, rest, rfl, ?_, rfl⟩
        rw [escapeCell_cons, if_pos hc]
        rfl
    · rw [if_neg hc] at h
      rcases before with _ | ⟨b, before⟩
      · obtain ⟨rfl, -⟩ := List.cons.inj h
        exact absurd hm hc
      · obtain ⟨rfl, hrest⟩ := List.cons.inj h
        obtain ⟨done, rest, rfl, rfl, rfl⟩ := ih hrest
        refine ⟨c :: done, rest, rfl, ?_, rfl⟩
        rw [escapeCell_cons, if_neg hc]
        rfl

/-! ## What escaping comes to -/

/-- What a text and its escaped form have to do with each other. -/
structure EscapedAs (text escaped : List Char) : Prop where
  /-- one round of replacements for every mark, the backslash first -/
  rounds : escaped = marks.foldl (fun t m => escapeMark m t) text
  /-- read from the left, with every backslash dropped and the character after it kept, it is the text again -/
  reread : unescape escaped = text
  /-- before every other mark stands an odd number of backslashes -/
  marked : ∀ before mark after, escaped = before ++ mark :: after → mark ∈ ['*', '\x60', '|'] →
    Odd (backslashesAtEnd before)

/-- **Escaping a cell can be undone, and leaves no mark without its backslash.** So no two texts have one escaped
form. -/
theorem cells_are_escaped :
    (∀ text : String, EscapedAs text.toList (cellText text).toList) ∧ Function.Injective cellText := by
  have hescaped : ∀ text : String, EscapedAs text.toList (cellText text).toList := by
    intro text
    rw [toList_cellText]
    refine ⟨escapeCell_eq_rounds _, unescape_escapeCell _, fun before mark after hsplit hmark => ?_⟩
    have hm : isMarkup mark = true := isMarkup_iff.2 (List.mem_cons_of_mem _ hmark)
    have hne : mark ≠ '\\' := by
      rintro rfl
      exact absurd hmark (by decide)
    obtain ⟨done, rest, -, rfl, -⟩ := exists_of_mark hm hne hsplit
    rw [backslashesAtEnd_backslash]
    exact (even_backslashesAtEnd done).add_one
  refine ⟨hescaped, fun s t hst => ?_⟩
  have hs := (hescaped s).reread
  rw [hst, (hescaped t).reread] at hs
  exact String.toList_injective hs.symm

end LineGrammar
