/-
Whether a cursor stays on its line.

A cursor is meant to stand on its line or at one of its ends (`Inside`). Every operation on it is a `Move`, with
whatever arguments, and leaves a cursor behind even if it fails. One kind of move can put a cursor off its line: a cut
that begins before the line, its offset being counted from the end. No cursor can stand there, so this one stays where
it was; but the cut has been made by then, and the line may not reach so far any more (`Move.Strays`).
- `removeAt_inside_iff`: the cut, for every offset and every length.
- `step_inside_iff`: one move.
- `run_inside_iff`: a run of moves stays on the line as long as none of them strays.
- `run_off_line`: a run that does not.
-/
import Mathlib.Data.List.Basic
import LineGrammar.Cursor

namespace LineGrammar.Cursor

/-- the position lies on the line or at its end -/
def Inside (c : Cursor) : Prop :=
  c.position ≤ c.line.length

instance (c : Cursor) : Decidable c.Inside :=
  inferInstanceAs (Decidable (c.position ≤ c.line.length))

/-- What can be asked of a cursor. -/
inductive Move where
  | readToken
  | peekToken
  | findLabel (label : List Char)
  | hasLabel (label : List Char)
  | consumeLabel (label : List Char) (optional : Bool) (field context : Datum)
  | seekEnd
  | atEnd
  | removeAt (start length : Int)
  | seek (position : Int)

/-- the cursor after a move, whether the move goes well or fails -/
def step (c : Cursor) : Move → Cursor
  | .readToken => c.next.2
  | .peekToken | .findLabel _ | .hasLabel _ | .atEnd => c
  | .consumeLabel label optional field context => (c.consumeLabel label optional field context).1
  | .seekEnd => c.seekEnd
  | .removeAt start length => (c.removeAt start length).1
  | .seek position =>
    match c.seek position with
    | .ok moved => moved
    | .error _ => c

def run (c : Cursor) (ms : List Move) : Cursor :=
  ms.foldl step c

/-- a cut that begins before the line and leaves less of it than the cursor has behind it -/
def Move.Strays (c : Cursor) : Move → Prop
  | .removeAt start length => start < 0 ∧ (c.removeAt start length).1.line.length < c.position
  | _ => False

/-! ## One move -/

theorem next_inside {c : Cursor} (h : c.Inside) : c.next.2.Inside := by
  unfold next
  cases c.peek? with
  | none => exact h
  | some token =>
    have htake : (c.line.take c.position).length = c.position := List.length_take_of_le h
    simp only [withoutToken, Inside, List.length_append, htake]
    omega

/-- a cursor that is put somewhere is put on its line -/
theorem seek_inside {c moved : Cursor} {position : Int} (h : c.seek position = .ok moved) : moved.Inside := by
  unfold seek at h
  split at h
  · rename_i hin
    simp only [Bool.and_eq_true, decide_eq_true_eq] at hin
    rw [← Except.ok.inj h]
    show position.toNat ≤ c.line.length
    omega
  · cases h

/-- no cursor is put before the line -/
theorem removeAt_position_of_neg (c : Cursor) {start : Int} (hs : start < 0) (length : Int) :
    (c.removeAt start length).1.position = c.position := by
  simp [removeAt, seek, Int.not_le.2 hs]

theorem removeAt_inside_of_nonneg {c : Cursor} (h : c.Inside) {start : Int} (hs : 0 ≤ start) (length : Int) :
    (c.removeAt start length).1.Inside := by
  simp only [removeAt]
  split
  · rename_i moved hseek
    exact seek_inside hseek
  · rename_i fault hseek
    -- the cut begins behind the line, so it takes nothing of it
    simp only [seek, hs, decide_true, Bool.true_and, decide_eq_true_eq] at hseek
    split at hseek
    · cases hseek
    · rename_i hbehind
      have hinside : c.position ≤ c.line.length := h
      have hindex : sliceIndex c.line.length start = start.toNat := by simp [sliceIndex, Int.not_lt.2 hs]
      simp only [Inside, List.length_append, List.length_take, List.length_drop, hindex] at hbehind ⊢
      omega

/-- **A cut leaves the cursor on its line unless it begins before the line and takes too much.** -/
theorem removeAt_inside_iff {c : Cursor} (h : c.Inside) (start length : Int) :
    (c.removeAt start length).1.Inside ↔ ¬ Move.Strays c (.removeAt start length) := by
  by_cases hs : start < 0
  · have hposition := removeAt_position_of_neg c hs length
    simp only [Inside, Move.Strays, hposition, hs, true_and, Nat.not_lt]
  · exact iff_of_true (removeAt_inside_of_nonneg h (Int.not_lt.1 hs) length) (fun hstray => hs hstray.1)

/-- **One move leaves the cursor on its line unless it strays.** -/
theorem step_inside_iff {c : Cursor} (h : c.Inside) (m : Move) : (step c m).Inside ↔ ¬ m.Strays c := by
  cases m with
  | removeAt start length => exact removeAt_inside_iff h start length
  | readToken => exact iff_of_true (next_inside h) not_false
  | peekToken | findLabel | hasLabel | atEnd => exact iff_of_true h not_false
  | seekEnd => exact iff_of_true (Nat.le_refl c.line.length) not_false
  | seek position =>
    refine iff_of_true ?_ not_false
    simp only [step]
    cases hseek : c.seek position with
    | ok moved => exact seek_inside hseek
    | error fault => exact h
  | consumeLabel label optional field context =>
    refine iff_of_true ?_ not_false
    simp only [step, consumeLabel]
    split
    · rename_i start _
      -- a label is found at an offset from the beginning
      have hin : (c.removeAt start label.length).1.Inside :=
        removeAt_inside_of_nonneg h (Int.natCast_nonneg start) label.length
      split
      · rename_i after hcut
        rwa [hcut] at hin
      · rename_i after fault hcut
        rwa [hcut] at hin
    · cases optional with
      | true => exact Nat.le_refl c.line.length
      | false => exact h

/-! ## Runs of moves -/

/-- **A run stays on the line as long as none of its moves strays.** -/
theorem run_inside_iff_of_inside {c : Cursor} (h : c.Inside) (ms : List Move) :
    (∀ done rest, ms = done ++ rest → (run c done).Inside) ↔
      ∀ done m rest, ms = done ++ m :: rest → ¬ m.Strays (run c done) := by
  induction ms generalizing c with
  | nil =>
    refine iff_of_true ?_ (by simp)
    intro done rest hsplit
    rw [(List.append_eq_nil_iff.1 hsplit.symm).1]
    exact h
  | cons m ms ih =>
    constructor
    · intro hall
      have hstep : (step c m).Inside := hall [m] ms rfl
      intro done m' rest hsplit
      cases done with
      | nil =>
        obtain ⟨rfl, -⟩ := List.cons.inj hsplit
        exact (step_inside_iff h m).1 hstep
      | cons first done =>
        obtain ⟨rfl, htail⟩ := List.cons.inj hsplit
        refine (ih hstep).1 (fun done rest hsplit => ?_) done m' rest htail
        exact hall (m :: done) rest (by rw [hsplit]; rfl)
    · intro hall done rest hsplit
      cases done with
      | nil => exact h
      | cons first done =>
        obtain ⟨rfl, htail⟩ := List.cons.inj hsplit
        have hstep : (step c m).Inside := (step_inside_iff h m).2 (hall [] m ms rfl)
        refine (ih hstep).2 (fun done m' rest hsplit => ?_) done rest htail
        exact hall (m :: done) m' rest (by rw [hsplit]; rfl)

/-- **From the beginning of a line, a cursor is on the line after every move exactly if no move strays.** -/
theorem run_inside_iff (line : List Char) (ms : List Move) :
    (∀ done rest, ms = done ++ rest → (run (.ofLine line) done).Inside) ↔
      ∀ done m rest, ms = done ++ m :: rest → ¬ m.Strays (run (.ofLine line) done) :=
  run_inside_iff_of_inside (c := .ofLine line) (Nat.zero_le line.length) ms

/-- A cut that begins before the line puts a cursor off it: of three characters two go, and the cursor stays behind the
third. -/
theorem run_off_line : ¬ ∀ line ms, (run (.ofLine line) ms).Inside := by
  intro h
  exact absurd (h "abc".toList [.seekEnd, .removeAt (-3) 2]) (by decide)

end LineGrammar.Cursor
