/-
When errors can be worded.

An error is made with its message. It is of the class of its cause if all that the message shows can be written, and else
an error of the runtime. Texts can always be written; of the other data only integers have a limit.
- `errorClass_cases`: the two classes.
- `IsOf`: the classes an error may have, and the data that stand in its way.
-/
import LineGrammar.Grammar.Obstacle

namespace LineGrammar

namespace Datum

theorem showableItems_iff {items : List Datum} : showableItems items = true ↔ ∀ d ∈ items, d.showable = true := by
  induction items with
  | nil => simp [showableItems]
  | cons d items ih => rw [showableItems, Bool.and_eq_true, ih, List.forall_mem_cons]

@[simp] theorem showable_text (s : String) : (text s).showable = true := by
  simp [showable]

theorem showable_int (n : Int) : (int n).showable = isWritable n := by
  simp [showable]

/-- what is written of a datum is what is shown of it, if it can be shown -/
theorem written_eq_ok_iff {d : Datum} {text : String} : d.written = .ok text ↔ d.showable = true ∧ text = d.shown := by
  unfold written
  split
  · rename_i h
    simp [h, eq_comm]
  · rename_i h
    simp [h]

end Datum

/-- a number as a datum can be shown exactly if it is legible -/
theorem Number.showable_datum (n : Number) : n.datum.showable = n.legible := by
  cases n <;> simp [datum, Datum.showable, legible]

namespace ReadError

variable {e : ReadError} {classes : List ErrorClass} {shown : List Datum}

theorem errorClass_of_isWritable (h : e.isWritable = true) : e.errorClass = e.causeClass :=
  if_pos h

/-- **An error is of the class of its cause, or tells no more than that a value is unfit.** -/
theorem errorClass_cases (e : ReadError) :
    e.isWritable = true ∧ e.errorClass = e.causeClass ∨ e.isWritable = false ∧ e.errorClass = .runtime .value := by
  cases h : e.isWritable with
  | true => exact Or.inl ⟨rfl, errorClass_of_isWritable h⟩
  | false => exact Or.inr ⟨rfl, if_neg (by rw [h]; exact Bool.false_ne_true)⟩

/-- the cause of an error about the line is one of the line -/
theorem aboutLine_causeClass (h : e.aboutLine = true) : e.causeClass.aboutLine = true := by
  rcases e.errorClass_cases with ⟨-, hclass⟩ | ⟨-, hclass⟩ <;> rw [aboutLine, hclass] at h
  · exact h
  · cases h

/-- the error of a length taken from a text, in a section that can be shown: whether the count can be shown decides -/
theorem errorClass_negativeLength {context : Datum} (h : context.showable = true) (name : String) (n : Int)
    (info : Info) : (negativeLength (.text name) context n info.label).errorClass =
      if LineGrammar.isWritable n then .malformedNumber else .runtime .value := by
  have hwritable : (negativeLength (.text name) context n info.label).isWritable = LineGrammar.isWritable n := by
    simp [isWritable, shownData, Datum.showableItems, Datum.showable_int, Info.label, h]
  rw [errorClass, hwritable]
  rfl

/-- The cause of the error is of one of the classes, and so is the error itself if the data can be shown. -/
structure IsOf (e : ReadError) (classes : List ErrorClass) (shown : List Datum) : Prop where
  cause : e.causeClass ∈ classes
  made : (∀ d ∈ shown, d.showable = true) → e.errorClass ∈ classes

/-- besides texts the message shows some of the data and no others -/
theorem isOf_of_shownData (h : e.causeClass ∈ classes) (hshown : ∀ d ∈ e.shownData, d ∈ shown ∨ ∃ s, d = .text s) :
    e.IsOf classes shown := by
  refine ⟨h, fun hall => ?_⟩
  rw [errorClass_of_isWritable]
  · exact h
  · refine Datum.showableItems_iff.2 fun d hd => ?_
    rcases hshown d hd with hd | ⟨s, rfl⟩
    · exact hall d hd
    · exact Datum.showable_text s

theorem IsOf.mono {wider : List ErrorClass} {more : List Datum} (h : e.IsOf classes shown) (hclasses : classes ⊆ wider)
    (hshown : shown ⊆ more) : e.IsOf wider more :=
  ⟨hclasses h.cause, fun hall => hclasses (h.made fun d hd => hall d (hshown hd))⟩

end ReadError

end LineGrammar
