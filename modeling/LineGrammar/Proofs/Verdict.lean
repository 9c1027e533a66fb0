/-
What the checks of a definition say about its branches.

A definition holds two empty lists: of names that some branch writes twice, and of vectors whose length no integer
before them gives. Said of one branch: the names it writes are distinct, and a length taken from a field is taken from
an integer that the branch writes before.
- `mem_distinct`, `mem_sortedDistinct`: lists of names lose nothing.
- `keysOf_nodup`: every branch writes distinct names.
- `source_written_before`: every length is written before it is needed.
-/
import LineGrammar.Grammar.Definition

namespace LineGrammar

/-! ## Lists of names -/

theorem mem_addNew {names : List String} {name other : String} :
    other ∈ addNew names name ↔ other ∈ names ∨ other = name := by
  unfold addNew
  split
  · rename_i h
    constructor
    · exact Or.inl
    · rintro (h' | rfl)
      · exact h'
      · simpa using h
  · simp

theorem mem_foldl_addNew {names seen : List String} {name : String} :
    name ∈ names.foldl addNew seen ↔ name ∈ seen ∨ name ∈ names := by
  induction names generalizing seen with
  | nil => simp
  | cons n names ih => rw [List.foldl_cons, ih, mem_addNew, List.mem_cons, or_assoc]

theorem mem_distinct {names : List String} {name : String} : name ∈ distinct names ↔ name ∈ names := by
  simp [distinct, mem_foldl_addNew]

theorem mem_insertSorted {names : List String} {name other : String} :
    other ∈ insertSorted name names ↔ other = name ∨ other ∈ names := by
  induction names with
  | nil => simp [insertSorted]
  | cons n names ih =>
    rw [insertSorted]
    split
    · simp
    · rw [List.mem_cons, ih, List.mem_cons, or_left_comm]

theorem mem_sortedDistinct {names : List String} {name : String} : name ∈ sortedDistinct names ↔ name ∈ names := by
  have hsort : ∀ l : List String, name ∈ l.foldr insertSorted [] ↔ name ∈ l := by
    intro l
    induction l with
    | nil => simp
    | cons n l ih => rw [List.foldr_cons, mem_insertSorted, ih, List.mem_cons]
  rw [sortedDistinct, hsort, mem_distinct]

/-- no defect on the whole means no defect on any branch -/
theorem eq_nil_of_sortedDistinct {lines : List (List Component)} {defects : List Component → List String}
    (h : sortedDistinct (lines.flatMap defects) = []) {b : List Component} (hb : b ∈ lines) : defects b = [] := by
  refine List.eq_nil_iff_forall_not_mem.2 (fun name hn => ?_)
  have hm : name ∈ sortedDistinct (lines.flatMap defects) :=
    mem_sortedDistinct.2 (List.mem_flatMap.2 ⟨b, hb, hn⟩)
  rw [h] at hm
  simp at hm

/-! ## Names written twice -/

theorem keysOf_cons (x : Component) (b : List Component) :
    keysOf (x :: b) = if x.writesKey then x.name :: keysOf b else keysOf b := by
  unfold keysOf
  rw [List.filter_cons]
  split <;> rfl

theorem keysOf_append (a b : List Component) : keysOf (a ++ b) = keysOf a ++ keysOf b := by
  simp [keysOf]

theorem nodup_of_repeatedIn {written : List String} {b : List Component} (h : repeatedIn written b = []) :
    (keysOf b).Nodup ∧ ∀ name ∈ keysOf b, name ∉ written := by
  induction b generalizing written with
  | nil => simp [keysOf]
  | cons x b ih =>
    rw [repeatedIn] at h
    rw [keysOf_cons]
    split
    · rename_i hx
      rw [if_pos hx, List.append_eq_nil_iff] at h
      obtain ⟨hnodup, hnew⟩ := ih h.2
      have hfree : x.name ∉ written := by simpa using h.1
      refine ⟨List.nodup_cons.2 ⟨fun hm => hnew _ hm List.mem_cons_self, hnodup⟩, fun name hn => ?_⟩
      rcases List.mem_cons.1 hn with rfl | hn
      · exact hfree
      · exact fun hw => hnew name hn (List.mem_cons_of_mem _ hw)
    · rename_i hx
      rw [if_neg hx] at h
      exact ih h

/-- names that are new where they are written are not written twice -/
theorem repeatedIn_eq_nil {written : List String} {b : List Component}
    (h : ∀ done x rest, b = done ++ x :: rest → x.writesKey = true → x.name ∉ written ∧ x.name ∉ keysOf done) :
    repeatedIn written b = [] := by
  induction b generalizing written with
  | nil => rfl
  | cons x b ih =>
    by_cases hx : x.writesKey = true
    · have hnew : x.name ∉ written := (h [] x b rfl hx).1
      rw [repeatedIn, if_pos hx, ih]
      · simp [hnew]
      · rintro done y rest rfl hy
        obtain ⟨hold, hdone⟩ := h (x :: done) y rest rfl hy
        rw [keysOf_cons, if_pos hx, List.mem_cons, not_or] at hdone
        refine ⟨?_, hdone.2⟩
        rw [List.mem_cons, not_or]
        exact ⟨hdone.1, hold⟩
    · rw [repeatedIn, if_neg hx]
      refine ih ?_
      rintro done y rest rfl hy
      obtain ⟨hold, hdone⟩ := h (x :: done) y rest rfl hy
      rw [keysOf_cons, if_neg hx] at hdone
      exact ⟨hold, hdone⟩

/-! ## Lengths that nothing gives -/

/-- a length on the branch is among the integers so far, or written as an integer before it -/
theorem source_of_unresolvedIn {ints : List String} {done rest : List Component} {x : Component} {source : Datum}
    (h : unresolvedIn ints (done ++ x :: rest) = []) (hx : x.lengthSource? = some source) :
    ∃ name, source = .text name ∧ (name ∈ ints ∨ ∃ y ∈ done, y.writesInt = true ∧ y.name = name) := by
  induction done generalizing ints with
  | nil =>
    rw [List.nil_append, unresolvedIn, hx, List.append_eq_nil_iff] at h
    have hamong : isAmong ints source = true := by simpa using h.1
    cases source with
    | text name => exact ⟨name, rfl, Or.inl (by simpa [isAmong] using hamong)⟩
    | _ => simp [isAmong] at hamong
  | cons y done ih =>
    rw [List.cons_append, unresolvedIn, List.append_eq_nil_iff] at h
    obtain ⟨name, rfl, hname⟩ := ih h.2
    refine ⟨name, rfl, ?_⟩
    rcases hname with hname | ⟨z, hz, hint⟩
    · split at hname
      · rename_i hy
        rcases List.mem_cons.1 hname with rfl | hname
        · exact Or.inr ⟨y, List.mem_cons_self, hy, rfl⟩
        · exact Or.inl hname
      · exact Or.inl hname
    · exact Or.inr ⟨z, List.mem_cons_of_mem y hz, hint⟩

/-- lengths that are all among the integers so far or written as one before leave nothing unresolved -/
theorem unresolvedIn_eq_nil {ints : List String} {b : List Component}
    (h : ∀ done x rest, b = done ++ x :: rest → ∀ source, x.lengthSource? = some source →
      isAmong ints source = true ∨ ∃ y ∈ done, y.writesInt = true ∧ source = .text y.name) :
    unresolvedIn ints b = [] := by
  induction b generalizing ints with
  | nil => rfl
  | cons x b ih =>
    rw [unresolvedIn, List.append_eq_nil_iff]
    constructor
    · cases hs : x.lengthSource? with
      | none => rfl
      | some source =>
        rcases h [] x b rfl source hs with hamong | ⟨y, hy, -⟩
        · simp [hamong]
        · simp at hy
    · refine ih ?_
      rintro done y rest rfl source hs
      rcases h (x :: done) y rest rfl source hs with hamong | ⟨z, hz, hint, rfl⟩
      · left
        cases source with
        | text name =>
          have hm : name ∈ ints := by simpa [isAmong] using hamong
          split <;> simp [isAmong, hm]
        | _ => simp [isAmong] at hamong
      · rcases List.mem_cons.1 hz with rfl | hz
        · left
          simp [isAmong, hint]
        · exact Or.inr ⟨z, hz, hint, rfl⟩

namespace LineDefinition

/-- **Every branch of a definition writes distinct names.** -/
theorem keysOf_nodup (d : LineDefinition) {b : List Component} (hb : b ∈ branchesOfAll d.components) :
    (keysOf b).Nodup :=
  (nodup_of_repeatedIn (eq_nil_of_sortedDistinct d.written_once hb)).1

/-- **On every branch of a definition a length that is taken from a field is written before, as an integer.** -/
theorem source_written_before (d : LineDefinition) {done rest : List Component} {x : Component} {source : Datum}
    (hb : done ++ x :: rest ∈ branchesOfAll d.components) (hx : x.lengthSource? = some source) :
    ∃ y ∈ done, y.writesInt = true ∧ source = .text y.name := by
  obtain ⟨name, rfl, hname | ⟨y, hy, hint, rfl⟩⟩ :=
    source_of_unresolvedIn (eq_nil_of_sortedDistinct d.resolved hb) hx
  · simp at hname
  · exact ⟨y, hy, hint, rfl⟩

theorem mem_keys (d : LineDefinition) {b : List Component} (hb : b ∈ branchesOfAll d.components) {name : String}
    (h : name ∈ keysOf b) : name ∈ d.keys :=
  mem_distinct.2 (List.mem_flatMap.2 ⟨b, hb, h⟩)

end LineDefinition

end LineGrammar
