/-
The lengths that a report lists.

For every vector that takes its length from a field, at any depth, a report has an entry under the name of the vector.
There is one entry for a name, and it holds the source of the last vector of that name. On one branch that is all there
is to say, for no branch has two vectors of one name. Two branches may have a vector of the same name each, with lengths
from different fields; then the report holds the second source, and the first is lost.
- `lookup_lengthDependencies_iff`: under a name stands the source of its last vector.
- `lookup_branch`: on a branch every source is kept.
- `report_keeps_last_source`: what a report on a definition holds, and when every source is kept.
- `source_overwritten`: two branches that share the name of a vector.
-/
import Mathlib.Data.List.Induction
import LineGrammar.Proofs.Built
import LineGrammar.Proofs.Verdict

namespace LineGrammar

/-- The last vector of that name whose length is taken from a field takes it from the source. -/
def LastSource (name : String) (source : Datum) (cs : List Component) : Prop :=
  ∃ done x rest, cs = done ++ x :: rest ∧ x.name = name ∧ x.lengthSource? = some source ∧
    ∀ y ∈ rest, y.name = name → y.lengthSource? = none

/-- Vectors of one name take their lengths from one source. -/
def OneSourceEach (cs : List Component) : Prop :=
  ∀ x ∈ cs, ∀ y ∈ cs, x.name = y.name → ∀ s t, x.lengthSource? = some s → y.lengthSource? = some t → s = t

/-! ## Pairs under a key -/

section

variable {α : Type} {key other : String} {pairs : List (String × α)}

theorem lookup_putPair_self (key : String) (value : α) (pairs : List (String × α)) :
    (putPair key value pairs).lookup key = some value := by
  induction pairs with
  | nil => simp [putPair]
  | cons p rest ih =>
    obtain ⟨k, v⟩ := p
    rw [putPair]
    split
    · rename_i hk
      simp [hk]
    · rename_i hk
      rw [List.lookup_cons, ih, beq_false_of_ne (Ne.symm hk)]

theorem lookup_putPair_of_ne (value : α) (h : other ≠ key) :
    (putPair key value pairs).lookup other = pairs.lookup other := by
  induction pairs with
  | nil => simp [putPair, h]
  | cons p rest ih =>
    obtain ⟨k, v⟩ := p
    rw [putPair]
    split
    · rename_i hk
      subst hk
      rw [List.lookup_cons, List.lookup_cons, beq_false_of_ne h]
    · rw [List.lookup_cons, List.lookup_cons, ih]

theorem mem_names_putPair {value : α} : other ∈ (putPair key value pairs).map Prod.fst →
    other = key ∨ other ∈ pairs.map Prod.fst := by
  induction pairs with
  | nil => simp [putPair]
  | cons p rest ih =>
    obtain ⟨k, v⟩ := p
    rw [putPair]
    split
    · exact Or.inr
    · intro h
      rcases List.mem_cons.1 h with rfl | h
      · exact Or.inr List.mem_cons_self
      · exact (ih h).imp_right (List.mem_cons_of_mem k)

/-- a pair that is put under its key leaves the keys distinct -/
theorem nodup_putPair (value : α) (h : (pairs.map Prod.fst).Nodup) :
    ((putPair key value pairs).map Prod.fst).Nodup := by
  induction pairs with
  | nil => simp [putPair]
  | cons p rest ih =>
    obtain ⟨k, v⟩ := p
    obtain ⟨hk, hrest⟩ := List.nodup_cons.1 h
    rw [putPair]
    split
    · exact List.nodup_cons.2 ⟨hk, hrest⟩
    · rename_i hne
      refine List.nodup_cons.2 ⟨fun hm => ?_, ih hrest⟩
      rcases mem_names_putPair hm with heq | hm
      · exact hne heq
      · exact hk hm

end

/-! ## The last source of a name -/

variable {cs : List Component} {name : String} {source : Datum}

/-- one component more decides on its own name, and on no other -/
theorem lastSource_concat {x : Component} : LastSource name source (cs ++ [x]) ↔
    (x.name = name ∧ x.lengthSource? = some source) ∨
      (LastSource name source cs ∧ (x.name = name → x.lengthSource? = none)) := by
  constructor
  · rintro ⟨done, y, rest, hsplit, hname, hsource, hlast⟩
    rcases List.eq_nil_or_concat rest with rfl | ⟨before, z, rfl⟩
    · obtain ⟨-, rfl⟩ := List.append_singleton_inj.1 hsplit
      exact Or.inl ⟨hname, hsource⟩
    · rw [List.concat_eq_append, ← List.cons_append, ← List.append_assoc] at hsplit
      obtain ⟨rfl, rfl⟩ := List.append_singleton_inj.1 hsplit
      rw [List.concat_eq_append] at hlast
      refine Or.inr ⟨⟨done, y, before, rfl, hname, hsource, fun w hw => ?_⟩, hlast x (by simp)⟩
      exact hlast w (List.mem_append_left _ hw)
  · rintro (⟨hname, hsource⟩ | ⟨⟨done, y, rest, rfl, hname, hsource, hlast⟩, hx⟩)
    · exact ⟨cs, x, [], rfl, hname, hsource, by simp⟩
    · refine ⟨done, y, rest ++ [x], by simp, hname, hsource, fun w hw => ?_⟩
      rcases List.mem_append.1 hw with hw | hw
      · exact hlast w hw
      · rw [List.mem_singleton.1 hw]
        exact hx

theorem exists_of_lastSource (h : LastSource name source cs) :
    ∃ x ∈ cs, x.name = name ∧ x.lengthSource? = some source := by
  obtain ⟨done, x, rest, rfl, hname, hsource, -⟩ := h
  exact ⟨x, List.mem_append_right _ List.mem_cons_self, hname, hsource⟩

/-- of the vectors of a name one is the last -/
theorem exists_lastSource {x : Component} (hx : x ∈ cs) (hs : x.lengthSource? = some source) :
    ∃ kept, LastSource x.name kept cs := by
  induction cs using List.reverseRecOn with
  | nil => cases hx
  | append_singleton cs y ih =>
    cases hy : y.lengthSource? with
    | some other =>
      by_cases hname : y.name = x.name
      · exact ⟨other, lastSource_concat.2 (Or.inl ⟨hname, hy⟩)⟩
      · have hbefore : x ∈ cs := by
          rcases List.mem_append.1 hx with hx | hx
          · exact hx
          · exact absurd (congrArg Component.name (List.mem_singleton.1 hx)).symm hname
        obtain ⟨kept, hkept⟩ := ih hbefore
        exact ⟨kept, lastSource_concat.2 (Or.inr ⟨hkept, fun h => absurd h hname⟩)⟩
    | none =>
      have hbefore : x ∈ cs := by
        rcases List.mem_append.1 hx with hx | hx
        · exact hx
        · rw [List.mem_singleton.1 hx, hy] at hs
          cases hs
      obtain ⟨kept, hkept⟩ := ih hbefore
      exact ⟨kept, lastSource_concat.2 (Or.inr ⟨hkept, fun _ => hy⟩)⟩

/-! ## What the report lists -/

theorem lengthDependencies_concat (cs : List Component) (x : Component) :
    lengthDependencies (cs ++ [x]) =
      match x.lengthSource? with
      | some source => putPair x.name source (lengthDependencies cs)
      | none => lengthDependencies cs := by
  rw [lengthDependencies, List.foldl_append]
  rfl

theorem nodup_lengthDependencies (cs : List Component) : ((lengthDependencies cs).map Prod.fst).Nodup := by
  induction cs using List.reverseRecOn with
  | nil => exact List.nodup_nil
  | append_singleton cs x ih =>
    rw [lengthDependencies_concat]
    split
    · exact nodup_putPair _ ih
    · exact ih

/-- **Under a name stands the source of the last vector of that name.** -/
theorem lookup_lengthDependencies_iff :
    (lengthDependencies cs).lookup name = some source ↔ LastSource name source cs := by
  induction cs using List.reverseRecOn with
  | nil =>
    refine iff_of_false (by simp [lengthDependencies]) ?_
    rintro ⟨done, x, rest, hsplit, -⟩
    simp at hsplit
  | append_singleton cs x ih =>
    rw [lengthDependencies_concat, lastSource_concat, ← ih]
    cases hx : x.lengthSource? with
    | none => simp
    | some other =>
      by_cases hname : x.name = name
      · subst hname
        simp [lookup_putPair_self]
      · simp [lookup_putPair_of_ne other (Ne.symm hname), hname]

/-- every source is kept exactly where vectors of one name have one source -/
theorem lookup_all_iff :
    (∀ x ∈ cs, ∀ source, x.lengthSource? = some source → (lengthDependencies cs).lookup x.name = some source) ↔
      OneSourceEach cs := by
  constructor
  · intro h x hx y hy hname s t hs ht
    have hkept := h x hx s hs
    rw [hname, h y hy t ht] at hkept
    exact (Option.some.inj hkept).symm
  · intro h x hx source hs
    obtain ⟨kept, hkept⟩ := exists_lastSource hx hs
    obtain ⟨y, hy, hname, ht⟩ := exists_of_lastSource hkept
    rw [lookup_lengthDependencies_iff, h x hx y hy hname.symm source kept hs ht]
    exact hkept

/-- **On a branch of a definition every source is kept,** for its vectors have distinct names. -/
theorem LineDefinition.oneSourceEach (d : LineDefinition) {b : List Component} (hb : b ∈ branchesOfAll d.components) :
    OneSourceEach b := by
  intro x hx y hy hname s t hs ht
  have hwrites : ∀ z : Component, ∀ u, z.lengthSource? = some u → z.writesKey = true := by
    intro z u hu
    cases z with
    | vector => rfl
    | _ => cases hu
  have hsame : x = y := List.inj_on_of_nodup_map (d.keysOf_nodup hb) (List.mem_filter.2 ⟨hx, hwrites x s hs⟩)
    (List.mem_filter.2 ⟨hy, hwrites y t ht⟩) hname
  rw [hsame, ht] at hs
  exact (Option.some.inj hs).symm

/-- **A report keeps one source for a name, the last.** Every vector with a length taken from a field has an entry under
its name, and what stands there is the source of the last vector of that name. So every source is kept exactly where
vectors of one name have one source; on a branch by itself that is always so. -/
theorem report_keeps_last_source (d : LineDefinition) :
    (d.report.dependencies.map Prod.fst).Nodup ∧
      (∀ name source, d.report.dependencies.lookup name = some source ↔
        LastSource name source (everyComponentOfAll d.components)) ∧
      (∀ x ∈ everyComponentOfAll d.components, x.lengthSource? ≠ none → d.report.dependencies.lookup x.name ≠ none) ∧
      ((∀ x ∈ everyComponentOfAll d.components, ∀ source, x.lengthSource? = some source →
        d.report.dependencies.lookup x.name = some source) ↔ OneSourceEach (everyComponentOfAll d.components)) ∧
      ∀ b ∈ branchesOfAll d.components, ∀ x ∈ b, ∀ source, x.lengthSource? = some source →
        (lengthDependencies b).lookup x.name = some source := by
  refine ⟨nodup_lengthDependencies _, fun name source => lookup_lengthDependencies_iff, ?_, lookup_all_iff,
    fun b hb => lookup_all_iff.2 (d.oneSourceEach hb)⟩
  intro x hx hs
  obtain ⟨source, hs⟩ := Option.ne_none_iff_exists'.1 hs
  obtain ⟨kept, hkept⟩ := exists_lastSource hx hs
  have hlookup : d.report.dependencies.lookup x.name = some kept := lookup_lengthDependencies_iff.2 hkept
  rw [hlookup]
  exact Option.some_ne_none kept

/-- two kinetic models with a vector of the same name, each with a count of its own -/
def sharedName : LineDefinition where
  sectionName := .text "DESIGN SSI MANIFOLD KINETICS SURF CONDITIONS"
  components :=
    [.switch Manifold.kineticModel (.int 1)
      [⟨Manifold.constantInterfaceResistance,
          [.scalar (Manifold.field "NUMDOF") (.number (.int 0)),
            .vector (Manifold.field "FLUX") (.takenFrom (.text "NUMDOF")) (.int 0)]⟩,
        ⟨Manifold.butlerVolmerReduced,
          [.scalar (Manifold.field "NUMSCAL") (.number (.int 0)),
            .vector (Manifold.field "FLUX") (.takenFrom (.text "NUMSCAL")) (.int 0)]⟩,
        ⟨Manifold.noInterfaceFlux, []⟩]]
  description := .text ""
  resolved := by decide
  written_once := by decide

/-- with the first model there are as many numbers as NUMDOF says; the report only tells of NUMSCAL -/
theorem source_overwritten :
    (∀ x ∈ sharedName.components, x.WellFormed) ∧
      sharedName.report.dependencies = [("FLUX", .text "NUMSCAL")] ∧
      ¬ ∀ x ∈ everyComponentOfAll sharedName.components, ∀ source, x.lengthSource? = some source →
        sharedName.report.dependencies.lookup x.name = some source := by
  have hreport : sharedName.report.dependencies = [("FLUX", .text "NUMSCAL")] := rfl
  refine ⟨?_, hreport, fun h => ?_⟩
  · intro x hx
    rw [List.mem_singleton.1 hx]
    refine .switch Manifold.kineticModel (.int 1) _ rfl ((Key.same_datum_iff (j := .int 1)).2 rfl) ?_
    simp only [List.forall_mem_cons]
    exact ⟨⟨.scalar .., .vector .., nofun⟩, ⟨.scalar .., .vector .., nofun⟩, nofun, nofun⟩
  · have hfirst := h (.vector (Manifold.field "FLUX") (.takenFrom (.text "NUMDOF")) (.int 0))
      (by simp [sharedName, everyComponentOfAll, everyComponent, everyComponentOfChoices]) (.text "NUMDOF") rfl
    rw [hreport] at hfirst
    simp [Component.name, Component.info, Manifold.field] at hfirst

end LineGrammar
