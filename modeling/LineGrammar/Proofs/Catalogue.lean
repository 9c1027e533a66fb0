/-
Catalogues that are saved and loaded again.

Saving encodes every definition before it opens the file. One component without a form as data, at any depth of any
definition, and the file stays as it was. What a catalogue is saved as is loaded as the same definitions in the same
order, unless two of them have one section: loading stops at the first definition whose section was there before.
Saving does not look for such a one, so a catalogue may be saved that is not loaded.

How data are kept in a file is left to a format. That it keeps the data of the catalogue in question, so that what is
written is read back, is taken as given here (`FileFormat.Keeps`).
- `errorOf_encode`: what stands in the way of saving is the first component without a form as data.
- `decodeFrom_append`: loading goes through definitions whose sections are distinct.
- `distinct_or_firstRepeated`: the sections are distinct, or there is a first one that was there before.
- `saved_and_loaded`: the file after saving, and the definitions or the error of loading.
-/
import LineGrammar.Document.Catalogue
import LineGrammar.Proofs.Encoded
import LineGrammar.Proofs.Spelled
import Mathlib.Data.List.Induction

namespace LineGrammar

/-- the data can be written, and what is written is read as the data -/
def FileFormat.Keeps (format : FileFormat) (data : Datum) : Prop :=
  ∃ text, format.write data = .ok text ∧ format.read text = .ok data

namespace Catalogue

variable {format : FileFormat} {definitions before : List LineDefinition} {items : List Datum}

/-! ## Saving -/

theorem errorOf_mapM {α β ε : Type} (f : α → Except ε β) (xs : List α) :
    errorOf (xs.mapM f) = xs.findSome? (fun x => errorOf (f x)) := by
  induction xs with
  | nil => rfl
  | cons x xs ih =>
    rw [List.mapM_cons, errorOf_both, ih, List.findSome?_cons]
    cases errorOf (f x) <;> rfl

/-- **A catalogue is written down unless a component of some definition refuses; the first that does decides.** -/
theorem errorOf_encode (definitions : List LineDefinition) : errorOf (encode definitions) =
    definitions.findSome? (fun d => (everyComponentOfAll d.components).findSome? Component.refusal?) := by
  have hdefinition : ∀ d : LineDefinition,
      errorOf d.encode = (everyComponentOfAll d.components).findSome? Component.refusal? := by
    intro d
    rw [LineDefinition.encode, errorOf_map, Component.refusal_encode.2.2]
  rw [encode, errorOf_map, errorOf_mapM]
  simp only [hdefinition]

/-- what is not encoded is not saved either -/
theorem save_of_error {e : EncodeError} (h : errorOf (encode definitions) = some e) (format : FileFormat)
    (content : Option String) : save format definitions content = ⟨content, some e⟩ := by
  cases hencoded : encode definitions with
  | ok data =>
    rw [hencoded] at h
    cases h
  | error other =>
    rw [hencoded] at h
    cases h
    rw [save, hencoded]

/-! ## Loading -/

/-- the data are decoded to the definitions, one by one -/
def Decodes (items : List Datum) (definitions : List LineDefinition) : Prop :=
  List.Forall₂ (fun item d => LineDefinition.decode item = .ok d) items definitions

/-- Every section can be looked for. -/
def Hashable (definitions : List LineDefinition) : Prop :=
  ∀ d ∈ definitions, d.sectionName.hashable = true

/-- No two definitions have one section. -/
def Distinct (definitions : List LineDefinition) : Prop :=
  definitions.Pairwise (fun known d => known.sectionName.same d.sectionName = false)

/-- The section of the definition was there before it, and none before it was. -/
def FirstRepeated (definitions : List LineDefinition) (d : LineDefinition) : Prop :=
  ∃ before after, definitions = before ++ d :: after ∧ Distinct before ∧
    ∃ known ∈ before, known.sectionName.same d.sectionName = true

/-- **Either the sections are distinct, or there is a first one that was there before.** -/
theorem distinct_or_firstRepeated (definitions : List LineDefinition) :
    Distinct definitions ∨ ∃ d, FirstRepeated definitions d := by
  induction definitions using List.reverseRecOn with
  | nil => exact .inl .nil
  | append_singleton before d ih =>
    rcases ih with hdistinct | ⟨first, front, after, rfl, hfront, hknown⟩
    · by_cases hd : ∃ known ∈ before, known.sectionName.same d.sectionName = true
      · exact .inr ⟨d, before, [], rfl, hdistinct, hd⟩
      · refine .inl (List.pairwise_append.2 ⟨hdistinct, List.pairwise_singleton _ d, fun known hk other hother => ?_⟩)
        rw [List.mem_singleton.1 hother]
        exact Bool.eq_false_iff.2 fun hsame => hd ⟨known, hk, hsame⟩
    · exact .inr ⟨first, front, after ++ [d], by simp, hfront, hknown⟩

theorem decodeFrom_cons {item : Datum} {d : LineDefinition} (hd : LineDefinition.decode item = .ok d)
    (hhash : d.sectionName.hashable = true) (path : String) (known : List LineDefinition) (rest : List Datum) :
    decodeFrom path known (item :: rest) =
      if known.any (fun k => k.sectionName.same d.sectionName) then .error (.repeatedSection d.sectionName path)
      else decodeFrom path (known ++ [d]) rest := by
  rw [decodeFrom, hd]
  simp [hhash]

/-- **Loading goes through definitions as long as their sections are distinct,** and knows them from there on. -/
theorem decodeFrom_append (known : List LineDefinition) (h : Decodes items before) (hhash : Hashable before)
    (hdistinct : Distinct (known ++ before)) (path : String) (rest : List Datum) :
    decodeFrom path known (items ++ rest) = decodeFrom path (known ++ before) rest := by
  induction h generalizing known with
  | nil => simp
  | @cons item d items before hd _ ih =>
    obtain ⟨hd', hbefore⟩ := List.forall_mem_cons.1 hhash
    have hnew : known.any (fun k => k.sectionName.same d.sectionName) = false := by
      rw [List.any_eq_false]
      intro k hk
      rw [(List.pairwise_append.1 hdistinct).2.2 k hk d List.mem_cons_self]
      exact Bool.false_ne_true
    rw [List.append_cons known] at hdistinct ⊢
    rw [List.cons_append, decodeFrom_cons hd hd', hnew]
    exact ih _ hbefore hdistinct

theorem decodeFrom_distinct (h : Decodes items definitions) (hhash : Hashable definitions)
    (hdistinct : Distinct definitions) (path : String) : decodeFrom path [] items = .ok definitions := by
  have hall := decodeFrom_append [] h hhash hdistinct path []
  rwa [List.append_nil] at hall

theorem decodeFrom_firstRepeated (h : Decodes items definitions) (hhash : Hashable definitions) {d : LineDefinition}
    (hd : FirstRepeated definitions d) (path : String) :
    decodeFrom path [] items = .error (.repeatedSection d.sectionName path) := by
  obtain ⟨before, after, rfl, hdistinct, hknown⟩ := hd
  -- the items are cut where the definitions are
  have hfront := List.forall₂_take_append items before (d :: after) h
  have hback := List.forall₂_drop_append items before (d :: after) h
  obtain ⟨item, rest, hitem, -, hdrop⟩ := List.forall₂_cons_right_iff.1 hback
  obtain ⟨hbefore, hrest⟩ := List.forall_mem_append.1 hhash
  rw [← List.take_append_drop before.length items, decodeFrom_append [] hfront hbefore hdistinct, hdrop,
    List.nil_append, decodeFrom_cons hitem (hrest d List.mem_cons_self), if_pos (List.any_eq_true.2 hknown)]

/-! ## Loading what was saved -/

/-- what definitions are saved as is decoded to them -/
theorem decodes_of_encode (hw : ∀ d ∈ definitions, ∀ x ∈ d.components, x.WellFormed)
    (h : definitions.mapM LineDefinition.encode = .ok items) : Decodes items definitions := by
  have hencoded := forall₂_of_mapM h
  clear h
  induction hencoded with
  | nil => exact .nil
  | @cons d item definitions items hd _ ih =>
    obtain ⟨hw, hws⟩ := List.forall_mem_cons.1 hw
    exact .cons (d.decode_of_encode hw item hd) (ih hws)

theorem encode_eq_ok_iff {data : Datum} : encode definitions = .ok data ↔
    ∃ items, definitions.mapM LineDefinition.encode = .ok items ∧ data = .record [("definitions", .list items)] := by
  rw [encode]
  cases definitions.mapM LineDefinition.encode with
  | error e => simp [bind, Except.bind]
  | ok items => simp [bind, Except.bind, pure, Except.pure, eq_comm]

/-- **A catalogue is saved as a whole or not at all, and loaded as it was saved unless a section comes twice.** If a
component of some definition has no form as data, the error is about the first one, and the file keeps its content.
Otherwise the file is written. If the sections are distinct, it is loaded as the same definitions in the same order; if
they are not, the error names the first section that was there before. -/
theorem saved_and_loaded (hw : ∀ d ∈ definitions, ∀ x ∈ d.components, x.WellFormed) (hhash : Hashable definitions)
    (hformat : ∀ data, encode definitions = .ok data → format.Keeps data)
    (content : Option String) (path : String) :
    ((∃ d ∈ definitions, ∃ x ∈ everyComponentOfAll d.components, x.standard = false) →
      ∃ e, definitions.findSome? (fun d => (everyComponentOfAll d.components).findSome? Component.refusal?) = some e ∧
        save format definitions content = ⟨content, some e⟩) ∧
    ((∀ d ∈ definitions, ∀ x ∈ everyComponentOfAll d.components, x.standard = true) →
      ∃ text, save format definitions content = ⟨some text, none⟩ ∧
        (Distinct definitions → load format path text = .ok definitions) ∧
        (¬ Distinct definitions → ∃ d, FirstRepeated definitions d ∧
          load format path text = .error (.repeatedSection d.sectionName path))) := by
  constructor
  · rintro ⟨d, hd, x, hx, hstandard⟩
    cases hrefusal : errorOf (encode definitions) with
    | some e => exact ⟨e, by rw [← errorOf_encode, hrefusal], save_of_error hrefusal format content⟩
    | none =>
      rw [errorOf_encode, List.findSome?_eq_none_iff] at hrefusal
      have hnone := List.findSome?_eq_none_iff.1 (hrefusal d hd) x hx
      rw [Component.refusal?_eq_none_iff.1 hnone] at hstandard
      cases hstandard
  · intro hstandard
    have hencoded : ∃ data, encode definitions = .ok data := by
      rw [← errorOf_eq_none_iff, errorOf_encode, List.findSome?_eq_none_iff]
      intro d hd
      rw [List.findSome?_eq_none_iff]
      exact fun x hx => Component.refusal?_eq_none_iff.2 (hstandard d hd x hx)
    obtain ⟨data, hdata⟩ := hencoded
    obtain ⟨items, hitems, hrecord⟩ := encode_eq_ok_iff.1 hdata
    have hdecodes := decodes_of_encode hw hitems
    obtain ⟨text, hwrite, hread⟩ := hformat data hdata
    have hload : load format path text = decodeFrom path [] items := by
      rw [load, hread, hrecord]
      rfl
    have hsave : save format definitions content = ⟨some text, none⟩ := by
      rw [save, hdata]
      simp only [hwrite]
    refine ⟨text, hsave, fun hdistinct => ?_, fun hrepeated => ?_⟩
    · rw [hload, decodeFrom_distinct hdecodes hhash hdistinct]
    · obtain ⟨d, hd⟩ := (distinct_or_firstRepeated definitions).resolve_left hrepeated
      exact ⟨d, hd, by rw [hload, decodeFrom_firstRepeated hdecodes hhash hd]⟩

/-- a section of its own, with nothing on its lines -/
def emptySection (sectionName : String) : LineDefinition where
  sectionName := .text sectionName
  components := []
  description := .text ""
  resolved := rfl
  written_once := rfl

/-- a section whose lines hold a count -/
def countSection : LineDefinition where
  sectionName := .text "COUNT"
  components := [.scalar (Manifold.field "NUMDOF") (.number (.int 0))]
  description := .text ""
  resolved := rfl
  written_once := rfl

/-- a section whose lines hold a token that is handed on -/
def handedSection : LineDefinition where
  sectionName := .text "HANDED"
  components := [.processed (Manifold.field "P") (fun _ _ => ([], none))]
  description := .text ""
  resolved := rfl
  written_once := rfl

/-- whether the catalogue, if there is one, can be written as YAML and spells out its data -/
def spellsOut (definitions : List LineDefinition) : Bool :=
  match encode definitions with
  | .ok data => data.showable && Yaml.spellsOut (Yaml.write data).toList data
  | .error _ => true

/-- YAML keeps what is spelled out -/
theorem keeps_of_spellsOut (h : spellsOut definitions = true) {data : Datum} (hdata : encode definitions = .ok data) :
    FileFormat.yaml.Keeps data := by
  rw [spellsOut, hdata] at h
  obtain ⟨hshow, hspells⟩ := Bool.and_eq_true_iff.1 h
  refine ⟨Yaml.write data, if_pos hshow, ?_⟩
  exact congrArg (Except.mapError TextError.yaml) (Yaml.read_of_spellsOut hspells)

/-- two sections that are loaded again, one that comes twice, and a token that is handed on behind another section -/
theorem saved_and_loaded_counts :
    (∃ text, save .yaml [countSection, emptySection "NONE"] none = ⟨some text, none⟩ ∧
      load .yaml "counts.yaml" text = .ok [countSection, emptySection "NONE"]) ∧
    (∃ text, save .yaml [emptySection "NONE", emptySection "NONE"] none = ⟨some text, none⟩ ∧
      load .yaml "counts.yaml" text = .error (.repeatedSection (.text "NONE") "counts.yaml")) ∧
    ∃ e, save .yaml [countSection, handedSection] (some "definitions: []") = ⟨some "definitions: []", some e⟩ := by
  have hcount : ∀ x ∈ countSection.components, x.WellFormed := Manifold.wellFormed_of_plain_fields rfl
  have hhanded : ∀ x ∈ handedSection.components, x.WellFormed := Manifold.wellFormed_of_plain_fields rfl
  refine ⟨?_, ?_, ?_⟩
  · have hread : spellsOut [countSection, emptySection "NONE"] = true := by decide +kernel
    have hstandard : ∀ x ∈ everyComponentOfAll countSection.components, x.standard = true := by decide
    obtain ⟨-, hsaved⟩ := saved_and_loaded (List.forall_mem_cons.2 ⟨hcount, by simp [emptySection]⟩)
      (by simp [Hashable, countSection, emptySection, Datum.hashable]) (fun _ => keeps_of_spellsOut hread) none
      "counts.yaml"
    obtain ⟨text, hsave, hload, -⟩ := hsaved
      (List.forall_mem_cons.2 ⟨hstandard, by simp [emptySection, everyComponentOfAll]⟩)
    exact ⟨text, hsave, hload (by simp [Distinct, countSection, emptySection, Datum.same])⟩
  · have hread : spellsOut [emptySection "NONE", emptySection "NONE"] = true := by decide +kernel
    obtain ⟨-, hsaved⟩ := saved_and_loaded (by simp [emptySection])
      (by simp [Hashable, emptySection, Datum.hashable]) (fun _ => keeps_of_spellsOut hread) none "counts.yaml"
    obtain ⟨text, hsave, -, hload⟩ := hsaved (by simp [emptySection, everyComponentOfAll])
    obtain ⟨d, ⟨before, after, hcut, -⟩, hrefused⟩ := hload (by simp [Distinct, emptySection, Datum.same])
    have hname : d = emptySection "NONE" := by
      have hd : d ∈ [emptySection "NONE", emptySection "NONE"] := hcut ▸ by simp
      simpa using hd
    rw [hname] at hrefused
    exact ⟨text, hsave, hrefused⟩
  · have hread : spellsOut [countSection, handedSection] = true := rfl
    obtain ⟨hkept, -⟩ := saved_and_loaded (List.forall_mem_cons.2 ⟨hcount, List.forall_mem_singleton.2 hhanded⟩)
      (by simp [Hashable, countSection, handedSection, Datum.hashable]) (fun _ => keeps_of_spellsOut hread)
      (some "definitions: []") "counts.yaml"
    obtain ⟨e, -, hsave⟩ := hkept ⟨handedSection, by simp, _, List.mem_cons_self, rfl⟩
    exact ⟨e, hsave⟩

end Catalogue

end LineGrammar
