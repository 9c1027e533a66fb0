/-
YAML texts that spell out their data.

Where a text has no anchor, no merge key and no key twice, its data are what is written, place by place. Whether a text
spells out given data so can be found out by going through both at once; then it is read as these data.
- `settle_of_new`: entries with distinct texts for keys are all kept, in their order.
- `spells_sound`: what a tree spells out is what it stands for.
- `read_of_spellsOut`: what a text spells out is what it is read as.
-/
import LineGrammar.Yaml.Reader

namespace LineGrammar

namespace Yaml

namespace Tree

mutual

/-- whether a tree spells out the datum -/
def spells : Tree → Datum → Bool
  | .scalar .text _ text, .text s => String.ofList text == s
  | .scalar .bool _ text, .bool b => (readFlag text).toOption == some b
  | .scalar .int _ text, .int n => (readInt text).toOption == some n
  | .scalar .real own text, .real x => (readReal own text).toOption == some x
  | .list .list items, .list data => spellsItems items data
  | .map .map entries, .map data => spellsEntries entries [] data
  | _, _ => false

def spellsItems : List Tree → List Datum → Bool
  | [], [] => true
  | t :: rest, d :: others => spells t d && spellsItems rest others
  | _, _ => false

/-- whether entries spell out the data, and their keys are new among those that are known -/
def spellsEntries : List (Tree × Tree) → List String → List (Datum × Datum) → Bool
  | [], _, [] => true
  | (.scalar .text _ text, t) :: rest, known, (.text key, d) :: others =>
    String.ofList text == key && !known.contains key && spells t d && spellsEntries rest (key :: known) others
  | _, _, _ => false

end

end Tree

/-- whether a text spells out the datum -/
def spellsOut (text : List Char) (d : Datum) : Bool :=
  match treeOf (lexemes text) with
  | .ok (some t) => (t.check ((lexemes text).length + 2)).isOk && t.spells d
  | _ => false

end Yaml

namespace Yaml.Tree

/-! ## Entries that are all kept -/

/-- The keys of the entries are texts that are distinct, and new among those that are known. -/
def NewKeys : List String → List (Datum × Datum) → Prop
  | _, [] => True
  | known, (key, _) :: rest => ∃ s, key = .text s ∧ s ∉ known ∧ NewKeys (s :: known) rest

/-- an entry goes behind others of which none has its key -/
theorem putEntry_of_new {s : String} (value : Datum) {entries : List (Datum × Datum)}
    (h : ∀ e ∈ entries, ∃ other, e.1 = .text other ∧ other ≠ s) :
    Datum.putEntry (.text s) value entries = entries ++ [(.text s, value)] := by
  induction entries with
  | nil => rfl
  | cons e rest ih =>
    obtain ⟨⟨other, hother, hne⟩, hrest⟩ := List.forall_mem_cons.1 h
    obtain ⟨key, d⟩ := e
    cases hother
    have hsame : Datum.same (.text other) (.text s) = false := by simpa [Datum.same] using hne
    rw [Datum.putEntry, hsame, ih hrest]
    rfl

theorem foldl_putEntry_of_new (known : List String) {before entries : List (Datum × Datum)}
    (hbefore : ∀ e ∈ before, ∃ s ∈ known, e.1 = .text s) (h : NewKeys known entries) :
    entries.foldl (fun all e => Datum.putEntry e.1 e.2 all) before = before ++ entries := by
  induction entries generalizing known before with
  | nil => simp
  | cons e rest ih =>
    obtain ⟨key, d⟩ := e
    obtain ⟨s, rfl, hs, hrest⟩ := h
    have hput : Datum.putEntry (.text s) d before = before ++ [(.text s, d)] := by
      refine putEntry_of_new d fun e he => ?_
      obtain ⟨other, hother, hkey⟩ := hbefore e he
      exact ⟨other, hkey, fun heq => hs (heq ▸ hother)⟩
    rw [List.foldl_cons, hput, ih (s :: known) ?_ hrest, List.append_assoc, List.singleton_append]
    intro e he
    rcases List.mem_append.1 he with he | he
    · obtain ⟨other, hother, hkey⟩ := hbefore e he
      exact ⟨other, List.mem_cons_of_mem s hother, hkey⟩
    · rw [List.mem_singleton.1 he]
      exact ⟨s, List.mem_cons_self, rfl⟩

/-- **Entries with distinct texts for keys are all kept, in their order.** -/
theorem settle_of_new {entries : List (Datum × Datum)} (h : NewKeys [] entries) : settle entries = entries := by
  rw [settle, foldl_putEntry_of_new [] (by simp) h, List.nil_append]

/-! ## What is spelled out -/

theorem datum_scalar {kind : Kind} {own : Nat} {text : List Char} {d : Datum}
    (h : readScalar kind own text = .ok d) (around : Surroundings) : datum (.scalar kind own text) around = d := by
  rw [datum, h]
  rfl

theorem map_eq_ok {α : Type} [DecidableEq α] {result : Except Fault α} {a : α} (f : α → Datum)
    (h : (result.toOption == some a) = true) : result.map f = .ok (f a) := by
  cases result with
  | error e => cases h
  | ok b =>
    obtain rfl : b = a := by simpa [Except.toOption] using h
    rfl

/-- **What a tree spells out is what it stands for,** wherever it stands. -/
theorem spells_sound :
    (∀ t d, spells t d = true → ∀ around, datum t around = d) ∧
    (∀ entries known ds, spellsEntries entries known ds = true →
      NewKeys known ds ∧ ∀ around, mergedEntries entries around = [] ∧ ownEntries entries around = ds) ∧
    ∀ ts ds, spellsItems ts ds = true → ∀ around, dataOf ts around = ds := by
  apply spells.mutual_induct
  case case1 =>
    intro own text s h around
    rw [spells, beq_iff_eq] at h
    exact datum_scalar (by rw [readScalar, h]) around
  case case2 =>
    intro own text b h around
    rw [spells] at h
    have hscalar : readScalar .bool own text = .ok (.bool b) := map_eq_ok .bool h
    exact datum_scalar hscalar around
  case case3 =>
    intro own text n h around
    rw [spells] at h
    have hscalar : readScalar .int own text = .ok (.int n) := map_eq_ok .int h
    exact datum_scalar hscalar around
  case case4 =>
    intro own text x h around
    rw [spells] at h
    have hscalar : readScalar .real own text = .ok (.real x) := map_eq_ok .real h
    exact datum_scalar hscalar around
  case case5 =>
    intro items ds ih h around
    rw [spells] at h
    rw [datum, ih h around]
  case case6 =>
    intro entries ds ih h around
    rw [spells] at h
    obtain ⟨hnew, hentries⟩ := ih h
    rw [datum, entriesOf, (hentries around).1, (hentries around).2, List.nil_append, settle_of_new hnew]
  case case8 =>
    intro h around
    rw [dataOf]
  case case9 =>
    intro t rest d others ih ihs h around
    rw [spellsItems, Bool.and_eq_true] at h
    rw [dataOf, ih h.1 around, ihs h.2 around]
  case case11 =>
    intro known h
    exact ⟨trivial, fun around => ⟨by rw [mergedEntries], by rw [ownEntries]⟩⟩
  case case12 =>
    intro own text t rest known key d others ih ihs h
    simp only [spellsEntries, Bool.and_eq_true, beq_iff_eq, Bool.not_eq_true', List.contains_eq_mem,
      decide_eq_false_iff_not] at h
    obtain ⟨⟨⟨rfl, hnew⟩, ht⟩, hrest⟩ := h
    obtain ⟨hnews, hentries⟩ := ihs hrest
    refine ⟨⟨_, rfl, hnew, hnews⟩, fun around => ?_⟩
    have hmerge : ((Tree.scalar .text own text).kind == .merge) = false := rfl
    have hkey : orNull (Tree.scalar .text own text).key = .text (String.ofList text) := rfl
    rw [mergedEntries, ownEntries, hmerge, hkey, ih ht around, (hentries around).1, (hentries around).2]
    exact ⟨rfl, rfl⟩
  -- in the other cases nothing is spelled out
  case case7 =>
    intro t d _ _ _ _ _ _ h
    simp_all [spells]
  case case10 =>
    intro ts ds _ _ h
    simp_all [spellsItems]
  case case13 =>
    intro entries known ds _ _ h
    simp_all [spellsEntries]

end Yaml.Tree

/-- **What a text spells out is what it is read as.** -/
theorem Yaml.read_of_spellsOut {text : List Char} {d : Datum} (h : spellsOut text d = true) : read text = .ok d := by
  rw [spellsOut] at h
  split at h
  · rename_i t htree
    obtain ⟨hcheck, hspells⟩ := Bool.and_eq_true_iff.1 h
    cases hchecked : t.check ((lexemes text).length + 2) with
    | error e =>
      rw [hchecked] at hcheck
      cases hcheck
    | ok =>
      rw [read]
      simp only [htree, hchecked, bind, Except.bind, pure, Except.pure, Tree.spells_sound.1 t d hspells []]
  · cases h

end LineGrammar
