/-
Where the values of a line go: names with values, in the order of writing, each name written once.

The reader writes into any `Sink`. `Container` is the plain one; `Fixed` records what is written but gives the same
answer to every question; `Confined` takes no list of too many members. What is asked for is called by a datum: only a
text can be the name of an entry, and a list or a map cannot even be looked for. `entries_insert`: a new name adds its
entry at the end and changes nothing else.
-/
import LineGrammar.Datum.Display
import LineGrammar.Error

namespace LineGrammar

/-- What a sink holds under a datum; `unfit` is said of a datum that cannot be looked for. -/
inductive Held where
  | value (d : Datum)
  | absent
  | unfit

/-- What the reader needs of the place it writes to: `insert?` refuses a name that was written before, and `admits` says
whether a list may have so many members. -/
class Sink (σ : Type) where
  insert? : σ → String → Datum → Option σ
  ask : σ → Datum → Held
  admits : σ → Nat → Bool

/-- the value under a name, if there is one -/
def Sink.get? {σ : Type} [Sink σ] (sink : σ) (name : String) : Option Datum :=
  match Sink.ask sink (.text name) with
  | .value d => some d
  | _ => none

/-- Names with values, no name twice. -/
structure Container where
  entries : List (String × Datum)
  nodup : (entries.map Prod.fst).Nodup

/-- The kinds of values a caller may ask for. -/
inductive ValueKind where
  | int
  | real
  | bool
  | text
  | list
  deriving DecidableEq

def ValueKind.name : ValueKind → String
  | .int => "int"
  | .real => "float"
  | .bool => "bool"
  | .text => "str"
  | .list => "list"

/-- whether a value is of a kind; a truth value is no integer -/
def ValueKind.holds : ValueKind → Datum → Bool
  | .int, .int _ | .real, .real _ | .bool, .bool _ | .text, .text _ | .list, .list _ => true
  | _, _ => false

/-- Why a container gives no value. -/
inductive ValueFault where
  | absent (name : String)
  | wrongKind (name : String) (found : Datum) (expected : ValueKind)

def ValueFault.errorClass : ValueFault → ErrorClass
  | .absent _ => .runtime .key
  | .wrongKind .. => .runtime .type

def ValueFault.message : ValueFault → String
  | .absent name => quoted name
  | .wrongKind name found expected => s!"Parameter '{name}' holds {found.kindName}, not {expected.name}"

namespace Container

def empty : Container :=
  ⟨[], List.nodup_nil⟩

def names (c : Container) : List String :=
  c.entries.map Prod.fst

def size (c : Container) : Nat :=
  c.entries.length

def contains (c : Container) (name : String) : Bool :=
  c.names.contains name

def get? (c : Container) (name : String) : Option Datum :=
  c.entries.lookup name

theorem nodup_append_entry {c : Container} {name : String} (value : Datum) (h : name ∉ c.names) :
    ((c.entries ++ [(name, value)]).map Prod.fst).Nodup := by
  rw [List.map_append, List.map_singleton, List.nodup_append]
  refine ⟨c.nodup, by simp, fun a ha b hb => ?_⟩
  rw [List.mem_singleton.1 hb]
  rintro rfl
  exact h ha

/-- the container with one entry more, unless the name is taken -/
def insert? (c : Container) (name : String) (value : Datum) : Option Container :=
  if h : name ∈ c.names then none else some ⟨c.entries ++ [(name, value)], nodup_append_entry value h⟩

theorem entries_insert {c d : Container} {name : String} {value : Datum} (h : c.insert? name value = some d) :
    d.entries = c.entries ++ [(name, value)] := by
  unfold insert? at h
  split at h
  · simp at h
  · rw [← Option.some.inj h]

theorem insert?_eq_none_iff {c : Container} {name : String} {value : Datum} :
    c.insert? name value = none ↔ name ∈ c.names := by
  unfold insert?
  split <;> simp_all

/-- under a name that occurs once stands the one value it has -/
theorem lookup_eq_some_iff_mem {entries : List (String × Datum)} {name : String} {value : Datum}
    (h : (entries.map Prod.fst).Nodup) : entries.lookup name = some value ↔ (name, value) ∈ entries := by
  rw [List.lookup_eq_some_iff]
  constructor
  · rintro ⟨l, r, rfl, -⟩
    exact List.mem_append_right l List.mem_cons_self
  · intro hm
    obtain ⟨l, r, rfl⟩ := List.append_of_mem hm
    refine ⟨l, r, rfl, fun p hp => ?_⟩
    rw [List.map_append, List.nodup_append] at h
    have hne := h.2.2 p.1 (List.mem_map_of_mem hp) name (by simp)
    simpa using hne.symm

theorem get?_eq_some_iff {c : Container} {name : String} {value : Datum} :
    c.get? name = some value ↔ (name, value) ∈ c.entries :=
  lookup_eq_some_iff_mem c.nodup

/-- the entry at the end is held -/
theorem get?_of_added {c d : Container} {name : String} {value : Datum}
    (h : d.entries = c.entries ++ [(name, value)]) : d.get? name = some value := by
  rw [get?_eq_some_iff, h]
  exact List.mem_append_right _ List.mem_cons_self

/-- the value under a name, of the expected kind if one is given; `default` stands in for a name that is absent -/
def fetch (c : Container) (name : String) (expected : Option ValueKind) (default : Option Datum) :
    Except ValueFault Datum :=
  match c.get? name, expected with
  | some value, none => .ok value
  | some value, some kind => if kind.holds value then .ok value else .error (.wrongKind name value kind)
  | none, _ =>
    match default with
    | some value => .ok value
    | none => .error (.absent name)

/-- what is held under a datum -/
def ask (c : Container) (key : Datum) : Held :=
  match key with
  | .text name =>
    match c.get? name with
    | some d => .value d
    | none => .absent
  | _ => if key.hashable then .absent else .unfit

theorem ask_text {c : Container} {name : String} {d : Datum} (h : c.get? name = some d) :
    c.ask (.text name) = .value d := by
  simp [ask, h]

/-- only under a text can a value be held -/
theorem text_of_ask {c : Container} {key d : Datum} (h : c.ask key = .value d) :
    ∃ name, key = .text name ∧ c.get? name = some d := by
  cases key with
  | text name =>
    refine ⟨name, rfl, ?_⟩
    cases hv : c.get? name with
    | none => simp [ask, hv] at h
    | some value => simpa [ask, hv] using h
  | _ =>
    simp only [ask] at h
    split at h <;> simp at h

instance : Sink Container where
  insert? := insert?
  ask := ask
  admits _ _ := true

def shown (c : Container) : String :=
  let entries := c.entries.map (fun e => quoted e.1 ++ ": " ++ e.2.inner)
  "ParameterContainer(\x7b" ++ ", ".intercalate entries ++ "\x7d)"

end Container

/-- A sink that answers every question with the same value. -/
structure Fixed where
  answer : Datum
  written : Container

instance : Sink Fixed where
  insert? s name value := (s.written.insert? name value).map (fun c => { s with written := c })
  ask s _ := .value s.answer
  admits _ _ := true

/-- A sink for lists of fewer than `bound` members. -/
structure Confined (σ : Type) where
  inner : σ
  bound : Nat

instance {σ : Type} [Sink σ] : Sink (Confined σ) where
  insert? s name value := (Sink.insert? s.inner name value).map (fun written => { s with inner := written })
  ask s := Sink.ask s.inner
  admits s count := count < s.bound && Sink.admits s.inner count

end LineGrammar
