/-
Trees grown from the lexemes of a YAML text.

Whatever is looked at and does not fit is malformed, except for the place behind which the text could not be cut: what
is wrong there is then wrong with the text.
-/
import LineGrammar.Yaml.Lexeme
import LineGrammar.Yaml.Tree

namespace LineGrammar.Yaml

/-- the most levels of lists and maps that a text may have -/
def levelLimit : Nat := 488

/-- The lexemes that are left, the trees under the anchors so far, what the handles of tags stand for, and how many more
levels there may be. -/
structure Source where
  lexemes : List Lexeme
  anchors : List (String × Tree)
  stems : List (String × String)
  levels : Nat

abbrev Grown (α : Type) := Except Fault (α × Source)

def emptyScalar : Tree :=
  .scalar .null 0 []

/-- Where a tree stands: in a block, in a block under a key, or in brackets. -/
inductive Place where
  | block
  | underKey
  | flow
  deriving DecidableEq

/-- what is wrong with the next lexeme, if no rule has a place for it -/
def faultAt : List Lexeme → Fault
  | .broken fault :: _ => fault
  | _ => .malformed

def Source.fault (s : Source) : Fault :=
  faultAt s.lexemes

/-- whether the next lexeme is one of those that leave the place of a tree empty -/
def emptyBefore (ends : List Lexeme) (s : Source) : Bool :=
  (s.lexemes.head?.map ends.contains).getD true

def Source.drop (s : Source) : Source :=
  { s with lexemes := s.lexemes.drop 1 }

/-! ## Anchors and tags -/

/-- The anchor and the tag in full before a tree, and the place of the tag. -/
structure Properties where
  anchor : Option String
  tag : Option String
  place : Nat

namespace Properties

def isEmpty (p : Properties) : Bool :=
  p.anchor.isNone && p.tag.isNone

/-- the kind said by the tag, unless that leaves it to the form -/
def kind? (p : Properties) : Option Kind :=
  (p.tag.filter (· != formTag)).map Kind.ofTag

/-- the scalar with these properties; without a tag a scalar in quotes is a text -/
def scalar (p : Properties) (plain : Bool) (text : List Char) : Tree :=
  let form := if plain || p.tag.isSome then Kind.ofPlain text else .text
  .scalar (p.kind?.getD form) (p.place + 1) text

def list (p : Properties) (items : List Tree) : Tree :=
  .list (p.kind?.getD .list) items

def map (p : Properties) (entries : List (Tree × Tree)) : Tree :=
  .map (p.kind?.getD .map) entries

end Properties

/-- the properties with a tag, the lexemes behind them being given -/
def withTag (stems : List (String × String)) (anchor : Option String) (t : Tag) (place : Nat) (rest : List Lexeme) :
    Except Fault (Properties × List Lexeme) :=
  match t.full? stems with
  | some tag => .ok (⟨anchor, some tag, place⟩, rest)
  | none => .error .malformed

/-- The anchor and the tag that come next, in either order. Behind a tag in front an anchor is looked for before it is
asked what the tag's handle stands for. -/
def takeProperties (stems : List (String × String)) : List Lexeme → Except Fault (Properties × List Lexeme)
  | .anchor a :: .tag t place :: rest | .tag t place :: .anchor a :: rest => withTag stems (some a) t place rest
  | .tag _ _ :: .broken fault :: _ => .error fault
  | .tag t place :: rest => withTag stems none t place rest
  | .anchor a :: rest => .ok (⟨some a, none, 0⟩, rest)
  | rest => .ok (⟨none, none, 0⟩, rest)

/-- remembers what stands under an anchor from here on, which has to be new -/
def Source.opened (p : Properties) (s : Source) (start : String → Tree) : Except Fault Source :=
  match p.anchor with
  | none => .ok s
  | some a =>
    if (s.anchors.lookup a).isSome then .error .malformed else .ok { s with anchors := (a, start a) :: s.anchors }

/-- a scalar, under its anchor at once -/
def register (p : Properties) (t : Tree) (s : Source) : Grown Tree :=
  (s.opened p (fun _ => t)).map (fun s => (t, s))

/-- A list or a map whose members have been read. Trees under other anchors that it is part of can now have it in its
places. -/
def complete (p : Properties) (t : Tree) (s : Source) : Tree × Source :=
  match p.anchor with
  | none => (t, s)
  | some a =>
    let whole := Tree.share a t
    let others := s.anchors.map (fun e =>
      match e.2 with
      | .shared b inner none => (e.1, Tree.share b (Tree.fill a whole inner))
      | _ => e)
    (whole, { s with anchors := (a, whole) :: others })

/-- what stands one level deeper -/
def deeper {α : Type} (members : Source → Grown α) (s : Source) : Grown α :=
  match s.levels with
  | 0 => .error .tooDeep
  | levels + 1 => (members { s with levels }).map (fun r => (r.1, { r.2 with levels := s.levels }))

/-- a list or a map whose members come next -/
def collect {α : Type} (p : Properties) (make : α → Tree) (members : Source → Grown α) (s : Source) : Grown Tree :=
  match s.opened p .hole with
  | .error fault => .error fault
  | .ok s => (deeper members s).map (fun r => complete p (make r.1) r.2)

/-! ## Nodes -/

mutual

/-- the tree that comes next -/
def growNode (place : Place) : Nat → Source → Grown Tree
  | 0, _ => .error .malformed
  | fuel + 1, s =>
    match s.lexemes with
    | .alias a :: rest =>
      match s.anchors.lookup a with
      | some t => .ok (t, { s with lexemes := rest })
      | none => .error .malformed
    | lexemes =>
      match takeProperties s.stems lexemes with
      | .error fault => .error fault
      | .ok (p, rest) =>
        let here : Source := { s with lexemes := rest }
        match rest with
        | .broken fault :: _ => .error fault
        | .scalar plain text :: _ => register p (p.scalar plain text) here.drop
        | .openList :: _ => collect p p.list (fun s => growFlowItems fuel true [] s) here.drop
        | .openMap :: _ => collect p p.map (fun s => growFlowEntries fuel true [] s) here.drop
        | .item :: _ =>
          if place == .underKey then collect p p.list (fun s => growItems fuel false [] s) here else growEmpty p here
        | .listBlock :: _ =>
          if place == .flow then growEmpty p here else collect p p.list (fun s => growItems fuel true [] s) here.drop
        | .mapBlock :: _ =>
          if place == .flow then growEmpty p here else collect p p.map (fun s => growEntries fuel [] s) here.drop
        | _ => growEmpty p here

/-- an empty scalar, which has to have an anchor or a tag at least -/
def growEmpty (p : Properties) (s : Source) : Grown Tree :=
  if p.isEmpty then .error .malformed else register p (p.scalar true []) s

/-- a tree, or an empty scalar if its place is empty -/
def growOrEmpty (place : Place) (ends : List Lexeme) : Nat → Source → Grown Tree
  | 0, _ => .error .malformed
  | fuel + 1, s => if emptyBefore ends s then .ok (emptyScalar, s) else growNode place fuel s

/-- the items of a list in block style; a list of its own block is closed by the end of the block -/
def growItems : Nat → Bool → List Tree → Source → Grown (List Tree)
  | 0, _, _, _ => .error .malformed
  | fuel + 1, ownBlock, before, s =>
    match s.lexemes with
    | .item :: _ =>
      let ends := if ownBlock then [.item, .blockEnd] else [.item, .key, .value, .blockEnd]
      match growOrEmpty .block ends fuel s.drop with
      | .ok (t, s) => growItems fuel ownBlock (t :: before) s
      | .error e => .error e
    | .blockEnd :: _ => .ok (before.reverse, if ownBlock then s.drop else s)
    | _ => if ownBlock then .error s.fault else .ok (before.reverse, s)

/-- the entries of a map in block style -/
def growEntries : Nat → List (Tree × Tree) → Source → Grown (List (Tree × Tree))
  | 0, _, _ => .error .malformed
  | fuel + 1, before, s =>
    let ends : List Lexeme := [.key, .value, .blockEnd]
    match s.lexemes with
    | .key :: _ =>
      match growOrEmpty .underKey ends fuel s.drop with
      | .error e => .error e
      | .ok (k, s) =>
        match growValue .underKey ends fuel s with
        | .ok (v, s) => growEntries fuel ((k, v) :: before) s
        | .error e => .error e
    | .blockEnd :: _ => .ok (before.reverse, s.drop)
    | _ => .error s.fault

/-- the value of an entry, empty if there is no colon -/
def growValue (place : Place) (ends : List Lexeme) : Nat → Source → Grown Tree
  | 0, _ => .error .malformed
  | fuel + 1, s =>
    match s.lexemes with
    | .value :: _ => growOrEmpty place ends fuel s.drop
    | _ => .ok (emptyScalar, s)

/-- the items of a list in brackets; an entry among them is a map by itself -/
def growFlowItems : Nat → Bool → List Tree → Source → Grown (List Tree)
  | 0, _, _, _ => .error .malformed
  | fuel + 1, first, before, s =>
    match s.lexemes with
    | .closeList :: _ => .ok (before.reverse, s.drop)
    | .comma :: _ => if first then .error .malformed else growFlowItem fuel before s.drop
    | _ => if first then growFlowItem fuel before s else .error s.fault

def growFlowItem : Nat → List Tree → Source → Grown (List Tree)
  | 0, _, _ => .error .malformed
  | fuel + 1, before, s =>
    match s.lexemes with
    | .closeList :: _ => .ok (before.reverse, s.drop)
    | .key :: _ =>
      match deeper (fun s => growPair [.value, .comma, .closeList] [.comma, .closeList] fuel s) s.drop with
      | .ok (entry, s) => growFlowItems fuel false (.map .map [entry] :: before) s
      | .error e => .error e
    | _ =>
      match growNode .flow fuel s with
      | .ok (t, s) => growFlowItems fuel false (t :: before) s
      | .error e => .error e

/-- the key and the value of an entry in brackets, either of which may be left out -/
def growPair (keyEnds ends : List Lexeme) : Nat → Source → Grown (Tree × Tree)
  | 0, _ => .error .malformed
  | fuel + 1, s =>
    match growOrEmpty .flow keyEnds fuel s with
    | .error e => .error e
    | .ok (k, s) => (growValue .flow ends fuel s).map (fun r => ((k, r.1), r.2))

/-- the entries of a map in brackets -/
def growFlowEntries : Nat → Bool → List (Tree × Tree) → Source → Grown (List (Tree × Tree))
  | 0, _, _, _ => .error .malformed
  | fuel + 1, first, before, s =>
    match s.lexemes with
    | .closeMap :: _ => .ok (before.reverse, s.drop)
    | .comma :: _ => if first then .error .malformed else growFlowEntry fuel before s.drop
    | _ => if first then growFlowEntry fuel before s else .error s.fault

def growFlowEntry : Nat → List (Tree × Tree) → Source → Grown (List (Tree × Tree))
  | 0, _, _ => .error .malformed
  | fuel + 1, before, s =>
    match s.lexemes with
    | .closeMap :: _ => .ok (before.reverse, s.drop)
    | .key :: _ =>
      match growPair [.value, .comma, .closeMap] [.comma, .closeMap] fuel s.drop with
      | .ok (entry, s) => growFlowEntries fuel false (entry :: before) s
      | .error e => .error e
    | _ =>
      match growNode .flow fuel s with
      | .ok (k, s) => growFlowEntries fuel false ((k, emptyScalar) :: before) s
      | .error e => .error e

end

/-! ## Documents -/

def isDirective : Lexeme → Bool
  | .directive _ => true
  | _ => false

/-- what the directives at the beginning of a text settle -/
def leadingDirectives : List Lexeme → List Directive
  | .directive d :: rest => d :: leadingDirectives rest
  | _ => []

/-- what a directive must not settle a second time: the version, or the handle it declares -/
def Directive.subject? : Directive → Option (Option String)
  | .version => some none
  | .stem handle _ => some (some handle)
  | .other => none

/-- what the handles of tags stand for -/
def stemsOf (directives : List Directive) : List (String × String) :=
  directives.filterMap (fun d => match d with | .stem handle text => some (handle, text) | _ => none) ++ usualStems

/-- the tree of the document that begins here, with the lexemes behind the end of the document -/
def growDocument (stems : List (String × String)) (lexemes : List Lexeme) : Except Fault (Tree × List Lexeme) := do
  let ends : List Lexeme := [.documentStart, .documentEnd]
  let source : Source := ⟨lexemes, [], stems, levelLimit⟩
  let (t, s) ←
    if emptyBefore ends source || (lexemes.head?.map isDirective).getD false then pure (emptyScalar, source)
    else growNode .block (3 * lexemes.length + 3) source
  pure (t, if s.lexemes.head? == some .documentEnd then s.lexemes.drop 1 else s.lexemes)

/-- the tree of the only document, which begins here; nothing but ends of documents may be behind it -/
def growOnly (stems : List (String × String)) (lexemes : List Lexeme) : Except Fault Tree := do
  let (t, rest) ← growDocument stems lexemes
  let others := rest.dropWhile (· == .documentEnd)
  if others.isEmpty then pure t else .error (faultAt (others.dropWhile isDirective))

/-- the tree of a text with one document, nothing if there is none -/
def treeOf (lexemes : List Lexeme) : Except Fault (Option Tree) :=
  match lexemes with
  | [] => .ok none
  | first :: _ =>
    if first == .documentStart || isDirective first then
      let directives := leadingDirectives lexemes
      let rest := lexemes.dropWhile isDirective
      if !(directives.filterMap Directive.subject?).Nodup then .error .malformed
      else if rest.head? == some .documentStart then (growOnly (stemsOf directives) (rest.drop 1)).map some
      else .error (faultAt rest)
    else if first == .documentEnd then .error .malformed
    else (growOnly usualStems lexemes).map some

end LineGrammar.Yaml
