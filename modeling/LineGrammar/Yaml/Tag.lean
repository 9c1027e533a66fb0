/-
Tags, by which a YAML text says of what kind something is.

A tag is written in full between angle brackets, or as a handle with a rest, the handle standing for a text of its own
that directives may declare. A lone exclamation mark says that the kind follows from the form even of a quoted scalar.
-/
import LineGrammar.Yaml.Plain

namespace LineGrammar.Yaml

/-- A tag as it is written: its handle, if it has one, and the rest. -/
structure Tag where
  handle : Option String
  rest : String
  deriving DecidableEq

/-- the tag that leaves the kind to the form -/
def formTag : String := "!"

/-- what the tags of the basic kinds begin with -/
def coreStem : String := "tag:yaml.org,2002:"

/-- what handles stand for where no directive says otherwise -/
def usualStems : List (String × String) :=
  [("!", "!"), ("!!", coreStem)]

/-- the kinds that tags name -/
def kindNames : List (String × Kind) :=
  [("null", .null), ("bool", .bool), ("int", .int), ("float", .real), ("str", .text), ("binary", .octets),
    ("timestamp", .date), ("seq", .list), ("map", .map), ("set", .set), ("omap", .pairs), ("pairs", .pairs),
    ("merge", .merge), ("value", .value)]

/-- the kind that a tag in full names -/
def Kind.ofTag (tag : String) : Kind :=
  ((kindNames.find? (fun k => coreStem ++ k.1 == tag)).map Prod.snd).getD .unknown

/-- the tag in full; its handle has to stand for something -/
def Tag.full? (stems : List (String × String)) (t : Tag) : Option String :=
  match t.handle with
  | none => some t.rest
  | some h => (stems.lookup h).map (· ++ t.rest)

/-! ## Scanning -/

/-- the characters of octets collected backwards, if they are characters -/
def charsOf? (octets : List UInt8) : Option (List Char) :=
  (String.fromUTF8? (ByteArray.mk octets.reverse.toArray)).map String.toList

/-- A text with its escapes resolved. Each escape is one octet, and those in a row together have to be characters;
`octets` are the ones right before, backwards. -/
def resolveEscapes (octets : List UInt8) : List Char → Option (List Char)
  | [] => charsOf? octets
  | ['%'] | ['%', _] => none
  | '%' :: a :: b :: rest =>
    match hexDigitValue? a, hexDigitValue? b with
    | some i, some j => resolveEscapes (UInt8.ofNat (16 * i + j) :: octets) rest
    | _, _ => none
  | c :: rest => do
    let before ← charsOf? octets
    let behind ← resolveEscapes [] rest
    pure (before ++ c :: behind)

/-- a part of a tag and the number of characters it takes up -/
def scanUri? (text : List Char) : Option (String × Nat) :=
  let body := text.takeWhile isUriChar
  if body.isEmpty then none else (resolveEscapes [] body).map (fun chars => (String.ofList chars, body.length))

/-- the handle at the beginning of a text, and the number of characters it takes up -/
def scanHandle? (text : List Char) : Option (String × Nat) :=
  match text with
  | '!' :: ' ' :: _ => some ("!", 1)
  | '!' :: rest =>
    let name := rest.takeWhile isNameChar
    if (rest.drop name.length).head? == some '!' then some (String.ofList ('!' :: name ++ ['!']), name.length + 2)
    else none
  | _ => none

/-- whether the word at the beginning of a text goes on to an exclamation mark -/
def marksHandle (text : List Char) : Bool :=
  (text.takeWhile (fun c => c != ' ' && !isBreak c)).contains '!'

/-- the tag at the beginning of a text, whatever is behind it, and the number of characters it takes up -/
def scanTagBody? (text : List Char) : Option (Tag × Nat) :=
  match text with
  | '!' :: '<' :: rest => do
    let (uri, size) ← scanUri? rest
    if (rest.drop size).head? == some '>' then pure (⟨none, uri⟩, size + 3) else none
  | '!' :: rest =>
    if gapNext rest then some (⟨none, formTag⟩, 1)
    else do
      let (handle, skipped) ← if marksHandle rest then scanHandle? text else some ("!", 1)
      let (uri, size) ← scanUri? (text.drop skipped)
      pure (⟨some handle, uri⟩, skipped + size)
  | _ => none

/-- the tag at the beginning of a text; a blank, a line end or the end of the text has to be behind it, but no tab -/
def scanTag? (text : List Char) : Option (Tag × Nat) := do
  let (tag, size) ← scanTagBody? text
  if (text.drop size).head?.all (fun c => c == ' ' || isBreak c) then pure (tag, size) else none

end LineGrammar.Yaml
