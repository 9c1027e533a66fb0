/-
Blank characters and the tokens that stand between them.

A line is read token by token, and a token is a maximal run of characters that are not blank. The blanks are the
white space of Unicode together with the four ASCII separators 28 to 31. `tokens` is the view of a text that forgets
everything but its tokens; `Token` is the type of texts that are one token.
-/

namespace LineGrammar

/-- the characters that separate tokens -/
def isBlank (c : Char) : Bool :=
  let n := c.toNat
  (9 ≤ n && n ≤ 13) || (28 ≤ n && n ≤ 32) || n == 0x85 || n == 0xA0 || n == 0x1680 ||
    (0x2000 ≤ n && n ≤ 0x200A) || n == 0x2028 || n == 0x2029 || n == 0x202F || n == 0x205F || n == 0x3000

/-- the ASCII blanks, the only ones a number may begin with -/
def isAsciiBlank (c : Char) : Bool :=
  let n := c.toNat
  (9 ≤ n && n ≤ 13) || n == 32

/-- whether no token goes on here: the text is used up or a blank comes next -/
def atBoundary : List Char → Bool
  | [] => true
  | c :: _ => isBlank c

/-- the text up to the first blank -/
def leadingToken (text : List Char) : List Char :=
  text.takeWhile (fun c => !isBlank c)

/-- the text from its first blank -/
def afterToken (text : List Char) : List Char :=
  text.dropWhile (fun c => !isBlank c)

/-- the blanks the text begins with -/
def leadingBlanks (text : List Char) : List Char :=
  text.takeWhile isBlank

/-- the text from its first character that is not blank -/
def skipBlanks (text : List Char) : List Char :=
  text.dropWhile isBlank

/-- the tokens of a text, in order -/
def tokens : List Char → List (List Char)
  | [] => []
  | c :: rest =>
    if isBlank c then tokens rest
    else if atBoundary rest then [c] :: tokens rest
    else (tokens rest).modifyHead (c :: ·)

/-- whether a text is exactly one token -/
def isToken (text : List Char) : Bool :=
  !text.isEmpty && text.all (fun c => !isBlank c)

theorem isToken_iff {text : List Char} : isToken text = true ↔ text ≠ [] ∧ ∀ c ∈ text, isBlank c = false := by
  simp [isToken]

/-- A text that is exactly one token: not empty, and free of blanks. -/
structure Token where
  chars : List Char
  nonempty : chars ≠ []
  solid : ∀ c ∈ chars, isBlank c = false
  deriving DecidableEq

namespace Token

/-- the text itself, if it is one token -/
def ofChars? (chars : List Char) : Option Token :=
  if h : isToken chars = true then some ⟨chars, (isToken_iff.1 h).1, (isToken_iff.1 h).2⟩ else none

def ofText? (text : String) : Option Token :=
  ofChars? text.toList

def text (t : Token) : String :=
  String.ofList t.chars

theorem chars_injective {t u : Token} (h : t.chars = u.chars) : t = u := by
  cases t
  cases u
  cases h
  rfl

theorem text_injective {t u : Token} (h : t.text = u.text) : t = u :=
  chars_injective (String.ofList_injective h)

theorem ofChars?_chars (t : Token) : ofChars? t.chars = some t :=
  dif_pos (isToken_iff.2 ⟨t.nonempty, t.solid⟩)

theorem ofText?_text (t : Token) : ofText? t.text = some t := by
  simp [ofText?, text, ofChars?_chars]

theorem ofText?_eq_some_iff {s : String} {t : Token} : ofText? s = some t ↔ s = t.text := by
  constructor
  · intro h
    unfold ofText? ofChars? at h
    split at h
    · cases h
      exact String.ofList_toList.symm
    · cases h
  · rintro rfl
    exact ofText?_text t

end Token

end LineGrammar
