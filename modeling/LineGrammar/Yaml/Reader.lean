/-
YAML read as data: a text is cut into lexemes, a tree is grown from them, the tree is searched for a fault, and its
datum is what the text stands for.
-/
import LineGrammar.Yaml.Growth
import LineGrammar.Yaml.Level

namespace LineGrammar.Yaml

/-- The datum of a text with one document; a text without a document stands for nothing. Every level of a tree takes up
a lexeme. -/
def read (text : List Char) : Except Fault Datum := do
  let ls := lexemes text
  match ← treeOf ls with
  | some t =>
    t.check (ls.length + 2)
    pure (t.datum [])
  | none => pure .null

end LineGrammar.Yaml
