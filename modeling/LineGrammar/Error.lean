/-
The kinds and classes of errors. A class is what an error is, its kind what a caller dispatches on; a class may belong
to several others, and an error belongs to its class and to all of that class's ancestors.

Some errors come from the runtime: an integer has too many digits to be written, something cannot be looked up, a list
does not fit. They have a class, but no kind, and belong to none of the other classes.
-/

namespace LineGrammar

/-- What a caller dispatches on. -/
inductive ErrorKind where
  | requiredFieldMissing
  | malformedNumber
  | missingRequiredValue
  | trailingGarbage
  | invalidBooleanLiteral
  | duplicateKey
  | internalInconsistency
  | invalidGrammarDefinition
  deriving DecidableEq

def ErrorKind.code : ErrorKind → String
  | .requiredFieldMissing => "required_field_missing"
  | .malformedNumber => "malformed_number"
  | .missingRequiredValue => "missing_required_value"
  | .trailingGarbage => "trailing_garbage"
  | .invalidBooleanLiteral => "invalid_boolean_literal"
  | .duplicateKey => "duplicate_key"
  | .internalInconsistency => "internal_inconsistency"
  | .invalidGrammarDefinition => "invalid_grammar_definition"

/-- What the runtime refuses: data of the wrong type or with an unfit value, a key, an attribute or a place that is not
there, too large a number, too much to hold, too deep a nesting, and texts that are no JSON or no YAML. -/
inductive RuntimeError where
  | type
  | value
  | key
  | attribute
  | index
  | overflow
  | memory
  | recursion
  | json
  | yaml
  deriving DecidableEq

def RuntimeError.name : RuntimeError → String
  | .type => "TypeError"
  | .value => "ValueError"
  | .key => "KeyError"
  | .attribute => "AttributeError"
  | .index => "IndexError"
  | .overflow => "OverflowError"
  | .memory => "MemoryError"
  | .recursion => "RecursionError"
  | .json => "JSONDecodeError"
  | .yaml => "YAMLError"

/-- The classes of errors; `general` holds all but those of the runtime. -/
inductive ErrorClass where
  | general
  | lineParse
  | requiredFieldMissing
  | malformedNumber
  | missingRequiredValue
  | trailingGarbage
  | invalidBooleanLiteral
  | duplicateKey
  | internalInconsistency
  | invalidGrammarDefinition
  | runtime (error : RuntimeError)
  deriving DecidableEq

namespace ErrorClass

/-- the classes that are not the runtime's -/
def all : List ErrorClass :=
  [.general, .lineParse, .requiredFieldMissing, .malformedNumber, .missingRequiredValue, .trailingGarbage,
    .invalidBooleanLiteral, .duplicateKey, .internalInconsistency, .invalidGrammarDefinition]

def name : ErrorClass → String
  | .general => "Error"
  | .lineParse => "LineParseError"
  | .requiredFieldMissing => "RequiredFieldMissing"
  | .malformedNumber => "MalformedNumber"
  | .missingRequiredValue => "MissingRequiredValue"
  | .trailingGarbage => "TrailingGarbage"
  | .invalidBooleanLiteral => "InvalidBooleanLiteral"
  | .duplicateKey => "DuplicateKey"
  | .internalInconsistency => "InternalInconsistency"
  | .invalidGrammarDefinition => "InvalidGrammarDefinition"
  | .runtime error => error.name

/-- the kind of a class; the two classes without a kind of their own count as inconsistencies, and errors of the runtime
have no kind -/
def kind? : ErrorClass → Option ErrorKind
  | .general | .lineParse | .internalInconsistency => some .internalInconsistency
  | .requiredFieldMissing => some .requiredFieldMissing
  | .malformedNumber => some .malformedNumber
  | .missingRequiredValue => some .missingRequiredValue
  | .trailingGarbage => some .trailingGarbage
  | .invalidBooleanLiteral => some .invalidBooleanLiteral
  | .duplicateKey => some .duplicateKey
  | .invalidGrammarDefinition => some .invalidGrammarDefinition
  | .runtime _ => none

/-- whether a class is a class of errors about a field of a line -/
def aboutLine : ErrorClass → Bool
  | .lineParse | .requiredFieldMissing | .malformedNumber | .missingRequiredValue | .trailingGarbage
  | .invalidBooleanLiteral => true
  | _ => false

/-- whether every error of the first class belongs to the second -/
def belongsTo (c ancestor : ErrorClass) : Bool :=
  c == ancestor || (ancestor == .general && c.kind?.isSome) || (ancestor == .lineParse && c.aboutLine) ||
    (c == .missingRequiredValue && (ancestor == .requiredFieldMissing || ancestor == .malformedNumber))

/-- the classes that a class belongs to -/
def memberships (c : ErrorClass) : List ErrorClass :=
  all.filter c.belongsTo

/-- whether a class is a class of unfit arguments -/
def aboutArgument (c : ErrorClass) : Bool :=
  c == .invalidGrammarDefinition || c == .runtime .value

/-- the class of the error of a list with too many members: so many cannot be counted, or cannot be held -/
def ofLength (count : Nat) : ErrorClass :=
  .runtime (if count < Nat.pow 2 63 then .memory else .overflow)

end ErrorClass

end LineGrammar
