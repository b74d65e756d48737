/-!
# Errors

What can go wrong, by cause. The wording of every message is in this module.
-/

namespace QueryLoom

/-! ### Causes -/

/-- What is wrong with an identifier. -/
inductive IdentFault where
  | empty
  | emptyQuoted
  | nul
  | trailingDot (text : String)
  | missingDot (text : String)
  | unclosed (text : String)
  | invalidPart (part text : String)

/-- What is wrong with an entity. -/
inductive EntityFault where
  | noFields (table : String)
  | unnamedField (table : String)
  | qualifiedColumn (column : String)
  | duplicateField (field table : String)
  | duplicateColumn (column table : String)
  | scaleWithoutLength (field : String)
  | manyLogicalDeletes (table : String) (count : Nat)
  | unknownEntity (name : String)

/-- Why no plan can be made for a batch of records. -/
inductive BatchFault where
  | noSingleKey (entity : String)
  | rawWithoutRecords
  | unknownField (field entity : String)
  | emptyRecord
  | differentFields (got : String)
  | replaceNeedsKey (dialect entity : String)
  | noInsertedField (entity : String)
  | unknownExistenceField (field entity : String)
  | noExistenceField (entity : String)
  | noExistenceValue (entity field : String)
  | emptyDeletePredicate
  | updateNeedsKey (entity : String)
  | updateWithoutKey (entity field : String)
  | emptySelectPredicate
  | emptySelectTarget (entity : String)
  | selectWithoutConstraint
  | unknownColumn (column entity : String)
  | noSelectedColumn

/-- What is wrong with SQL text. -/
inductive SqlFault where
  | unreadable (reason : String)
  | closeWithoutOpen
  | unclosed (count : Nat)

/-- A value that no operation accepts. -/
inductive Violation where
  | ident (fault : IdentFault)
  | entity (fault : EntityFault)
  | batch (fault : BatchFault)
  | sql (fault : SqlFault)
  | sortType (text : String)

/-- What is wrong with a tag. -/
inductive TagFault where
  | missingAttribute (key : String)
  | unsupportedTag
  | onlyWhenOrOtherwise
  | onlyProperty
  | notACollection (collection : String)
  | includeTooDeep (refid : String) (limit : Nat)
  | secondMapper
  | notAMapper
  | noMapper
  | unsupportedBlock
  | noNamespace

/-- Why a condition has no value. -/
inductive ConditionFault where
  | unterminatedString
  | invalidNumber (text : String)
  | unexpectedChar (c : Char)
  | emptyExpression
  | expectedClose
  | unexpectedToken (token : String)
  | unexpectedEnd
  | trailingInput
  | notANumber
  | divisionByZero

/-- Why a template or a markup document cannot be read. -/
inductive ParseFault where
  | unexpectedClose (tag : String)
  | crossedClose (opened closing : String)
  | unclosedTag (tag : String)
  | textOutsideMapper
  | includesItself (name : String)
  | nestsTooDeep (name : String) (limit : Nat)
  | markup (reason : String)
  | template (reason : String)

/-- Why a configuration is refused. -/
inductive ConfigFault where
  | zeroMaxDeal
  | unreadableFile (path : String)
  | malformed (reason : String)
  | inFile (path : String) (fault : ConfigFault)

/-- Everything that can go wrong. A parse error names the templates and files it was found in,
outermost first. -/
inductive SqlError where
  | templateNotFound (candidates : List String)
  | unconvertedParameter (markers : List String)
  | malformedTag (tag : String) (fault : TagFault)
  | condition (expression : String) (fault : ConditionFault)
  | includeNotFound (refid : String) (namespaces : List String)
  | parse (contexts : List String) (fault : ParseFault)
  | validation (violation : Violation)
  | config (fault : ConfigFault)
  | execution (reason : String)

/-- A result or the error that prevented it. -/
abbrev SqlResult (α : Type) := Except SqlError α

/-! ### Shorthands -/

/-- An invalid identifier. -/
def SqlError.ident (fault : IdentFault) : SqlError := .validation (.ident fault)

/-- An invalid entity. -/
def SqlError.entity (fault : EntityFault) : SqlError := .validation (.entity fault)

/-- A batch without a plan. -/
def SqlError.batch (fault : BatchFault) : SqlError := .validation (.batch fault)

/-- Malformed SQL text. -/
def SqlError.sql (fault : SqlFault) : SqlError := .validation (.sql fault)

/-- A parse error, found in one more place. -/
def SqlError.within (place : String) : SqlError → SqlError
  | .parse contexts fault => .parse (place :: contexts) fault
  | e => e

/-- Whether no candidate template was found. -/
def SqlError.isNotFound : SqlError → Bool
  | .templateNotFound _ => true
  | _ => false

/-- Whether the error is a defect of a template or a document. -/
def SqlError.isAuthoringDefect : SqlError → Bool
  | .malformedTag _ _ => true
  | .includeNotFound _ _ => true
  | .parse _ _ => true
  | _ => false

/-! ### Messages -/

/-- The wording of an identifier fault. -/
def IdentFault.message : IdentFault → String
  | .empty => "Identifier cannot be empty"
  | .emptyQuoted => "Empty quoted identifier"
  | .nul => "Identifier cannot contain NUL character"
  | .trailingDot text => s!"Trailing '.' in identifier: {text}"
  | .missingDot text => s!"Expected '.' between identifier parts: {text}"
  | .unclosed text => s!"Unclosed quoted identifier: {text}"
  | .invalidPart part text => s!"Invalid identifier part '{part}' in '{text}'"

/-- The wording of an entity fault. -/
def EntityFault.message : EntityFault → String
  | .noFields table => s!"Entity '{table}' declares no fields"
  | .unnamedField table => s!"Entity '{table}' has a field without a name"
  | .qualifiedColumn column => s!"Column '{column}' must not be qualified"
  | .duplicateField field table => s!"Duplicate field '{field}' in entity '{table}'"
  | .duplicateColumn column table => s!"Duplicate column '{column}' in entity '{table}'"
  | .scaleWithoutLength field => s!"Field '{field}' sets a scale without a length"
  | .manyLogicalDeletes table count =>
    s!"Entity '{table}' declares {count} logical-delete fields; at most one is allowed"
  | .unknownEntity name => s!"Unknown entity '{name}'"

/-- The wording of a batch fault. -/
def BatchFault.message : BatchFault → String
  | .noSingleKey entity =>
    s!"Entity '{entity}' needs exactly one primary key to address rows by id; use Target::Where"
  | .rawWithoutRecords => "Raw predicates carry no key records"
  | .unknownField field entity => s!"Unknown field '{field}' for entity '{entity}'"
  | .emptyRecord => "Empty predicate record would address every row"
  | .differentFields got =>
    s!"Temp-table mode needs the same fields in every record; got {got}"
  | .replaceNeedsKey dialect entity =>
    s!"Replace on {dialect} needs a primary key; entity '{entity}' has none"
  | .noInsertedField entity => s!"No field of entity '{entity}' takes part in the insert"
  | .unknownExistenceField field entity =>
    s!"Unknown existence field '{field}' for entity '{entity}'"
  | .noExistenceField entity =>
    s!"Insert-if-not-exists on '{entity}' needs existence fields or a primary key"
  | .noExistenceValue entity field =>
    s!"Insert-if-not-exists on '{entity}' needs a value for existence field '{field}'"
  | .emptyDeletePredicate => "Empty raw predicate would address every row"
  | .updateNeedsKey entity => s!"Update on '{entity}' needs a primary key"
  | .updateWithoutKey entity field =>
    s!"Update record for '{entity}' is missing key '{field}'"
  | .emptySelectPredicate => "Select needs a non-empty raw predicate"
  | .emptySelectTarget entity =>
    s!"Select on '{entity}' needs at least one id or where record"
  | .selectWithoutConstraint => "Select record constrains no field after skipping empty values"
  | .unknownColumn column entity => s!"Unknown column '{column}' for entity '{entity}'"
  | .noSelectedColumn => "Select needs at least one column"

/-- The wording of a fault in SQL text. -/
def SqlFault.message : SqlFault → String
  | .unreadable reason => s!"Malformed SQL: {reason}"
  | .closeWithoutOpen => "Unbalanced ')' in SQL"
  | .unclosed count => s!"{count} unclosed '(' in SQL"

/-- The wording of a violation. -/
def Violation.message : Violation → String
  | .ident fault => fault.message
  | .entity fault => fault.message
  | .batch fault => fault.message
  | .sql fault => fault.message
  | .sortType text => s!"Invalid sort type: {text}"

/-- The wording of a tag fault. -/
def TagFault.message : TagFault → String
  | .missingAttribute key => s!"missing required attribute '{key}'"
  | .unsupportedTag => "unsupported tag"
  | .onlyWhenOrOtherwise => "only <when> and <otherwise> are allowed inside <choose>"
  | .onlyProperty => "only <property> is allowed inside <include>"
  | .notACollection collection => s!"collection '{collection}' is not an array or object"
  | .includeTooDeep refid limit => s!"'{refid}' nested deeper than {limit}"
  | .secondMapper => "more than one <mapper> root"
  | .notAMapper => "expected a <mapper> root element"
  | .noMapper => "missing <mapper> root element"
  | .unsupportedBlock => "unsupported block in <mapper>"
  | .noNamespace => "no namespace given or declared"

/-- The wording of a condition fault. -/
def ConditionFault.message : ConditionFault → String
  | .unterminatedString => "unterminated string literal"
  | .invalidNumber text => s!"invalid number '{text}'"
  | .unexpectedChar c => s!"unexpected '{c}'"
  | .emptyExpression => "empty expression"
  | .expectedClose => "expected ')'"
  | .unexpectedToken token => s!"unexpected token {token}"
  | .unexpectedEnd => "unexpected end of expression"
  | .trailingInput => "unexpected trailing input"
  | .notANumber => "operand is not a number"
  | .divisionByZero => "division by zero"

/-- The wording of a parse fault. -/
def ParseFault.message : ParseFault → String
  | .unexpectedClose tag => s!"Unexpected </{tag}>"
  | .crossedClose opened closing => s!"<{opened}> closed by </{closing}>"
  | .unclosedTag tag => s!"Unclosed <{tag}>"
  | .textOutsideMapper => "Text outside <mapper>"
  | .includesItself name => s!"Template '{name}' includes itself"
  | .nestsTooDeep name limit => s!"Partials of '{name}' nest deeper than {limit}"
  | .markup reason => s!"Markup is not well formed: {reason}"
  | .template reason => s!"Template is not valid: {reason}"

/-- The wording of a configuration fault. -/
def ConfigFault.message : ConfigFault → String
  | .zeroMaxDeal => "max_deal must be greater than 0"
  | .unreadableFile path => s!"failed to read config file {path}"
  | .malformed reason => reason
  | .inFile path fault => s!"failed to parse config file {path}: {fault.message}"

/-- The full text of an error. -/
def SqlError.message : SqlError → String
  | .templateNotFound candidates => "Template not found: " ++ "|".intercalate candidates
  | .unconvertedParameter markers => "Parameter " ++ ",".intercalate markers ++ " is not converted"
  | .malformedTag tag fault => s!"Malformed tag <{tag}>: {fault.message}"
  | .condition expression fault =>
    s!"Condition evaluation failed for '{expression}': {fault.message}"
  | .includeNotFound refid namespaces =>
    s!"Include refid '{refid}' not found in namespaces [" ++ ", ".intercalate namespaces ++ "]"
  | .parse contexts fault =>
    "Parse error: " ++ String.join (contexts.map (· ++ ": ")) ++ fault.message
  | .validation violation => s!"Validation error: {violation.message}"
  | .config fault => s!"Config error: {fault.message}"
  | .execution reason => s!"Execution error: {reason}"

end QueryLoom
