import DocQuery.Schema.Field
import DocQuery.Value

/-
  What can be wrong with a query.
  An error names its cause; `message` gives its wording.
-/

namespace DocQuery

/-- Why a value cannot be compared to a field. -/
inductive ValueError where
  | mismatch (value : ValueKind) (field : FieldType)
  | identifier (cause : IdentifierError)
  | notFinite
  | malformedDatetime
  | signedTimestamp
  | unsignedTimestamp
  | notDatetime (value : ValueKind)
  | notMember (text : String)
deriving DecidableEq

/-- The wording of a reason. -/
def ValueError.message : ValueError → String
  | mismatch value field =>
    "a " ++ value.name ++ " value cannot be compared to a " ++ field.name ++ " field"
  | identifier cause => "invalid identifier: " ++ cause.message
  | notFinite => "non-finite numbers cannot be queried"
  | malformedDatetime => "datetime should be formatted in RFC 3339 or given as a timestamp"
  | signedTimestamp => "invalid i64 timestamp given"
  | unsignedTimestamp => "invalid u64 timestamp given"
  | notDatetime value => "a " ++ value.name ++ " value cannot be interpreted as a datetime"
  | notMember text => Text.quote text ++ " is not a member of the enum"

/-- Why the declaration of an index is refused. -/
inductive SchemaError where
  | emptyName
  | rejectedFields (faults : List String)
  | sharedNames (names : List String)
deriving DecidableEq

/-- The wording of a refusal. -/
def SchemaError.message : SchemaError → String
  | emptyName => "the index name must not be empty"
  | rejectedFields faults =>
    toString faults.length ++ " fields are incorrectly declared: " ++ ", ".intercalate faults
  | sharedNames names =>
    "multiple properties resolve to the same field: " ++ ", ".intercalate names

/-- Why the settings of an executor are refused. -/
inductive SettingsError where
  | emptyIndex
  | emptyWindow
  | emptyGroups
deriving DecidableEq

/-- The wording of a refusal. -/
def SettingsError.message : SettingsError → String
  | emptyIndex => "the index name must not be empty"
  | emptyWindow => "max result window must be at least 1"
  | emptyGroups => "group sizes must be at least 1 when given"

/-- Why a query cannot be compiled. -/
inductive QueryError where
  | unsupported (construct : String)
  | unknownProperty (property : String)
  | invalidValue (property : String) (reason : ValueError)
  | invalidSchema (cause : SchemaError)
  | invalidSettings (cause : SettingsError)
deriving DecidableEq

/-- The wording of an error. -/
def QueryError.message : QueryError → String
  | unsupported construct =>
    "the expression '" ++ construct ++ "' is not supported by this query compiler"
  | unknownProperty property => "unknown property: " ++ Text.quote property
  | invalidValue property reason =>
    "invalid value given for property " ++ Text.quote property ++ ": " ++ reason.message
  | invalidSchema cause => "invalid index declaration: " ++ cause.message
  | invalidSettings cause => "invalid executor settings: " ++ cause.message

end DocQuery
