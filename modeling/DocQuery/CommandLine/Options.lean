/-
  The options of the command line.
  An option is given as `--name value` or `--name=value`, three of them also by a single letter.
  Every option may be given once, and no argument may stand alone.
-/

namespace DocQuery.CommandLine

/-- The options there are. -/
inductive Flag where
  | logLevel
  | disablePrettyLogs
  | logDir
  | schema
  | query
  | url
  | documents
  | dryRun
  | maxResultWindow
  | groupBucketSize
  | groupHitsSize
deriving DecidableEq

namespace Flag

/-- All options. -/
def all : List Flag :=
  [logLevel, disablePrettyLogs, logDir, schema, query, url, documents, dryRun, maxResultWindow,
   groupBucketSize, groupHitsSize]

/-- The name of an option. -/
def name : Flag → String
  | logLevel => "log-level"
  | disablePrettyLogs => "disable-pretty-logs"
  | logDir => "log-dir"
  | schema => "schema"
  | query => "query"
  | url => "url"
  | documents => "documents"
  | dryRun => "dry-run"
  | maxResultWindow => "max-result-window"
  | groupBucketSize => "group-bucket-size"
  | groupHitsSize => "group-hits-size"

/-- The letter of an option. -/
def letter? : Flag → Option Char
  | schema => some 's'
  | query => some 'q'
  | url => some 'u'
  | _ => none

/-- Whether an option has a value. -/
def takesValue : Flag → Bool
  | disablePrettyLogs => false
  | dryRun => false
  | _ => true

end Flag

/-- What is wrong with a command line. -/
inductive UsageError where
  | unexpectedArgument (argument : String)
  | missingValue (flag : Flag)
  | unexpectedValue (flag : Flag)
  | invalidValue (flag : Flag) (value : String)
  | repeatedFlag (flag : Flag)
  | missingFlag (flag : Flag)
deriving DecidableEq

/-- The wording of an error. -/
def UsageError.message : UsageError → String
  | unexpectedArgument argument => "unexpected argument: " ++ argument
  | missingValue flag => "a value is required for --" ++ flag.name
  | unexpectedValue flag => "no value is allowed for --" ++ flag.name
  | invalidValue flag value => "invalid value for --" ++ flag.name ++ ": " ++ value
  | repeatedFlag flag => "--" ++ flag.name ++ " was given more than once"
  | missingFlag flag => "--" ++ flag.name ++ " is required"

/-- One argument as it is written. -/
inductive Argument where
  /-- Two hyphens alone: only plain arguments follow. -/
  | separator
  /-- An option, with the value that is written in the same argument. -/
  | option (flag : Flag) (value : Option String)
  /-- Something that is no option. -/
  | other (text : String)

/-- Splits a text at the first equals sign. -/
def splitValue (cs : List Char) : List Char × Option String :=
  match cs.dropWhile (· != '=') with
  | [] => (cs, none)
  | _ :: value => (cs.takeWhile (· != '='), some (String.ofList value))

/-- Reads one argument. -/
def Argument.read (text : String) : Argument :=
  match text.toList with
  | ['-', '-'] => separator
  | '-' :: '-' :: cs =>
    let (name, value) := splitValue cs
    match Flag.all.find? fun flag => flag.name == String.ofList name with
    | some flag => option flag value
    | none => other text
  | '-' :: c :: cs =>
    match Flag.all.find? fun flag => flag.letter? == some c with
    | some flag =>
      let value := match cs with
        | [] => none
        | '=' :: value => some (String.ofList value)
        | value => some (String.ofList value)
      option flag value
    | none => other text
  | _ => other text

/-- Whether an argument can be the value of the option before it. -/
def isValue (text : String) : Bool :=
  match text.toList with
  | '-' :: _ :: _ => false
  | _ => true

/-- The options of a command line with their values, in the order in which they are given. -/
def occurrences : List String → Except UsageError (List (Flag × String))
  | [] => .ok []
  | text :: rest =>
    match Argument.read text with
    | .separator =>
      match rest with
      | [] => .ok []
      | next :: _ => .error (.unexpectedArgument next)
    | .other text => .error (.unexpectedArgument text)
    | .option flag (some value) =>
      if flag.takesValue then do return (flag, value) :: (← occurrences rest)
      else .error (.unexpectedValue flag)
    | .option flag none =>
      if flag.takesValue then
        match rest with
        | value :: rest =>
          if isValue value then do return (flag, value) :: (← occurrences rest)
          else .error (.missingValue flag)
        | [] => .error (.missingValue flag)
      else do return (flag, "") :: (← occurrences rest)

/-- A natural number of 64 bits. -/
def natural? (text : String) : Option Nat :=
  let digits := match text.toList with
    | '+' :: cs => cs
    | cs => cs
  if digits.isEmpty || !digits.all Char.isDigit then none
  else
    let n := digits.foldl (fun acc c => acc * 10 + (c.toNat - '0'.toNat)) 0
    if n < Nat.pow 2 64 then some n else none

/-- Whether a text names a level of the log: by its name in letters of either case, or by a number
from one to five. -/
def isLogLevel (text : String) : Bool :=
  match natural? text with
  | some n => 1 ≤ n && n ≤ 5
  | none =>
    ["trace", "debug", "info", "warn", "error"].contains
      (String.ofList (text.toList.map Char.toLower))

/-- What a command line asks for. -/
structure Options where
  /-- The file of the declaration of the index. -/
  schema : String
  /-- The file of the query. -/
  query : String
  /-- The file of the documents. -/
  documents : Option String
  /-- Whether the request is shown and not run. -/
  dryRun : Bool
  maxResultWindow : Nat
  groupBucketSize : Option Nat
  groupHitsSize : Option Nat

namespace Options

/-- The first option that is given more than once. -/
def repeated? : List (Flag × String) → Option Flag
  | [] => none
  | (flag, _) :: rest => if rest.any (fun o => o.1 == flag) then some flag else repeated? rest

/-- The number an option is given. -/
def number? (given : List (Flag × String)) (flag : Flag) : Except UsageError (Option Nat) :=
  match given.lookup flag with
  | none => .ok none
  | some text =>
    match natural? text with
    | some n => .ok (some n)
    | none => .error (.invalidValue flag text)

/-- The text an option has to be given. -/
def text (given : List (Flag × String)) (flag : Flag) : Except UsageError String :=
  match given.lookup flag with
  | none => .error (.missingFlag flag)
  | some text => .ok text

/-- Reads a command line. -/
def parse (args : List String) : Except UsageError Options := do
  let given ← occurrences args
  match repeated? given with
  | some flag => throw (.repeatedFlag flag)
  | none =>
    match given.lookup .logLevel with
    | some level => if isLogLevel level then pure () else throw (.invalidValue .logLevel level)
    | none => pure ()
    return {
      schema := ← text given .schema
      query := ← text given .query
      documents := given.lookup .documents
      dryRun := (given.lookup .dryRun).isSome
      maxResultWindow := (← number? given .maxResultWindow).getD 10000
      groupBucketSize := ← number? given .groupBucketSize
      groupHitsSize := ← number? given .groupHitsSize }

end Options

end DocQuery.CommandLine
