import DocQuery.CommandLine.Options
import DocQuery.Execution.Executor
import DocQuery.Execution.Transcoder
import DocQuery.Json.Printer
import DocQuery.Json.Reader
import DocQuery.Query.Reader
import DocQuery.Schema.Catalog
import DocQuery.Schema.Reader

/-
  What the command line does.
  The declaration and the query are read and checked; then the request is shown, or run against the
  documents of a file. `evaluate` gives the text that is printed.
-/

namespace DocQuery.CommandLine

/-- Why a command fails. -/
inductive CommandError where
  | missingFile (path : String)
  | malformedFile (path : String)
  | query (cause : QueryError)
  | execution (cause : ExecutionError)
  | noDocuments

/-- The wording of an error. -/
def CommandError.message : CommandError → String
  | missingFile path => "failed to read " ++ Text.quote path
  | malformedFile path => "failed to deserialize " ++ Text.quote path
  | query cause => cause.message
  | execution cause => cause.message
  | noDocuments => "neither documents nor a dry run were asked for"

/-- Reads a file in one way. -/
def load {α : Type} (file : String → Option String) (read : Draft → Option α) (path : String) :
    Except CommandError α :=
  match file path with
  | none => .error (.missingFile path)
  | some text =>
    match (Json.readDraft? text).bind read with
    | none => .error (.malformedFile path)
    | some a => .ok a

/-- Reads documents; all of them have to be readable. -/
def readDocuments (d : Draft) : Option (List Json) :=
  d.list? Draft.toJson?

/-- The text a command prints, given the files it can read. -/
def evaluate (o : Options) (file : String → Option String) : Except CommandError String := do
  let index ← load file IndexDeclaration.read o.schema
  index.validate.mapError .query
  let payload ← load file Payload.read o.query
  let settings : Settings :=
    { index := index.name
      maxResultWindow := o.maxResultWindow
      groupBucketSize := o.groupBucketSize
      groupHitsSize := o.groupHitsSize }
  settings.validate.mapError .query
  let resolver := ({ declaration := index } : Catalog).resolver
  let q ← (payload.toQuery resolver).mapError .query
  if o.dryRun then
    let request ← (settings.request resolver q payload.shape).mapError .query
    return request.body.pretty
  else
    match o.documents with
    | none => throw .noDocuments
    | some path =>
      let docs ← load file readDocuments path
      let store := Store.addDocuments {} index.name docs
      let executor : Executor Id := { settings, transport := store.transport, resolver }
      let result ← (Id.run (executor.execute Transcoder.json q payload.shape)).mapError .execution
      return result.render.pretty

/-- What a command leaves behind: the exit code, and the text on the standard output or, after a
failure, on the error output. -/
structure Outcome where
  exit : Nat
  text : String

/-- The outcome of a command line. -/
def run (args : List String) (file : String → Option String) : Outcome :=
  match Options.parse args with
  | .error e => ⟨2, "error: " ++ e.message⟩
  | .ok o =>
    match evaluate o file with
    | .error e => ⟨1, "error: " ++ e.message⟩
    | .ok text => ⟨0, text⟩

/-- The files a command line may want to read. -/
def wantedFiles (args : List String) : List String :=
  match Options.parse args with
  | .error _ => []
  | .ok o => [o.schema, o.query] ++ o.documents.toList

end DocQuery.CommandLine
