import DocQuery.Clause.Reader
import DocQuery.Execution.Reader
import DocQuery.Main
import DocQuery.Proofs.Clause.Fields
import DocQuery.Proofs.Compilation.Enumeration
import DocQuery.Proofs.Compilation.Erasure
import DocQuery.Proofs.Compilation.Escaping
import DocQuery.Proofs.Compilation.Identity
import DocQuery.Proofs.Compilation.Integers
import DocQuery.Proofs.Compilation.Meaning
import DocQuery.Proofs.Compilation.Negation
import DocQuery.Proofs.Compilation.Ordering
import DocQuery.Proofs.Compilation.Parts
import DocQuery.Proofs.Compilation.Reading
import DocQuery.Proofs.Compilation.Refusal
import DocQuery.Proofs.Compilation.Shape
import DocQuery.Proofs.Compilation.Spelling
import DocQuery.Proofs.Compilation.Wrapping
import DocQuery.Proofs.Document.Consistency
import DocQuery.Proofs.Document.Projection
import DocQuery.Proofs.Document.Ranking
import DocQuery.Proofs.Execution.Chaining
import DocQuery.Proofs.Execution.GroupKeys
import DocQuery.Proofs.Execution.Grouping
import DocQuery.Proofs.Execution.Paging
import DocQuery.Proofs.Execution.Selecting
import DocQuery.Proofs.Execution.Sending
import DocQuery.Proofs.Execution.Window
import DocQuery.Proofs.Query.Stages
import DocQuery.Proofs.QueryString.Embedding
import DocQuery.Proofs.QueryString.Runs
import DocQuery.Proofs.Request.Rendering
import DocQuery.Proofs.Schema.Aliases
import DocQuery.Proofs.Schema.Catalog
import DocQuery.Proofs.Store.Buckets
import DocQuery.Response.Reader
