import DocQuery.Error
import DocQuery.Text.Blank

/-
  The settings under which queries are run.
-/

namespace DocQuery

/-- The largest window of results unless another is set. -/
def defaultResultWindow : Nat := 10000

/-- The settings of an executor. -/
structure Settings where
  /-- The index all queries run against. -/
  index : String
  /-- The largest window of results. -/
  maxResultWindow : Nat := defaultResultWindow
  /-- The number of groups of a grouped result, if it is not left to the backend. -/
  groupBucketSize : Option Nat := none
  /-- The number of documents of a group, if it is not left to the backend. -/
  groupHitsSize : Option Nat := none
deriving DecidableEq

namespace Settings

/-- Checks that no setting is empty. -/
def validate (s : Settings) : Except QueryError Unit :=
  if Text.isBlankText s.index then .error (.invalidSettings .emptyIndex)
  else if s.maxResultWindow = 0 then .error (.invalidSettings .emptyWindow)
  else if s.groupBucketSize = some 0 ∨ s.groupHitsSize = some 0 then
    .error (.invalidSettings .emptyGroups)
  else .ok ()

end Settings

end DocQuery
