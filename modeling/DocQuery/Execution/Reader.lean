import DocQuery.Execution.Settings
import DocQuery.Json.Draft

/-
  Settings as JSON.
-/

namespace DocQuery.Settings

/-- Reads settings. -/
def read (d : Draft) : Option Settings := do
  let entries ← d.entries?
  return {
    index := ← Draft.required "index" Draft.string? entries
    maxResultWindow :=
      ← Draft.defaulted "max_result_window" (Draft.natural? 64) defaultResultWindow entries
    groupBucketSize := ← Draft.optional "group_bucket_size" (Draft.natural? 64) entries
    groupHitsSize := ← Draft.optional "group_hits_size" (Draft.natural? 64) entries }

/-- Settings as JSON. -/
def render (s : Settings) : Json :=
  let size : Option Nat → Json
    | none => .null
    | some n => .int n
  .object [("group_bucket_size", size s.groupBucketSize),
    ("group_hits_size", size s.groupHitsSize), ("index", .string s.index),
    ("max_result_window", .int s.maxResultWindow)]

end DocQuery.Settings
