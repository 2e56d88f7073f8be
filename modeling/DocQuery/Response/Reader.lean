import DocQuery.Json.Draft
import DocQuery.Response.Basic

/-
  Reading the responses of the search backend.
-/

namespace DocQuery

/-- Reads the entries of an object, of which the last of several with one key counts. -/
def Draft.object? (d : Draft) : Option (List (String × Json)) := do
  (← d.toJson?).entries?

/-- Reads a document that was found. -/
def Hit.read (d : Draft) : Option Hit := do
  let entries ← d.entries?
  return {
    id := ← Draft.defaulted "_id" Draft.string? "" entries
    source := ← Draft.defaulted "_source" Draft.toJson? .null entries }

/-- Reads the documents under the entry `hits`. -/
def readHits (d : Draft) : Option (List Hit) := do
  Draft.defaulted "hits" (Draft.list? Hit.read) [] (← d.entries?)

/-- Reads the first documents of a group. -/
def readTopHits (d : Draft) : Option (List Hit) := do
  Draft.defaulted "hits" readHits [] (← d.entries?)

/-- Reads a group. -/
def Bucket.read (d : Draft) : Option Bucket := do
  let entries ← d.entries?
  return {
    key := ← Draft.required "key" Draft.object? entries
    docCount := ← Draft.defaulted "doc_count" (Draft.natural? 64) 0 entries
    hits := ← Draft.optional "data_composite" readTopHits entries }

/-- Reads the groups. -/
def CompositeResult.read (d : Draft) : Option CompositeResult := do
  let entries ← d.entries?
  return {
    afterKey := ← Draft.optional "after_key" Draft.object? entries
    buckets := ← Draft.defaulted "buckets" (Draft.list? Bucket.read) [] entries }

/-- Reads a response. -/
def SearchResponse.read (d : Draft) : Option SearchResponse := do
  let entries ← d.entries?
  let composite (d : Draft) := do
    Draft.required "composite" CompositeResult.read (← d.entries?)
  return {
    hits := ← Draft.defaulted "hits" readHits [] entries
    aggregation := ← Draft.optional "aggregations" composite entries }

end DocQuery
