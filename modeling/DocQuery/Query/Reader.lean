import DocQuery.Predicate.Reader
import DocQuery.Query.Payload

/-
  Payloads as JSON.
-/

namespace DocQuery

/-- Reads a sort key. -/
def SortKey.read (d : Draft) : Option SortKey := do
  let entries ← d.entries?
  return {
    property := ← Draft.required "property" Draft.string? entries
    order := ← Draft.defaulted "sort" (fun d => d.variant?.bind SortOrder.ofName?) .asc entries }

/-- Reads a shape. All of its entries have to be readable, also those that are ignored. -/
def ResultShape.read (d : Draft) : Option ResultShape := do
  let _ ← d.toJson?
  let entries ← d.entries?
  let allowEmpty := Draft.defaulted "allow_empty" Draft.bool? false entries
  match ← Draft.required "kind" Draft.string? entries with
  | "collection" => return .collection
  | "single" => return .single (← allowEmpty)
  | "first" => return .first (← allowEmpty)
  | "count" => return .count
  | "grouped" => return .grouped
  | _ => none

/-- Reads a payload. -/
def Payload.read (d : Draft) : Option Payload := do
  let entries ← d.entries?
  return {
    filters := ← Draft.defaulted "filters" (Draft.list? Predicate.read) [] entries
    skip := ← Draft.optional "skip" (Draft.natural? 64) entries
    take := ← Draft.optional "take" (Draft.natural? 64) entries
    orderBy := ← Draft.defaulted "order_by" (Draft.list? SortKey.read) [] entries
    groupBy := ← Draft.defaulted "group_by" (Draft.list? Draft.string?) [] entries
    select := ← Draft.optional "select" Draft.string? entries
    shape := ← Draft.defaulted "shape" ResultShape.read .collection entries }

end DocQuery
