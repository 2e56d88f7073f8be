import DocQuery.CommandLine.Run
import DocQuery.Proofs.Compilation.Conjunction
import DocQuery.Proofs.Execution.Answer

/-
  What an execution sends.
  An execution either fails before it sends anything, with the error of building its request, or
  sends this one request and makes its result of the reply alone; then no reply leads to a query
  error (`execute_sends`). A dry run shows the same request.
-/

namespace DocQuery

/-! ## Requests and replies -/

/-- What a transport answers to a request of either kind. -/
inductive Reply where
  | search (answer : Except (List String) SearchResponse)
  | count (answer : Except (List String) Nat)

namespace Transport

variable {m : Type → Type} [Monad m]

/-- Sends a request of either kind. -/
def send (t : Transport m) : Request → m Reply
  | .search r => Reply.search <$> t.search r
  | .count r => Reply.count <$> t.count r

/-- The transport that hands all requests on and keeps a list of them. -/
def recorded (t : Transport m) : Transport (StateT (List Request) m) where
  search r := do
    modify (· ++ [.search r])
    StateT.lift (t.search r)
  count r := do
    modify (· ++ [.count r])
    StateT.lift (t.count r)

theorem run_send_recorded [LawfulMonad m] (t : Transport m) (request : Request)
    (log : List Request) :
    (t.recorded.send request).run log =
      (fun reply => (reply, log ++ [request])) <$> t.send request := by
  cases request <;> simp [send, recorded]

end Transport

namespace Executor

variable {α : Type} {r : Resolver} {transcoder : Transcoder α} {q : Query} {shape : ResultShape}

/-- What an execution makes of a reply. -/
def finish (r : Resolver) (transcoder : Transcoder α) (q : Query) (shape : ResultShape) :
    Reply → Except ExecutionError (ExecutionResult α)
  | .search answer => answer.mapError .transport >>= conclude r transcoder q shape
  | .count answer => (answer.mapError .transport).map .count

section

variable {m : Type → Type} [Monad m]

/-- What an execution makes of a response, or of the lack of one. -/
def settle (r : Resolver) (transcoder : Transcoder α) (q : Query) (shape : ResultShape)
    (answer : Except ExecutionError SearchResponse) : Except ExecutionError (ExecutionResult α) :=
  answer >>= conclude r transcoder q shape

theorem execute_of_ne_count [LawfulMonad m] (e : Executor m) (hshape : shape ≠ .count) :
    e.execute transcoder q shape = settle e.resolver transcoder q shape <$> e.search q shape := by
  have hsettle : e.execute transcoder q shape = (e.search q shape >>= fun answer =>
      pure (settle e.resolver transcoder q shape answer)) := by
    cases shape with
    | count => exact absurd rfl hshape
    | _ =>
      simp only [execute]
      congr 1
      funext answer
      cases answer <;> rfl
  rw [hsettle, bind_pure_comp]

/-- An execution builds the request of its shape, sends it and looks at the reply. -/
theorem execute_eq_finish [LawfulMonad m] (e : Executor m) (transcoder : Transcoder α) (q : Query)
    (shape : ResultShape) :
    e.execute transcoder q shape =
      match e.settings.request e.resolver q shape with
      | .error cause => pure (.error (.query cause))
      | .ok request => finish e.resolver transcoder q shape <$> e.transport.send request := by
  by_cases hshape : shape = .count
  · subst hshape
    simp [execute, countMatches, Settings.request, Transport.send, finish]
  · have hrequest : e.settings.request e.resolver q shape =
        Request.search <$> e.settings.searchRequest e.resolver q shape := by
      cases shape with
      | count => exact absurd rfl hshape
      | _ => rfl
    rw [execute_of_ne_count e hshape, hrequest, search]
    cases e.settings.searchRequest e.resolver q shape with
    | error cause => simp [settle]
    | ok request =>
      simp only [map_ok, Transport.send, bind_pure_comp, Functor.map_map]
      rfl

end

/-! ## Errors after sending -/

/-- Whether a result is not an error of the query. -/
def IsNoQueryError {β : Type} (x : Except ExecutionError β) : Prop :=
  ∀ cause, x ≠ .error (.query cause)

theorem isNoQueryError_ok {β : Type} (b : β) :
    IsNoQueryError (.ok b : Except ExecutionError β) := nofun

theorem IsNoQueryError.bind {β γ : Type} {x : Except ExecutionError β}
    {f : β → Except ExecutionError γ} (hx : IsNoQueryError x) (hf : ∀ b, IsNoQueryError (f b)) :
    IsNoQueryError (x >>= f) := by
  cases x with
  | ok b => exact hf b
  | error e =>
    intro cause h
    cases h
    exact hx cause rfl

theorem IsNoQueryError.mapM {β γ : Type} {f : β → Except ExecutionError γ}
    (hf : ∀ b, IsNoQueryError (f b)) (xs : List β) : IsNoQueryError (xs.mapM f) := by
  induction xs with
  | nil => exact isNoQueryError_ok []
  | cons x xs ih =>
    rw [List.mapM_cons]
    exact (hf x).bind fun _ => ih.bind fun _ => isNoQueryError_ok _

/-- Errors that come from elsewhere are not errors of the query. -/
theorem isNoQueryError_mapError {β ε : Type} {wrap : ε → ExecutionError}
    (hwrap : ∀ e cause, wrap e ≠ .query cause) (x : Except ε β) :
    IsNoQueryError (x.mapError wrap) := by
  cases x with
  | ok b => exact isNoQueryError_ok b
  | error e => exact fun cause h => hwrap e cause (Except.error.inj h)

theorem decodeRecord_isNoQueryError (raw : Json) :
    IsNoQueryError (decodeRecord transcoder raw) :=
  isNoQueryError_mapError nofun (transcoder raw)

variable {field : Option String}

/-- The projection is resolved a second time, with the same outcome. -/
theorem decodeHits_isNoQueryError (hfield : projectionField r q = .ok field) (hits : List Hit) :
    IsNoQueryError (decodeHits r transcoder q hits) := by
  unfold decodeHits
  rw [hfield]
  cases field with
  | none => exact .mapM (fun _ => decodeRecord_isNoQueryError _) hits
  | some name => exact .mapM (fun _ => decodeRecord_isNoQueryError _) hits

theorem decodeGroups_isNoQueryError (hfield : projectionField r q = .ok field)
    (response : SearchResponse) : IsNoQueryError (decodeGroups r transcoder q response) := by
  unfold decodeGroups
  cases response.aggregation with
  | none => exact isNoQueryError_ok []
  | some composite =>
    refine .mapM (fun bucket => ?_) composite.buckets
    exact (decodeHits_isNoQueryError hfield _).bind fun _ => isNoQueryError_ok _

theorem conclude_isNoQueryError (hfield : projectionField r q = .ok field)
    (response : SearchResponse) : IsNoQueryError (conclude r transcoder q shape response) := by
  have hhits : IsNoQueryError (decodeHits r transcoder q response.hits) :=
    decodeHits_isNoQueryError hfield response.hits
  cases shape with
  | collection => exact hhits.bind fun _ => isNoQueryError_ok _
  | single allowEmpty =>
    refine hhits.bind fun records => ?_
    cases records with
    | nil => cases allowEmpty <;> nofun
    | cons record rest => cases rest <;> nofun
  | first allowEmpty =>
    refine hhits.bind fun records => ?_
    cases records with
    | nil => cases allowEmpty <;> nofun
    | cons record rest => nofun
  | count => nofun
  | grouped => exact (decodeGroups_isNoQueryError hfield response).bind fun _ => isNoQueryError_ok _

/-- Once the request is built, no reply is a reason for a query error. -/
theorem finish_isNoQueryError {settings : Settings} {request : Request}
    (h : settings.request r q shape = .ok request) (reply : Reply) :
    IsNoQueryError (finish r transcoder q shape reply) := by
  cases reply with
  | count answer => cases answer <;> nofun
  | search answer =>
    refine (isNoQueryError_mapError nofun answer).bind fun response => ?_
    by_cases hshape : shape = .count
    · subst hshape
      nofun
    · obtain ⟨_, hsearch⟩ : ∃ searched, settings.searchRequest r q shape = .ok searched := by
        cases shape with
        | count => exact absurd rfl hshape
        | _ =>
          obtain ⟨searched, hsearched, -⟩ := bind_eq_ok.1 h
          exact ⟨searched, hsearched⟩
      obtain ⟨_, -, hrest⟩ := bind_eq_ok.1 hsearch
      obtain ⟨_, hfield, -⟩ := bind_eq_ok.1 hrest
      exact conclude_isNoQueryError hfield response

end Executor

theorem Settings.request_eq_count_iff {settings : Settings} {r : Resolver} {q : Query}
    {shape : ResultShape} {request : Request} (h : settings.request r q shape = .ok request) :
    (∃ counted, request = .count counted) ↔ shape = .count := by
  cases shape with
  | count =>
    cases h
    exact ⟨fun _ => rfl, fun _ => ⟨_, rfl⟩⟩
  | _ =>
    obtain ⟨_, -, h⟩ := bind_eq_ok.1 h
    cases h
    exact ⟨nofun, nofun⟩

/-! ## The command line -/

namespace CommandLine

/-- What the command line makes of its files: the settings, the look-up of properties, the query and
the shape of its result. -/
def Prepares (o : Options) (file : String → Option String) (settings : Settings) (r : Resolver)
    (q : Query) (shape : ResultShape) : Prop :=
  ∃ index payload, load file IndexDeclaration.read o.schema = .ok index ∧
    index.validate = .ok () ∧ load file Payload.read o.query = .ok payload ∧
    settings = {
      index := index.name, maxResultWindow := o.maxResultWindow
      groupBucketSize := o.groupBucketSize, groupHitsSize := o.groupHitsSize } ∧
    settings.validate = .ok () ∧ r = ({ declaration := index } : Catalog).resolver ∧
    payload.toQuery r = .ok q ∧ shape = payload.shape

/-- A dry run prints the request that an execution sends. -/
theorem evaluate_dryRun {o : Options} {file : String → Option String} {settings : Settings}
    {r : Resolver} {q : Query} {shape : ResultShape} (h : Prepares o file settings r q shape)
    (hdry : o.dryRun = true) :
    evaluate o file = ((settings.request r q shape).mapError .query).map
      fun request => request.body.pretty := by
  obtain ⟨index, payload, hindex, hvalid, hpayload, rfl, hsettings, rfl, hquery, rfl⟩ := h
  simp only [evaluate, hindex, hvalid, hpayload, hsettings, hquery, hdry, ok_bind,
    mapError_ok, if_true]
  cases Settings.request _ _ _ _ <;> rfl

end CommandLine

/-! ## Main theorem -/

/-- An execution whose request cannot be built fails with the same error and sends nothing. Else it
sends this request and no other, one for a number exactly if the shape is a number, and whatever the
reply, its result is no query error. A dry run shows the request, or fails with the error. -/
theorem execute_sends {m : Type → Type} [Monad m] [LawfulMonad m] {α : Type} (settings : Settings)
    (t : Transport m) (r : Resolver) (transcoder : Transcoder α) (q : Query)
    (shape : ResultShape) :
    (∀ cause, settings.request r q shape = .error cause → ∀ log,
      ((Executor.mk settings t.recorded r).execute transcoder q shape).run log =
        pure (.error (.query cause), log)) ∧
    (∀ request, settings.request r q shape = .ok request →
      ((∃ counted, request = .count counted) ↔ shape = .count) ∧
      ∃ finish : Reply → Except ExecutionError (ExecutionResult α),
        (∀ reply cause, finish reply ≠ .error (.query cause)) ∧
        ∀ log, ((Executor.mk settings t.recorded r).execute transcoder q shape).run log =
          (fun reply => (finish reply, log ++ [request])) <$> t.send request) ∧
    ∀ o file, CommandLine.Prepares o file settings r q shape → o.dryRun = true →
      CommandLine.evaluate o file = ((settings.request r q shape).mapError .query).map
        fun request => request.body.pretty := by
  refine ⟨fun cause h log => ?_, fun request h => ⟨Settings.request_eq_count_iff h, ?_⟩,
    fun o file => CommandLine.evaluate_dryRun⟩
  · rw [Executor.execute_eq_finish, h]
    rfl
  · refine ⟨Executor.finish r transcoder q shape, Executor.finish_isNoQueryError h,
      fun log => ?_⟩
    rw [Executor.execute_eq_finish, h]
    simp only [StateT.run_map, Transport.run_send_recorded, Functor.map_map]

/-- A count does not look at the sort keys of a query. A collection that is sorted by a property the
index does not declare fails, and nothing is sent. -/
theorem execute_sends_ticket :
    let t := Store.transport ⟨[("tickets", [])]⟩
    let e := Executor.mk { index := "tickets" } t.recorded ticketIndex.resolver
    let q : Query := { sortKeys := [⟨"Owner", .asc⟩] }
    ((e.execute Transcoder.json q .count).run []).2 =
        [.count { index := "tickets", query := .matchAll }] ∧
      (e.execute Transcoder.json q .collection).run [] =
        (.error (.query (.unknownProperty "Owner")), []) := by
  intro t e q
  have hsends := execute_sends { index := "tickets" } t ticketIndex.resolver Transcoder.json q
  have hcount : e.settings.request e.resolver q .count =
      .ok (.count { index := "tickets", query := .matchAll }) := by rfl
  have hfails : e.settings.request e.resolver q .collection =
      .error (.unknownProperty "Owner") := by rfl
  obtain ⟨-, finish, -, hrun⟩ := (hsends .count).2.1 _ hcount
  refine ⟨?_, (hsends .collection).1 _ hfails []⟩
  rw [hrun []]
  rfl

end DocQuery
