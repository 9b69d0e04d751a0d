import KasGraph.GatewayServer
import KasGraph.WindowCounter

set_option autoImplicit false

/-! Runs of the gateway's server. What the limit lets through is read off the requests that came
in before, and the registry is the one that the accepted deployments and removals write. -/

namespace KasGraph

open Json (Value)
open WindowCounter

/-! ## The limit -/

/-- A request that the limit looks at: the key it is counted under and its minute. -/
def GatewayEvent.counted? : GatewayEvent → Option (String × Nat)
  | .arrive request => if request.method = "OPTIONS" then none else some (request.key, request.minute)
  | .finish _ _ => none

/-- The buckets hold the latest minute of every key with its stretch of requests. -/
def Buckets.Count (buckets : Buckets) (history : List (String × Nat)) : Prop :=
  ∀ key : String, buckets[key]? = (latest history key).map fun held => ⟨held.1, held.2⟩

section Limit

variable {limit : Int} {buckets : Buckets} {history : List (String × Nat)}

theorem Buckets.Count.empty : Buckets.Count ∅ [] := by
  intro key
  rfl

theorem Buckets.Count.insert (count : buckets.Count history) (key : String) (minute : Nat) :
    Buckets.Count (Std.ExtTreeMap.insert buckets key ⟨minute, stretch history key minute + 1⟩)
      (history ++ [(key, minute)]) := by
  intro other
  by_cases same : key = other
  · subst same
    rw [OrderedMap.get_insert_self, latest_snoc_self]
    rfl
  · rw [OrderedMap.get_insert_of_ne _ _ same, latest_snoc_of_ne history minute same]
    exact count other

/-- A request passes when the stretch it continues is below the limit. -/
theorem allowRequest_spec (limited : 0 < limit) (count : buckets.Count history)
    (request : HttpRequest) :
    ((allowRequest request limit buckets).1 = true ↔
        (stretch history request.key request.minute : Int) < limit) ∧
      Buckets.Count (allowRequest request limit buckets).2
        (history ++ [(request.key, request.minute)]) := by
  have inserted := count.insert request.key request.minute
  have held := count request.key
  have passes : (0 : Nat) < limit := limited
  unfold allowRequest
  rw [if_neg (by omega), held]
  unfold latest
  cases head : (windows history request.key).head? with
  | none =>
      have fresh := stretch_of_none history request.minute head
      rw [fresh] at inserted ⊢
      exact ⟨iff_of_true rfl passes, inserted⟩
  | some minute =>
      simp only [Option.map_some]
      split
      · rename_i other
        have fresh := stretch_of_head history request.minute head other
        rw [fresh] at inserted ⊢
        exact ⟨iff_of_true rfl passes, inserted⟩
      · rename_i same
        rw [not_not] at same
        subst same
        refine ⟨?_, inserted⟩
        rw [decide_eq_true_iff]
        omega

end Limit

namespace Gateway

variable {codec : BundleCodec} {parse : String → Option Value} {options : GatewayOptions}

/-- A step counts what comes in and nothing else. -/
theorem step_buckets {gateway : Gateway} {history : List (String × Nat)}
    (limited : 0 < options.rateLimitPerMinute) (count : gateway.buckets.Count history)
    (event : GatewayEvent) :
    (gateway.step codec parse options event).buckets.Count (history ++ event.counted?.toList) := by
  cases event with
  | finish position refused =>
      rw [show (GatewayEvent.finish position refused).counted?.toList = [] from rfl,
        List.append_nil]
      simp only [step, finish]
      split <;> exact count
  | arrive request =>
      simp only [step, arrive, GatewayEvent.counted?]
      split
      · rw [Option.toList_none, List.append_nil]
        exact count
      · have spec := (allowRequest_spec limited count request).2
        rw [Option.toList_some]
        split
        · exact spec
        · split
          · exact spec
          · split <;> exact spec

theorem runEach_buckets {gateway : Gateway} {history : List (String × Nat)}
    (limited : 0 < options.rateLimitPerMinute) (count : gateway.buckets.Count history)
    (events : List GatewayEvent) :
    (gateway.runEach codec parse options events).buckets.Count
      (history ++ events.filterMap GatewayEvent.counted?) := by
  induction events generalizing gateway history with
  | nil =>
      rw [List.filterMap_nil, List.append_nil]
      exact count
  | cons event rest ih =>
      have stepped := ih (@step_buckets codec parse options gateway history limited count event)
      cases counts : event.counted? with
      | none =>
          rw [List.filterMap_cons_none counts]
          rw [counts, Option.toList_none, List.append_nil] at stepped
          exact stepped
      | some item =>
          rw [List.filterMap_cons_some counts]
          rw [counts, Option.toList_some, List.append_assoc] at stepped
          exact stepped

/-- The request is turned away by the limit. -/
def Limits (options : GatewayOptions) (gateway : Gateway) (request : HttpRequest) : Prop :=
  gateway.arrive options request =
    { gateway with
      buckets := (allowRequest request options.rateLimitPerMinute gateway.buckets).2
      answered := gateway.answered ++
        [(request, .sent 429 (errorBody "rate limit exceeded"))] }

/-- A request is turned away when the allowance of its minute is used up. -/
theorem limits_iff (gateway : Gateway) (request : HttpRequest) :
    gateway.Limits options request ↔ request.method ≠ "OPTIONS" ∧
      (allowRequest request options.rateLimitPerMinute gateway.buckets).1 = false := by
  have apart : ∀ (first second : List (HttpRequest × Reply)) (one other : HttpRequest × Reply),
      first ++ [one] = first ++ [other] → one = other := by
    intro first second one other same
    simpa using same
  unfold Limits arrive
  constructor
  · intro turned
    split at turned
    · have same := apart _ [] _ _ (congrArg Gateway.answered turned)
      simp at same
    · rename_i counted
      refine ⟨counted, ?_⟩
      cases allowed : (allowRequest request options.rateLimitPerMinute gateway.buckets).1 with
      | false => rfl
      | true =>
          simp only [allowed, Bool.not_true, Bool.false_eq_true, if_false] at turned
          split at turned
          · have same := apart _ [] _ _ (congrArg Gateway.answered turned)
            simp at same
          · split at turned
            · have same := apart _ [] _ _ (congrArg Gateway.answered turned)
              simp [errorBody] at same
            · have same := congrArg Gateway.answered turned
              simp at same
  · rintro ⟨counted, refused⟩
    rw [if_neg counted]
    simp only [refused]
    rfl

/-- The limit is exact along every run: a request is turned away exactly when it is no preflight,
there is a limit, and as many requests of its address came in a row in its minute. While the clock
does not run back these are all requests of the address in that minute. -/
theorem limit_is_exact (codec : BundleCodec) (parse : String → Option Value)
    (options : GatewayOptions) (registry : Registry) (events : List GatewayEvent)
    (request : HttpRequest) :
    let gateway := (start registry).runEach codec parse options events
    let history := events.filterMap GatewayEvent.counted?
    (gateway.Limits options request ↔ request.method ≠ "OPTIONS" ∧
        0 < options.rateLimitPerMinute ∧
        options.rateLimitPerMinute ≤ stretch history request.key request.minute) ∧
      (((history ++ [(request.key, request.minute)]).map Prod.snd).Pairwise (· ≤ ·) →
        stretch history request.key request.minute =
          history.countP fun item => item.2 = request.minute && item.1 = request.key) := by
  intro gateway history
  refine ⟨?_, ?_⟩
  · rw [limits_iff]
    apply and_congr_right
    intro _
    by_cases limited : 0 < options.rateLimitPerMinute
    · have count := @runEach_buckets codec parse options (start registry) [] limited .empty events
      rw [List.nil_append] at count
      have passes := (allowRequest_spec limited count request).1
      rw [← Bool.not_eq_true, passes]
      simp [limited, history]
    · have free : (allowRequest request options.rateLimitPerMinute gateway.buckets).1 = true := by
        unfold allowRequest
        rw [if_pos (not_lt.mp limited)]
      simp [free, limited]
  · intro forward
    rw [List.map_append, List.pairwise_append] at forward
    obtain ⟨earlier, -, before⟩ := forward
    apply stretch_eq_count earlier
    intro item member
    exact before item.2 (List.mem_map_of_mem member) _ (by simp)

end Gateway

/-! ## The registry -/

/-- What a request of the deploy endpoint asks to be written. -/
inductive RegistryWrite where
  | deploy (input : DeploySubgraphInput)
  | remove (subgraph : String)

def RegistryWrite.apply (codec : BundleCodec) (registry : Registry) : RegistryWrite → Registry
  | .deploy input => registry.upsertSubgraphDeployment input.subgraphId (input.row codec)
  | .remove subgraph => registry.setSubgraphRemoved subgraph

namespace Gateway

section Writes

variable (codec : BundleCodec) (parse : String → Option Value)

/-- A bundle posted to the collection, or the deletion of a subgraph. -/
def requestedWrite (request : HttpRequest) : Option RegistryWrite :=
  match readBody parse request, pathSegments (pathname request.url) with
  | .ok body, first :: rest =>
      if first = "subgraphs".toList then
        match body, rest with
        | some body, [] =>
            if request.method = "POST" then
              (parseDeployBundle codec body).toOption.map .deploy
            else none
        | _, id :: _ =>
            if request.method = "DELETE" then some (.remove (String.ofList id)) else none
        | _, _ => none
      else none
  | _, _ => none

/-- The write of a request that was answered with success. -/
def acceptedWrite : HttpRequest × Reply → Option RegistryWrite
  | (request, .sent 200 _) => requestedWrite codec parse request
  | _ => none

end Writes

variable {codec : BundleCodec} {parse : String → Option Value} {options : GatewayOptions}

/-- What the deploy endpoint can do. -/
inductive Endpoint (codec : BundleCodec) (token : Option String) (request : DeployRequest)
    (registry : Registry) : Except String DeployResponse → Registry → Prop where
  | kept {result : Except String DeployResponse}
      (reading : ∀ response, result = .ok response → response.status = 200 →
        request.method = "GET") :
      Endpoint codec token request registry result registry
  | deployed {body : Value} {input : DeploySubgraphInput} {answer : Value}
      (authorized : isAuthorized request.authorization token = true)
      (path : pathSegments request.path = ["subgraphs".toList]) (method : request.method = "POST")
      (posted : request.body = some body) (bundle : parseDeployBundle codec body = .ok input) :
      Endpoint codec token request registry (.ok ⟨200, answer⟩)
        (registry.upsertSubgraphDeployment input.subgraphId (input.row codec))
  | removed {id : List Char} {rest : List (List Char)} {answer : Value}
      (authorized : isAuthorized request.authorization token = true)
      (path : pathSegments request.path = "subgraphs".toList :: id :: rest)
      (method : request.method = "DELETE") :
      Endpoint codec token request registry (.ok ⟨200, answer⟩)
        (registry.setSubgraphRemoved (String.ofList id))

theorem Endpoint.refusal {token : Option String} {request : DeployRequest} {registry : Registry}
    {status : Nat} {body : Value} (refused : status ≠ 200) :
    Endpoint codec token request registry (.ok ⟨status, body⟩) registry := by
  apply Endpoint.kept
  intro response same success
  cases same
  exact absurd success refused

theorem Endpoint.failure {token : Option String} {request : DeployRequest} {registry : Registry}
    {message : String} : Endpoint codec token request registry (.error message) registry := by
  apply Endpoint.kept
  intro response same
  cases same

theorem removeSubgraph_cases (registry : Registry) (subgraph : String) :
    removeSubgraph registry subgraph = (false, registry) ∨
      removeSubgraph registry subgraph = (true, registry.setSubgraphRemoved subgraph) := by
  unfold removeSubgraph
  split
  · split
    · exact Or.inl rfl
    · exact Or.inr rfl
  · exact Or.inl rfl

theorem handleDeployRequest_cases (token refused : Option String) (request : DeployRequest)
    (registry : Registry) :
    Endpoint codec token request registry
      (handleDeployRequest codec token refused request registry).1
      (handleDeployRequest codec token refused request registry).2 := by
  unfold handleDeployRequest
  cases path : pathSegments request.path with
  | nil => exact .refusal (by decide)
  | cons first rest =>
      simp only
      split
      · exact .refusal (by decide)
      · rename_i here
        rw [not_not] at here
        subst here
        split
        · exact .refusal (by decide)
        · rename_i passes
          split
          · rename_i posting
            have method : request.method = "POST" := beq_iff_eq.mp posting
            have authorized : isAuthorized request.authorization token = true := by
              simpa [requiresAuth, method] using passes
            cases posted : request.body with
            | none => exact .refusal (by decide)
            | some body =>
                simp only [Option.elim_some]
                cases bundle : parseDeployBundle codec body with
                | error message => exact .refusal (by decide)
                | ok input =>
                    cases refused with
                    | some message => exact .failure
                    | none => exact .deployed authorized path method posted bundle
          · exact .refusal (by decide)
          · rename_i segments id others
            split
            · exact .refusal (by decide)
            · split
              · rename_i getting
                cases refused with
                | some message => exact .failure
                | none =>
                    simp only [query]
                    cases fetchSubgraphDeployment registry (String.ofList id) with
                    | none => exact .refusal (by decide)
                    | some row =>
                        exact .kept fun response same success => beq_iff_eq.mp getting
              · split
                · rename_i deleting
                  have method : request.method = "DELETE" := beq_iff_eq.mp deleting
                  have authorized : isAuthorized request.authorization token = true := by
                    simpa [requiresAuth, method] using passes
                  cases refused with
                  | some message => exact .failure
                  | none =>
                      simp only [query]
                      rcases removeSubgraph_cases registry (String.ofList id) with same | same <;>
                        rw [same]
                      · exact .refusal (by decide)
                      · exact .removed authorized path method
                · exact .refusal (by decide)

/-- A request either is answered with success and writes what it asks for, or writes nothing. A
write is authorized. -/
theorem handle_writes (refused : Option String) (request : HttpRequest) (registry : Registry) :
    let handled := handle codec parse options refused request registry
    let write := acceptedWrite codec parse (request, handled.1)
    handled.2 = write.elim registry (RegistryWrite.apply codec registry) ∧
      (write.isSome → isAuthorized request.authorization options.deployToken = true) := by
  intro handled write
  simp only [handled, write, handle]
  cases read : readBody parse request with
  | error unreadable => exact ⟨rfl, fun some => by cases some⟩
  | ok body =>
      simp only
      have endpoint := @handleDeployRequest_cases codec options.deployToken refused
        (deployRequest request body) registry
      rcases answered : handleDeployRequest codec options.deployToken refused
        (deployRequest request body) registry with ⟨message | response, after⟩ <;>
        rw [answered] at endpoint
      · cases endpoint
        exact ⟨rfl, fun some => by cases some⟩
      · obtain ⟨status, answer⟩ := response
        cases endpoint with
        | kept reading =>
            by_cases success : status = 200
            · have method : request.method = "GET" := reading _ rfl success
              subst success
              have none : requestedWrite codec parse request = none := by
                unfold requestedWrite
                rw [read, method]
                split
                · split
                  · split <;> rfl
                  · rfl
                · rfl
              simp only [acceptedWrite, none]
              exact ⟨rfl, fun some => by cases some⟩
            · have none : acceptedWrite codec parse (request, .sent status (some answer)) = none := by
                unfold acceptedWrite
                split
                · rename_i same
                  cases same
                  exact absurd rfl success
                · rfl
              simp only [none]
              exact ⟨rfl, fun some => by cases some⟩
        | @deployed posted' input answer authorized path method posted bundle =>
            change request.method = "POST" at method
            change pathSegments (pathname request.url) = _ at path
            change body = _ at posted
            have write : requestedWrite codec parse request = some (.deploy input) := by
              unfold requestedWrite
              rw [read, path, posted]
              simp only [if_true, method, bundle]
              rfl
            simp only [acceptedWrite, write]
            exact ⟨rfl, fun _ => authorized⟩
        | @removed id rest answer authorized path method =>
            change request.method = "DELETE" at method
            change pathSegments (pathname request.url) = _ at path
            have write : requestedWrite codec parse request = some (.remove (String.ofList id)) := by
              unfold requestedWrite
              rw [read, path]
              cases body <;> simp only [if_true, method]
            simp only [acceptedWrite, write]
            exact ⟨rfl, fun _ => authorized⟩

/-- The requests that came in but were not handed to the deploy endpoint write nothing. -/
theorem arrive_writes (gateway : Gateway) (request : HttpRequest) :
    (gateway.arrive options request).registry = gateway.registry ∧
      ∃ replies, (gateway.arrive options request).answered = gateway.answered ++ replies ∧
        ∀ reply ∈ replies, acceptedWrite codec parse reply = none := by
  have plain : ∀ reply, (∀ body, reply ≠ .sent 200 body) →
      acceptedWrite codec parse (request, reply) = none := by
    intro reply refused
    unfold acceptedWrite
    split
    · rename_i same
      cases same
      exact absurd rfl (refused _)
    · rfl
  unfold arrive
  split
  · exact ⟨rfl, _, rfl, List.forall_mem_singleton.mpr (plain _ fun body same => by cases same)⟩
  · simp only
    split
    · exact ⟨rfl, _, rfl, List.forall_mem_singleton.mpr (plain _ fun body same => by cases same)⟩
    · split
      · exact ⟨rfl, _, rfl, List.forall_mem_singleton.mpr (plain _ fun body same => by cases same)⟩
      · split
        · exact ⟨rfl, _, rfl,
            List.forall_mem_singleton.mpr (plain _ fun body same => by cases same)⟩
        · exact ⟨rfl, [], (List.append_nil _).symm, List.forall_mem_nil _⟩

/-- The registry is written by the accepted requests, and these were authorized. -/
structure Accounts (codec : BundleCodec) (parse : String → Option Value)
    (options : GatewayOptions) (begun : Registry) (gateway : Gateway) : Prop where
  registry : gateway.registry =
    (gateway.answered.filterMap (acceptedWrite codec parse)).foldl (RegistryWrite.apply codec) begun
  authorized : ∀ reply ∈ gateway.answered, (acceptedWrite codec parse reply).isSome →
    isAuthorized reply.1.authorization options.deployToken = true

theorem step_accounts {begun : Registry} {gateway : Gateway}
    (accounts : gateway.Accounts codec parse options begun) (event : GatewayEvent) :
    (gateway.step codec parse options event).Accounts codec parse options begun := by
  cases event with
  | arrive request =>
      obtain ⟨same, replies, answered, silent⟩ :=
        @arrive_writes codec parse options gateway request
      have none : replies.filterMap (acceptedWrite codec parse) = [] :=
        List.filterMap_eq_nil_iff.mpr silent
      refine ⟨?_, ?_⟩
      · rw [step, same, answered, List.filterMap_append, none, List.append_nil]
        exact accounts.registry
      · rw [step, answered, List.forall_mem_append]
        refine ⟨accounts.authorized, ?_⟩
        intro reply member some
        rw [silent reply member] at some
        cases some
  | finish position refused =>
      simp only [step, finish]
      cases gateway.waiting[position]? with
      | none => exact accounts
      | some request =>
          obtain ⟨written, authorized⟩ :=
            @handle_writes codec parse options refused request gateway.registry
          simp only [answer]
          refine ⟨?_, ?_⟩
          · simp only [List.filterMap_append, List.filterMap_cons, List.filterMap_nil,
              List.foldl_append]
            rw [written, ← accounts.registry]
            cases acceptedWrite codec parse (request,
              (handle codec parse options refused request gateway.registry).1) <;> rfl
          · rw [List.forall_mem_append, List.forall_mem_singleton]
            exact ⟨accounts.authorized, authorized⟩

end Gateway

end KasGraph
