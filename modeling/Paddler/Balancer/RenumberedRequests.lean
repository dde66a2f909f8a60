import Paddler.Balancer.InferenceSocket

/-!
# One request more

What a request that was answered at once changes for the others: nothing but their numbers.  A state
with one more entry in its list of requests is compared with the state without it; in the former
every request that comes later has a number that is higher by one, in the collections and in the
labels of responses too.

* `step_withRequest` — a step of the one is a step of the other.
* `run_withRequest` — a run of the one is a run of the other.
* `numbersBelow_step` — every number in the state is the number of a request.
* `run_answered` — **a request that was answered at once changes nothing for the others**.
-/

set_option autoImplicit false

namespace Paddler

open AssocList Run VecUpdate

/-! ## The state with one more request -/

namespace InferenceRequest

/-- The request, with the numbers that the origins of its responses have after a request was
inserted. -/
def renumbered (n : Nat) (self : InferenceRequest) : InferenceRequest :=
  { self with
    responseRx := self.responseRx.map fun response => (afterInsert n response.1, response.2)
    taken := self.taken.map fun response => (afterInsert n response.1, response.2) }

variable (n : Nat) (r : InferenceRequest)

theorem renumbered_advanced (input : RequestInput GeneratedTokenResult) :
    (r.renumbered n).advanced input = (r.advanced input).renumbered n := by
  unfold advanced renumbered
  dsimp only
  split <;> rfl

end InferenceRequest

namespace InferenceCluster

/-- The state with the request `x` at `n`. -/
def withRequest (n : Nat) (x : InferenceRequest) (s : InferenceCluster) : InferenceCluster :=
  { s with
    requests := (s.requests.map (·.renumbered n)).insertIdx n x
    requestCancellationTokens := mapValues (afterInsert n) s.requestCancellationTokens
    senders := mapValues (afterInsert n) s.senders
    stoppers := mapValues (afterInsert n) s.stoppers }

variable (n k : Nat) (x : InferenceRequest) (s : InferenceCluster)

theorem getElem?_withRequest :
    (s.withRequest n x).requests[afterInsert n k]? = (s.requests[k]?).map (·.renumbered n) := by
  show ((s.requests.map _).insertIdx n x)[afterInsert n k]? = _
  rw [getElem?_insertIdx_afterInsert, List.getElem?_map]

theorem set_withRequest (r : InferenceRequest) :
    (s.withRequest n x).requests.set (afterInsert n k) (r.renumbered n) =
      ((s.requests.set k r).map (·.renumbered n)).insertIdx n x := by
  show ((s.requests.map _).insertIdx n x).set (afterInsert n k) _ = _
  rw [set_insertIdx, List.map_set]

theorem setRequest_withRequest (r : InferenceRequest) :
    { s.withRequest n x with
      requests := (s.withRequest n x).requests.set (afterInsert n k) (r.renumbered n) } =
      { s with requests := s.requests.set k r }.withRequest n x := by
  rw [set_withRequest]
  rfl

end InferenceCluster

/-! ## The senders -/

namespace ManagesSenders

theorem dropController_mapValues (f : Nat → Nat) (senders : List (String × Nat))
    (requestId : String) :
    dropController (mapValues f senders) requestId =
      mapValues f (dropController senders requestId) := by
  unfold dropController deregisterSender
  rw [lookup_mapValues]
  cases senders.lookup requestId with
  | none => rfl
  | some sender => exact eraseKey_mapValues f requestId senders

end ManagesSenders

/-! ## One step -/

/-- The input, for the state with one more request. -/
def ClusterInput.renumbered (n : Nat) : ClusterInput → ClusterInput
  | .act k action => .act (afterInsert n k) action
  | input => input

namespace InferenceCluster

variable {n : Nat} {x : InferenceRequest} {s : InferenceCluster} (k : Nat) (r : InferenceRequest)

theorem advance_withRequest (input : RequestInput GeneratedTokenResult) :
    (s.withRequest n x).advance (afterInsert n k) (r.renumbered n) input =
      (s.advance k r input).withRequest n x := by
  unfold advance
  rw [r.renumbered_advanced]
  dsimp only
  have hphase : ((r.advanced input).renumbered n).request.phase =
      (r.advanced input).request.phase := rfl
  rw [hphase, set_withRequest]
  split
  · unfold withRequest
    dsimp only
    rw [eraseKey_mapValues]
    have hcontroller : (r.renumbered n).controller = r.controller := rfl
    have hid : (r.renumbered n).requestId = r.requestId := rfl
    rw [hcontroller, hid]
    split
    · rw [ManagesSenders.dropController_mapValues]
      rfl
    · rfl
  · rfl

theorem select_withRequest (input : RequestInput GeneratedTokenResult) :
    (s.withRequest n x).select (afterInsert n k) (r.renumbered n) input =
      (s.select k r input).withRequest n x := by
  unfold select
  have hcancelled : ((r.renumbered n).cancelled || (s.withRequest n x).closedConnections.contains
      (r.renumbered n).connection) =
      (r.cancelled || s.closedConnections.contains r.connection) := rfl
  rw [hcancelled]
  split
  · rfl
  · rfl
  · split
    · exact advance_withRequest k r input
    · rfl
  · exact advance_withRequest k r input

theorem registerSender_withRequest (sendSucceeds : Bool) :
    (s.withRequest n x).registerSender (afterInsert n k) (r.renumbered n) sendSucceeds =
      (s.registerSender k r sendSucceeds).withRequest n x := by
  unfold registerSender ManagesSenders.registerSender
  have hlookup : (s.withRequest n x).senders.lookup (r.renumbered n).requestId =
      (s.senders.lookup r.requestId).map (afterInsert n) := lookup_mapValues _ _ _
  rw [hlookup]
  cases s.senders.lookup r.requestId with
  | some sender => exact advance_withRequest k r _
  | none =>
    have hinsert : insertKey (r.renumbered n).requestId (afterInsert n k)
        (s.withRequest n x).senders = mapValues (afterInsert n)
          (insertKey r.requestId k s.senders) := insertKey_mapValues _ _ _ _
    dsimp only [Option.map_none]
    rw [hinsert]
    have hset := set_withRequest n k x s { r with controller := true }
    have hrenumbered : ({ r with controller := true } : InferenceRequest).renumbered n =
        { r.renumbered n with controller := true } := rfl
    rw [hrenumbered] at hset
    rw [hset]
    rfl

theorem sendRpcMessage_withRequest (agent : Nat) (sent sendSucceeds : Bool) :
    (s.withRequest n x).sendRpcMessage (afterInsert n k) (r.renumbered n) agent sent sendSucceeds =
      (s.sendRpcMessage k r agent sent sendSucceeds).withRequest n x := by
  unfold sendRpcMessage
  split
  · exact advance_withRequest k { r with agent := agent, toAgent := r.toAgent ++ [.request] } _
  · exact advance_withRequest k r _

theorem recv_withRequest (sendSucceeds : Bool) (stopOutcome : AgentStopOutcome) :
    (s.withRequest n x).recv (afterInsert n k) (r.renumbered n) sendSucceeds stopOutcome =
      (s.recv k r sendSucceeds stopOutcome).withRequest n x := by
  unfold recv
  have hphase : (r.renumbered n).request.phase = r.request.phase := rfl
  have hrx : (r.renumbered n).responseRx =
      r.responseRx.map fun response => (afterInsert n response.1, response.2) := rfl
  rw [hphase, hrx]
  cases r.request.phase with
  | forwarding mode =>
    cases r.responseRx with
    | nil => rfl
    | cons response responseRx =>
      obtain ⟨origin, response⟩ := response
      have hadvance := advance_withRequest (n := n) (x := x) (s := s) k
        { r with responseRx := responseRx, taken := r.taken ++ [(origin, response)] }
        ⟨.recv (some response), sendSucceeds, stopOutcome⟩
      rw [← hadvance]
      simp [InferenceRequest.renumbered]
  | _ => rfl

theorem agentReceives_withRequest :
    (s.withRequest n x).agentReceives (afterInsert n k) (r.renumbered n) =
      (s.agentReceives k r).withRequest n x := by
  unfold agentReceives
  have hlookup : (s.withRequest n x).stoppers.lookup ((r.renumbered n).agent,
      (r.renumbered n).requestId) = (s.stoppers.lookup (r.agent, r.requestId)).map
      (afterInsert n) := lookup_mapValues _ _ _
  have htoAgent : (r.renumbered n).toAgent = r.toAgent := rfl
  rw [hlookup, htoAgent]
  split
  · rfl
  · rename_i toAgent _
    cases s.stoppers.lookup (r.agent, r.requestId) with
    | some j => exact setRequest_withRequest n k x s { r with toAgent := toAgent }
    | none =>
      have hinsert : insertKey ((r.renumbered n).agent, (r.renumbered n).requestId)
          (afterInsert n k)
          (s.withRequest n x).stoppers =
          mapValues (afterInsert n) (insertKey (r.agent, r.requestId) k s.stoppers) :=
        insertKey_mapValues _ _ _ _
      have hset : (s.withRequest n x).requests.set (afterInsert n k)
          { r.renumbered n with toAgent := toAgent, generation := .running false } = _ :=
        set_withRequest n k x s { r with toAgent := toAgent, generation := .running false }
      dsimp only [Option.map_none]
      rw [hinsert, hset]
      rfl
  · rename_i toAgent _
    have hset : (s.withRequest n x).requests.set (afterInsert n k)
        { r.renumbered n with toAgent := toAgent } =
          ({ s with requests := s.requests.set k { r with toAgent := toAgent } }.withRequest n
            x).requests :=
      set_withRequest n k x s { r with toAgent := toAgent }
    cases s.stoppers.lookup (r.agent, r.requestId) with
    | none => exact setRequest_withRequest n k x s { r with toAgent := toAgent }
    | some j =>
      dsimp only [Option.map_some]
      rw [hset, getElem?_withRequest]
      dsimp only
      cases hstopped : (s.requests.set k { r with toAgent := toAgent })[j]? with
      | none => rfl
      | some stopped =>
        exact setRequest_withRequest n j x
          { s with requests := s.requests.set k { r with toAgent := toAgent } }
          { stopped with generation := .running true }

theorem generate_withRequest (response : GeneratedTokenResult)
    (ifStopped : Option GeneratedTokenResult) :
    (s.withRequest n x).generate (afterInsert n k) (r.renumbered n) response ifStopped =
      (s.generate k r response ifStopped).withRequest n x := by
  unfold generate
  have hgeneration : (r.renumbered n).generation = r.generation := rfl
  rw [hgeneration]
  split
  · rfl
  · exact setRequest_withRequest n k x s { r with fromAgent := r.fromAgent ++ [_] }

theorem generationEnds_withRequest :
    (s.withRequest n x).generationEnds (afterInsert n k) (r.renumbered n) =
      (s.generationEnds k r).withRequest n x := by
  unfold generationEnds
  have hgeneration : (r.renumbered n).generation = r.generation := rfl
  rw [hgeneration]
  split
  · rfl
  · have herase : eraseKey ((r.renumbered n).agent, (r.renumbered n).requestId)
        (s.withRequest n x).stoppers = mapValues (afterInsert n)
          (eraseKey (r.agent, r.requestId) s.stoppers) := eraseKey_mapValues _ _ _
    have hset : (s.withRequest n x).requests.set (afterInsert n k)
        { r.renumbered n with generation := .absent } = _ :=
      set_withRequest n k x s { r with generation := .absent }
    rw [herase, hset]
    rfl

theorem forwardResponse_withRequest :
    (s.withRequest n x).forwardResponse (afterInsert n k) (r.renumbered n) =
      (s.forwardResponse k r).withRequest n x := by
  unfold forwardResponse ManagesSenders.forwardResponse
  have hlookup : (s.withRequest n x).senders.lookup (r.renumbered n).requestId =
      (s.senders.lookup r.requestId).map (afterInsert n) := lookup_mapValues _ _ _
  have hfromAgent : (r.renumbered n).fromAgent = r.fromAgent := rfl
  rw [hlookup, hfromAgent]
  split
  · rfl
  · rename_i response fromAgent _
    have hset : (s.withRequest n x).requests.set (afterInsert n k)
        { r.renumbered n with fromAgent := fromAgent } =
        ({ s with requests := s.requests.set k { r with fromAgent := fromAgent } }.withRequest n
          x).requests :=
      set_withRequest n k x s { r with fromAgent := fromAgent }
    cases s.senders.lookup r.requestId with
    | none => exact setRequest_withRequest n k x s { r with fromAgent := fromAgent }
    | some j =>
      dsimp only [Option.map_some]
      rw [hset, getElem?_withRequest]
      dsimp only
      cases htarget : (s.requests.set k { r with fromAgent := fromAgent })[j]? with
      | none => rfl
      | some target =>
        have htarget := setRequest_withRequest n j x
          { s with requests := s.requests.set k { r with fromAgent := fromAgent } }
          { target with responseRx := target.responseRx ++ [(k, response)] }
        rw [← htarget]
        simp [InferenceRequest.renumbered, withRequest]

theorem act_withRequest (action : RequestAction) :
    (s.withRequest n x).act (afterInsert n k) (r.renumbered n) action =
      (s.act k r action).withRequest n x := by
  have hphase : (r.renumbered n).request.phase = r.request.phase := rfl
  have hcontroller : (r.renumbered n).controller = r.controller := rfl
  unfold act
  cases action with
  | select input =>
    dsimp only
    rw [hphase]
    split
    · rfl
    · exact select_withRequest k r input
  | registerSender sendSucceeds =>
    dsimp only
    rw [hphase, hcontroller]
    split
    · exact registerSender_withRequest k r sendSucceeds
    · rfl
  | sendRpcMessage agent sent sendSucceeds =>
    dsimp only
    rw [hphase, hcontroller]
    split
    · exact sendRpcMessage_withRequest k r agent sent sendSucceeds
    · rfl
  | recv sendSucceeds stopOutcome => exact recv_withRequest k r sendSucceeds stopOutcome
  | agentReceives => exact agentReceives_withRequest k r
  | generate response ifStopped => exact generate_withRequest k r response ifStopped
  | generationEnds => exact generationEnds_withRequest k r
  | forwardResponse => exact forwardResponse_withRequest k r
  | connectionLost => exact setRequest_withRequest n k x s { r with toAgent := [], fromAgent := [] }

theorem cancel_withRequest (connection : Nat) (requestId : String) :
    (s.withRequest n x).cancel connection requestId =
      (s.cancel connection requestId).withRequest n x := by
  unfold cancel
  have hlookup : (s.withRequest n x).requestCancellationTokens.lookup (connection, requestId) =
      (s.requestCancellationTokens.lookup (connection, requestId)).map (afterInsert n) :=
    lookup_mapValues _ _ _
  rw [hlookup]
  cases s.requestCancellationTokens.lookup (connection, requestId) with
  | none => rfl
  | some k =>
    dsimp only [Option.map_some]
    rw [getElem?_withRequest]
    cases s.requests[k]? with
    | none => rfl
    | some r => exact setRequest_withRequest n k x s { r with cancelled := true }

theorem push_withRequest (hn : n ≤ s.requests.length) (r : InferenceRequest) :
    (s.withRequest n x).requests ++ [r.renumbered n] =
      ((s.requests ++ [r]).map (·.renumbered n)).insertIdx n x := by
  have hlen : n ≤ (s.requests.map (·.renumbered n)).length := by rwa [List.length_map]
  show (s.requests.map _).insertIdx n x ++ _ = _
  rw [insertIdx_push hlen, List.map_append]
  rfl

theorem handleInferenceRequest_withRequest (hn : n ≤ s.requests.length) (connection : Nat)
    (requestId : String) (mode : ClusterTokenGenerationMode) (sendSucceeds : Bool) :
    (s.withRequest n x).handleInferenceRequest connection requestId mode sendSucceeds =
      (s.handleInferenceRequest connection requestId mode sendSucceeds).withRequest n x := by
  have hanswered : ∀ message, (s.withRequest n x).requests ++
      [InferenceRequest.answered connection requestId s.inferenceItemTimeout message sendSucceeds] =
      ((s.requests ++ [InferenceRequest.answered connection requestId s.inferenceItemTimeout message
        sendSucceeds]).map (·.renumbered n)).insertIdx n x :=
    fun message => push_withRequest hn
      (.answered connection requestId s.inferenceItemTimeout message sendSucceeds)
  have hlookup : (s.withRequest n x).requestCancellationTokens.lookup (connection, requestId) =
      (s.requestCancellationTokens.lookup (connection, requestId)).map (afterInsert n) :=
    lookup_mapValues _ _ _
  have htimeout : (s.withRequest n x).inferenceItemTimeout = s.inferenceItemTimeout := rfl
  unfold handleInferenceRequest
  rw [hlookup, htimeout]
  cases mode with
  | disabledForEmbeddings =>
    dsimp only
    rw [hanswered]
    rfl
  | enabled =>
    dsimp only
    cases s.requestCancellationTokens.lookup (connection, requestId) with
    | some k =>
      dsimp only [Option.map_some]
      rw [hanswered]
      rfl
    | none =>
      dsimp only [Option.map_none]
      have hpush : (s.withRequest n x).requests ++
          [InferenceRequest.new connection requestId s.inferenceItemTimeout] = _ :=
        push_withRequest hn (.new connection requestId s.inferenceItemTimeout)
      have hlength : (s.withRequest n x).requests.length = afterInsert n s.requests.length := by
        rw [afterInsert_of_le hn]
        show ((s.requests.map _).insertIdx n x).length = _
        rw [List.length_insertIdx_of_le_length (by rwa [List.length_map]), List.length_map]
      have hinsert : insertKey (connection, requestId) (afterInsert n s.requests.length)
          (s.withRequest n x).requestCancellationTokens =
          mapValues (afterInsert n)
            (insertKey (connection, requestId) s.requests.length s.requestCancellationTokens) :=
        insertKey_mapValues _ _ _ _
      rw [hpush, hlength, hinsert]
      rfl

/-- **A step with one more request** is a step without it. -/
theorem step_withRequest (hn : n ≤ s.requests.length) (input : ClusterInput) :
    (s.withRequest n x).step (input.renumbered n) = (s.step input).withRequest n x := by
  unfold step
  cases input with
  | request connection requestId mode sendSucceeds =>
    exact handleInferenceRequest_withRequest hn connection requestId mode sendSucceeds
  | stopRespondingTo connection requestId => exact cancel_withRequest connection requestId
  | connectionClose connection => rfl
  | act k action =>
    dsimp only [ClusterInput.renumbered]
    rw [getElem?_withRequest]
    cases s.requests[k]? with
    | none => rfl
    | some r => exact act_withRequest k r action

end InferenceCluster

/-! ## No number is made up -/

/-- The responses in the channel and taken from it are of requests below `m`. -/
def InferenceRequest.OriginsBelow (m : Nat) (r : InferenceRequest) : Prop :=
  ∀ response ∈ r.responseRx ++ r.taken, response.1 < m

/-- Every number in the state is below `m`. -/
structure NumbersBelow (m : Nat) (s : InferenceCluster) : Prop where
  tokens : ∀ entry ∈ s.requestCancellationTokens, entry.2 < m
  senders : ∀ entry ∈ s.senders, entry.2 < m
  stoppers : ∀ entry ∈ s.stoppers, entry.2 < m
  origins : ∀ r ∈ s.requests, r.OriginsBelow m

namespace NumbersBelow

variable {m k : Nat} {s : InferenceCluster} {r r' : InferenceRequest}

theorem eraseKey {κ : Type} [BEq κ] {entries : List (κ × Nat)} (h : ∀ entry ∈ entries, entry.2 < m)
    (key : κ) : ∀ entry ∈ AssocList.eraseKey key entries, entry.2 < m :=
  fun entry hentry => h entry (List.mem_filter.mp hentry).1

theorem insertKey {κ : Type} [BEq κ] {entries : List (κ × Nat)} (h : ∀ entry ∈ entries, entry.2 < m)
    (key : κ) (hk : k < m) : ∀ entry ∈ AssocList.insertKey key k entries, entry.2 < m := by
  intro entry hentry
  rcases List.mem_cons.mp hentry with rfl | hentry
  · exact hk
  · exact eraseKey h key entry hentry

theorem dropController {senders : List (String × Nat)} (h : ∀ entry ∈ senders, entry.2 < m)
    (requestId : String) : ∀ entry ∈ ManagesSenders.dropController senders requestId,
    entry.2 < m := by
  unfold ManagesSenders.dropController ManagesSenders.deregisterSender
  cases senders.lookup requestId with
  | none => exact h
  | some sender => exact eraseKey h requestId

theorem set (h : NumbersBelow m s) (k : Nat) (hr : r'.OriginsBelow m) :
    NumbersBelow m { s with requests := s.requests.set k r' } := by
  refine ⟨h.tokens, h.senders, h.stoppers, fun r hmem => ?_⟩
  rcases List.mem_or_eq_of_mem_set hmem with hmem | rfl
  · exact h.origins r hmem
  · exact hr

theorem advance (h : NumbersBelow m s) (k : Nat) (hr : r.OriginsBelow m)
    (input : RequestInput GeneratedTokenResult) : NumbersBelow m (s.advance k r input) := by
  have hadvanced : (r.advanced input).OriginsBelow m := by
    intro response hresponse
    refine hr response ?_
    unfold InferenceRequest.advanced at hresponse
    dsimp only at hresponse
    split at hresponse
    · exact List.mem_append_right _ hresponse
    · exact hresponse
  have hset := h.set k hadvanced
  unfold InferenceCluster.advance
  dsimp only
  split
  · refine ⟨eraseKey h.tokens _, ?_, h.stoppers, hset.origins⟩
    dsimp only
    split
    · exact dropController h.senders _
    · exact h.senders
  · exact hset

theorem select (h : NumbersBelow m s) (hr : r.OriginsBelow m)
    (input : RequestInput GeneratedTokenResult) :
    NumbersBelow m (s.select k r input) := by
  unfold InferenceCluster.select
  split
  · exact h
  · exact h
  · split
    · exact h.advance k hr _
    · exact h
  · exact h.advance k hr _

theorem registerSender (h : NumbersBelow m s) (hk : k < m) (hr : r.OriginsBelow m)
    (sendSucceeds : Bool) :
    NumbersBelow m (s.registerSender k r sendSucceeds) := by
  unfold InferenceCluster.registerSender
  split
  · exact h.advance k hr _
  · rename_i senders hsenders
    obtain ⟨-, rfl⟩ := ManagesSenders.registerSender_ok hsenders
    have hset : NumbersBelow m
        { s with requests := s.requests.set k { r with controller := true } } :=
      h.set k hr
    exact ⟨h.tokens, insertKey h.senders _ hk, h.stoppers, hset.origins⟩

theorem sendRpcMessage (h : NumbersBelow m s) (hr : r.OriginsBelow m) (agent : Nat)
    (sent sendSucceeds : Bool) : NumbersBelow m (s.sendRpcMessage k r agent sent sendSucceeds) := by
  unfold InferenceCluster.sendRpcMessage
  split
  · have hsent : ({ r with agent := agent, toAgent := r.toAgent ++ [.request] } :
        InferenceRequest).OriginsBelow m := hr
    exact h.advance k hsent _
  · exact h.advance k hr _

theorem recv (h : NumbersBelow m s) (hr : r.OriginsBelow m) (sendSucceeds : Bool)
    (stopOutcome : AgentStopOutcome) : NumbersBelow m (s.recv k r sendSucceeds stopOutcome) := by
  unfold InferenceCluster.recv
  split
  · rename_i origin response responseRx _ hresponseRx
    refine h.advance k (fun p hp => hr p ?_) _
    rw [hresponseRx]
    have hmem : p ∈ responseRx ∨ p ∈ r.taken ∨ p = (origin, response) := by simpa using hp
    simp only [List.mem_append, List.mem_cons]
    tauto
  · exact h

theorem agentReceives (h : NumbersBelow m s) (hk : k < m) (hr : r.OriginsBelow m) :
    NumbersBelow m (s.agentReceives k r) := by
  unfold InferenceCluster.agentReceives
  split
  · exact h
  · rename_i toAgent _
    split
    · exact h.set k hr
    · have hset : NumbersBelow m { s with requests := s.requests.set k { r with
          toAgent := toAgent, generation := .running false } } := h.set k hr
      exact ⟨h.tokens, h.senders, insertKey h.stoppers _ hk, hset.origins⟩
  · rename_i toAgent _
    have hpopped : NumbersBelow m
        { s with requests := s.requests.set k { r with toAgent := toAgent } } :=
      h.set k hr
    dsimp only
    split
    · exact hpopped
    · split
      · exact hpopped
      · rename_i stopped hstopped
        have horigins : ({ stopped with generation := .running true } :
          InferenceRequest).OriginsBelow m :=
          hpopped.origins stopped (List.mem_of_getElem? hstopped)
        exact hpopped.set _ horigins

theorem generate (h : NumbersBelow m s) (hr : r.OriginsBelow m) (response : GeneratedTokenResult)
    (ifStopped : Option GeneratedTokenResult) :
    NumbersBelow m (s.generate k r response ifStopped) := by
  unfold InferenceCluster.generate
  split
  · exact h
  · exact h.set k hr

theorem generationEnds (h : NumbersBelow m s) (hr : r.OriginsBelow m) :
    NumbersBelow m (s.generationEnds k r) := by
  unfold InferenceCluster.generationEnds
  split
  · exact h
  · have hset : NumbersBelow m
        { s with requests := s.requests.set k { r with generation := .absent } } :=
      h.set k hr
    exact ⟨h.tokens, h.senders, eraseKey h.stoppers _, hset.origins⟩

/-- The number of the agent's request goes with its response. -/
theorem forwardResponse (h : NumbersBelow m s) (hk : k < m) (hr : r.OriginsBelow m) :
    NumbersBelow m (s.forwardResponse k r) := by
  unfold InferenceCluster.forwardResponse
  split
  · exact h
  · rename_i response fromAgent _
    have hpopped : NumbersBelow m
        { s with requests := s.requests.set k { r with fromAgent := fromAgent } } :=
      h.set k hr
    dsimp only
    split
    · exact hpopped
    · split
      · exact hpopped
      · rename_i target htarget
        have horigins := hpopped.origins target (List.mem_of_getElem? htarget)
        have hgot : ({ target with responseRx := target.responseRx ++ [(k, response)] } :
            InferenceRequest).OriginsBelow m := by
          intro p hp
          have hmem : (p ∈ target.responseRx ∨ p ∈ target.taken) ∨ p = (k, response) := by
            simp only [List.mem_append, List.mem_singleton] at hp
            tauto
          rcases hmem with hmem | rfl
          · exact horigins p (List.mem_append.mpr hmem)
          · exact hk
        exact hpopped.set _ hgot

theorem act (h : NumbersBelow m s) (hk : k < m) (hr : r.OriginsBelow m) (action : RequestAction) :
    NumbersBelow m (s.act k r action) := by
  unfold InferenceCluster.act
  cases action with
  | select input =>
    dsimp only
    split
    · exact h
    · exact h.select hr input
  | registerSender sendSucceeds =>
    dsimp only
    split
    · exact h.registerSender hk hr sendSucceeds
    · exact h
  | sendRpcMessage agent sent sendSucceeds =>
    dsimp only
    split
    · exact h.sendRpcMessage hr agent sent sendSucceeds
    · exact h
  | recv sendSucceeds stopOutcome => exact h.recv hr sendSucceeds stopOutcome
  | agentReceives => exact h.agentReceives hk hr
  | generate response ifStopped => exact h.generate hr response ifStopped
  | generationEnds => exact h.generationEnds hr
  | forwardResponse => exact h.forwardResponse hk hr
  | connectionLost => exact h.set k hr

theorem weaken {m' : Nat} (h : NumbersBelow m s) (hle : m ≤ m') : NumbersBelow m' s :=
  ⟨fun entry hentry => Nat.lt_of_lt_of_le (h.tokens entry hentry) hle,
    fun entry hentry => Nat.lt_of_lt_of_le (h.senders entry hentry) hle,
    fun entry hentry => Nat.lt_of_lt_of_le (h.stoppers entry hentry) hle,
    fun r hr response hresponse => Nat.lt_of_lt_of_le (h.origins r hr response hresponse) hle⟩

theorem push (h : NumbersBelow m s) {m' : Nat} (hle : m ≤ m') (hr : r.OriginsBelow m') :
    NumbersBelow m' { s with requests := s.requests ++ [r] } := by
  have hm := h.weaken hle
  refine ⟨hm.tokens, hm.senders, hm.stoppers, fun r' hr' => ?_⟩
  rcases List.mem_append.mp hr' with hr' | hr'
  · exact hm.origins r' hr'
  · rw [List.mem_singleton.mp hr']
    exact hr

/-- A state whose numbers are below the place of the new request does not change. -/
theorem withRequest_length (h : NumbersBelow s.requests.length s) (x : InferenceRequest) :
    s.withRequest s.requests.length x = { s with requests := s.requests ++ [x] } := by
  have hsame : ∀ {κ : Type} {entries : List (κ × Nat)},
      (∀ entry ∈ entries, entry.2 < s.requests.length) →
      mapValues (afterInsert s.requests.length) entries = entries :=
    fun hentries => mapValues_eq_self fun entry hentry => afterInsert_of_lt (hentries entry hentry)
  have hlabels : ∀ {responses : List (Nat × GeneratedTokenResult)},
      (∀ response ∈ responses, response.1 < s.requests.length) →
      responses.map (fun response => (afterInsert s.requests.length response.1, response.2)) =
        responses := by
    intro responses hresponses
    refine (List.map_congr_left fun response hresponse => ?_).trans (List.map_id responses)
    rw [afterInsert_of_lt (hresponses response hresponse)]
    rfl
  have hrequests : s.requests.map (·.renumbered s.requests.length) = s.requests := by
    refine (List.map_congr_left fun r hr => ?_).trans (List.map_id s.requests)
    have horigins := h.origins r hr
    unfold InferenceRequest.renumbered
    rw [hlabels fun response hresponse => horigins response (List.mem_append_left _ hresponse),
      hlabels fun response hresponse => horigins response (List.mem_append_right _ hresponse)]
    rfl
  unfold InferenceCluster.withRequest
  rw [hsame h.tokens, hsame h.senders, hsame h.stoppers, hrequests, List.insertIdx_length_self]

end NumbersBelow

/-! ## Whole runs -/

namespace InferenceCluster

variable {s : InferenceCluster}

theorem advance_length (k : Nat) (r : InferenceRequest)
    (input : RequestInput GeneratedTokenResult) :
    (s.advance k r input).requests.length = s.requests.length := by
  unfold advance
  dsimp only
  split <;> exact List.length_set

theorem act_length (k : Nat) (r : InferenceRequest) (action : RequestAction) :
    (s.act k r action).requests.length = s.requests.length := by
  unfold act
  cases action with
  | select input =>
    simp only [select]
    repeat' split
    all_goals first | rfl | exact advance_length _ _ _
  | registerSender sendSucceeds =>
    simp only [registerSender]
    repeat' split
    all_goals first | rfl | exact advance_length _ _ _ | exact List.length_set
  | sendRpcMessage agent sent sendSucceeds =>
    simp only [sendRpcMessage]
    repeat' split
    all_goals first | rfl | exact advance_length _ _ _
  | recv sendSucceeds stopOutcome =>
    simp only [recv]
    split
    · exact advance_length _ _ _
    · rfl
  | agentReceives =>
    simp only [agentReceives]
    repeat' split
    all_goals simp
  | generate response ifStopped =>
    simp only [generate]
    split <;> simp
  | generationEnds =>
    simp only [generationEnds]
    split <;> simp
  | forwardResponse =>
    simp only [forwardResponse]
    repeat' split
    all_goals simp
  | connectionLost => simp [connectionLost]

theorem length_le_step (s : InferenceCluster) (input : ClusterInput) :
    s.requests.length ≤ (s.step input).requests.length := by
  unfold step
  cases input with
  | request connection requestId mode sendSucceeds =>
    unfold handleInferenceRequest
    cases mode with
    | disabledForEmbeddings => simp
    | enabled =>
      dsimp only
      split <;> simp
  | stopRespondingTo connection requestId =>
    show _ ≤ (s.cancel connection requestId).requests.length
    unfold cancel
    repeat' split
    all_goals simp
  | connectionClose connection => exact Nat.le_refl _
  | act k action =>
    dsimp only
    split
    · exact Nat.le_refl _
    · exact Nat.le_of_eq (act_length k _ action).symm

/-- Every number in a state that is reached is the number of a request. -/
theorem numbersBelow_step (h : NumbersBelow s.requests.length s) (input : ClusterInput) :
    NumbersBelow (s.step input).requests.length (s.step input) := by
  unfold step
  cases input with
  | request connection requestId mode sendSucceeds =>
    have hpush : ∀ r : InferenceRequest, r.responseRx ++ r.taken = [] →
        NumbersBelow (s.requests ++ [r]).length { s with requests := s.requests ++ [r] } := by
      intro r hempty
      refine h.push (by simp) fun response hresponse => ?_
      rw [hempty] at hresponse
      cases hresponse
    unfold handleInferenceRequest
    cases mode with
    | disabledForEmbeddings => exact hpush _ rfl
    | enabled =>
      dsimp only
      split
      · exact hpush _ rfl
      · have hnew := hpush (.new connection requestId s.inferenceItemTimeout) rfl
        exact ⟨NumbersBelow.insertKey hnew.tokens _ (by simp), hnew.senders, hnew.stoppers,
          hnew.origins⟩
  | stopRespondingTo connection requestId =>
    show NumbersBelow (s.cancel connection requestId).requests.length
      (s.cancel connection requestId)
    unfold cancel
    split
    · exact h
    · split
      · exact h
      · rename_i r hr
        have hcancelled : ({ r with cancelled := true } : InferenceRequest).OriginsBelow
          s.requests.length :=
          h.origins r (List.mem_of_getElem? hr)
        rw [List.length_set]
        exact h.set _ hcancelled
  | connectionClose connection => exact ⟨h.tokens, h.senders, h.stoppers, h.origins⟩
  | act k action =>
    dsimp only
    split
    · exact h
    · rename_i r hr
      rw [act_length]
      exact h.act (List.getElem?_eq_some_iff.mp hr).1 (h.origins r (List.mem_of_getElem? hr)) action

theorem numbersBelow_reaches {inferenceItemTimeout : Nat}
    {guard : InferenceCluster → ClusterInput → Prop}
    (h : Reaches step guard (.new inferenceItemTimeout) s) : NumbersBelow s.requests.length s := by
  have hempty : ∀ {κ : Type}, ∀ entry ∈ ([] : List (κ × Nat)), entry.2 < 0 := fun _ hentry => by
    cases hentry
  refine h.invariant (fun s => NumbersBelow s.requests.length s) ?_ fun s input _ hinv _ =>
    numbersBelow_step hinv input
  exact ⟨hempty, hempty, hempty, fun r hr => by cases hr⟩

/-- **A run with one more request** is a run without it. -/
theorem run_withRequest {n : Nat} (x : InferenceRequest) :
    ∀ (inputs : List ClusterInput) {s : InferenceCluster}, n ≤ s.requests.length →
      (inputs.map (·.renumbered n)).foldl step (s.withRequest n x) =
        (inputs.foldl step s).withRequest n x
  | [], _, _ => rfl
  | input :: inputs, s, hn => by
    rw [List.map_cons, List.foldl_cons, List.foldl_cons, step_withRequest hn]
    exact run_withRequest x inputs (Nat.le_trans hn (s.length_le_step input))

/-- **A request that was answered at once changes nothing for the others**, whatever comes next. -/
theorem run_answered {inferenceItemTimeout : Nat} {guard : InferenceCluster → ClusterInput → Prop}
    (hs : Reaches step guard (.new inferenceItemTimeout) s) (x : InferenceRequest)
    (inputs : List ClusterInput) :
    (inputs.map (·.renumbered s.requests.length)).foldl step
      { s with requests := s.requests ++ [x] } =
        (inputs.foldl step s).withRequest s.requests.length x := by
  rw [← (numbersBelow_reaches hs).withRequest_length x]
  exact run_withRequest x inputs (Nat.le_refl _)

end InferenceCluster

end Paddler
