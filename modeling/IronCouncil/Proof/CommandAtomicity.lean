import IronCouncil.Registry.LiveCommands

/-!
# Command envelopes are atomic

An envelope does what its parts would do as operations of the registry, one after another, or nothing at all. It fails when one of them would.
-/

namespace IronCouncil

open InPlace

/-- A part of an envelope that could be a request of its own. -/
inductive CommandStep
  | orders (orders : OrderBatch)
  | message (message : AgentCommandMessage)
  | treaty (treaty : TreatyActionRequest)
  | alliance (action : AllianceActionRequest)

def commandSteps (command : AgentCommandEnvelopeRequest) : List CommandStep :=
  (if commandHasOrders command then [.orders command.orders] else []) ++
    (command.messages.map .message ++ (command.treaties.map .treaty ++ command.alliance.toList.map .alliance))

section Steps

variable {τ : Type} (record : Cell τ MatchRecord) (recorder : Live.WorldMessageRecorder τ) (matchId playerId : String)
  (tick : Nat)

/-- The operation of the registry for a part, after the check that the envelope makes of it. -/
def performStep : CommandStep → EStateM RegistryError τ Unit
  | .orders orders => (fun _ => ()) <$> Live.recordSubmission record ⟨matchId, playerId, tick, orders⟩
  | .message message => (fun _ => ()) <$> Live.postCommandMessage record matchId playerId tick message
  | .treaty treaty => (fun _ => ()) <$> Live.applyCommandTreaty record recorder matchId playerId treaty
  | .alliance action => (fun _ => ()) <$> Live.applyAllianceAction record matchId action playerId

end Steps

/-! ### The same program on every cell -/

section Cell

variable {τ : Type} (record : Cell τ MatchRecord) (matchId playerId : String)

theorem run_appendScratchWorldMessage (tick : Nat) (content : String) :
    record.run (Live.appendScratchWorldMessage tick content) = Live.appendWorldMessage record tick content := by
  unfold Live.appendScratchWorldMessage Live.appendWorldMessage
  rw [run_self]

theorem run_applyTreatyAction (action : TreatyActionRequest) :
    record.run (Live.applyTreatyAction (Cell.self MatchRecord) Live.appendScratchWorldMessage action playerId) =
      Live.applyTreatyAction record (Live.appendWorldMessage record) action playerId := by
  unfold Live.applyTreatyAction
  rw [run_bind, run_self]
  congr 1
  funext current
  dsimp only
  cases action.action with
  | propose =>
      dsimp only
      rw [run_self]
  | accept =>
      cases findLatestTreaty current.treaties (sortedPair playerId action.counterpartyId) action.treatyType with
      | none => exact run_throw record _
      | some latest =>
          dsimp only
          split
          · exact run_throw record _
          · simp only [run_bind, run_self, run_pure, run_appendScratchWorldMessage]
  | withdraw =>
      cases findLatestTreaty current.treaties (sortedPair playerId action.counterpartyId) action.treatyType with
      | none => exact run_throw record _
      | some latest =>
          dsimp only
          split
          · exact run_throw record _
          · simp only [run_bind, run_self, run_pure, run_appendScratchWorldMessage]

theorem run_postCommandMessage (tick : Nat) (message : AgentCommandMessage) :
    record.run (Live.postCommandMessage (Cell.self MatchRecord) matchId playerId tick message) =
      Live.postCommandMessage record matchId playerId tick message := by
  unfold Live.postCommandMessage Live.validate Live.recordMessage Live.recordGroupChatMessage
  rw [run_bind, run_self]
  congr 1
  funext _
  cases message.channel with
  | group => rw [run_map, run_self]
  | world => rw [run_map, run_self]
  | direct => rw [run_map, run_self]

theorem run_applyCommandTreaty (treaty : TreatyActionRequest) :
    record.run (Live.applyCommandTreaty (Cell.self MatchRecord) Live.appendScratchWorldMessage matchId playerId treaty) =
      Live.applyCommandTreaty record (Live.appendWorldMessage record) matchId playerId treaty := by
  unfold Live.applyCommandTreaty Live.validate
  rw [run_bind, run_self]
  congr 1
  funext _
  exact run_applyTreatyAction record playerId treaty

theorem run_applyCommandAlliance (action : Option AllianceActionRequest) :
    record.run (Live.applyCommandAlliance (Cell.self MatchRecord) matchId playerId action) =
      Live.applyCommandAlliance record matchId playerId action := by
  unfold Live.applyCommandAlliance Live.applyAllianceAction
  cases action with
  | none => exact run_pure record none
  | some action =>
      dsimp only
      rw [run_map, run_self]

theorem run_recordCommandOrders (command : AgentCommandEnvelopeRequest) :
    record.run (Live.recordCommandOrders (Cell.self MatchRecord) matchId command playerId) =
      Live.recordCommandOrders record matchId command playerId := by
  unfold Live.recordCommandOrders Live.recordSubmission
  split
  · rw [run_map, run_self]
  · exact run_pure record none

/-- The mutations of the record are those of its copy, carried out where it is stored. -/
theorem run_applyCommandEnvelopeMutations (command : AgentCommandEnvelopeRequest) :
    record.run (Live.applyCommandEnvelopeMutations (Cell.self MatchRecord) Live.appendScratchWorldMessage matchId command
        playerId) =
      Live.applyCommandEnvelopeMutations record (Live.appendWorldMessage record) matchId command playerId := by
  unfold Live.applyCommandEnvelopeMutations
  simp only [run_bind, run_mapM, run_pure, run_recordCommandOrders, run_postCommandMessage, run_applyCommandTreaty,
    run_applyCommandAlliance]

end Cell

/-! ### Part by part -/

section Parts

variable {τ : Type} (record : Cell τ MatchRecord) (recorder : Live.WorldMessageRecorder τ) (matchId playerId : String)

/-- The mutations leave what the parts leave one after another, and fail where one of them does. -/
theorem commandSteps_outcome (command : AgentCommandEnvelopeRequest) (start : τ) :
    inOrder (performStep record recorder matchId playerId command.tick) start (commandSteps command) =
      outcome (Live.applyCommandEnvelopeMutations record recorder matchId command playerId start) := by
  unfold commandSteps Live.applyCommandEnvelopeMutations
  apply inOrder_append
  · unfold Live.recordCommandOrders
    split
    · rw [outcome_map, inOrder_singleton]
      exact outcome_map _ _ _
    · rfl
  · intro submissionIndex ordered
    apply inOrder_append
    · apply inOrder_map
      exact fun message t => outcome_map _ _ t
    · intro messages posted
      apply inOrder_append
      · apply inOrder_map
        exact fun treaty t => outcome_map _ _ t
      · intro treaties negotiated
        rw [outcome_bind_pure]
        unfold Live.applyCommandAlliance
        cases command.alliance with
        | none => rfl
        | some action =>
            dsimp only
            rw [outcome_map]
            exact (inOrder_singleton _ _ _).trans (outcome_map _ _ _)

end Parts

/-! ### The operation that an envelope performs -/

section Performed

variable (matchId playerId : String) (stored : MatchRecord)

theorem performed_validate (check : MatchRecord → Except RegistryError Unit) {α : Type}
    (program : EStateM RegistryError MatchRecord α) :
    performed (Live.validate (Cell.self MatchRecord) check >>= fun _ => program) stored = match check stored with
      | .error error => .error error
      | .ok _ => performed program stored := by
  unfold Live.validate
  rw [performed_bind, run_self, performed_checked]
  cases check stored <;> rfl

theorem performed_recordCommandOrders (command : AgentCommandEnvelopeRequest) :
    performed (Live.recordCommandOrders (Cell.self MatchRecord) matchId command playerId) stored =
      .ok (recordCommandOrders stored matchId command playerId) := by
  unfold Live.recordCommandOrders Live.recordSubmission recordCommandOrders
  rw [run_self]
  split
  · rw [performed_map, performed_checked]
    rfl
  · rfl

theorem performed_postCommandMessage (tick : Nat) (message : AgentCommandMessage) :
    performed (Live.postCommandMessage (Cell.self MatchRecord) matchId playerId tick message) stored =
      postCommandMessage matchId playerId tick stored message := by
  unfold Live.postCommandMessage Live.recordMessage Live.recordGroupChatMessage postCommandMessage
  rw [performed_validate]
  simp only [run_self]
  cases validateCommandMessage stored matchId message playerId with
  | error error => rfl
  | ok _ =>
      dsimp only
      cases message.channel with
      | group => rw [performed_map, performed_checked]
      | world => rw [performed_map, performed_checked]
      | direct => rw [performed_map, performed_checked]

theorem performed_applyTreatyAction (action : TreatyActionRequest) :
    performed (Live.applyTreatyAction (Cell.self MatchRecord) Live.appendScratchWorldMessage action playerId) stored =
      applyTreatyAction stored action playerId := by
  have hread : performed (get : EStateM RegistryError MatchRecord MatchRecord) stored = .ok (stored, stored) := rfl
  unfold Live.applyTreatyAction applyTreatyAction
  rw [performed_bind, run_self, hread]
  dsimp only
  cases action.action with
  | propose =>
      dsimp only
      rw [run_self, performed_checked]
  | accept =>
      cases findLatestTreaty stored.treaties (sortedPair playerId action.counterpartyId) action.treatyType with
      | none => rfl
      | some latest =>
          dsimp only
          unfold acceptTreaty
          split
          · rfl
          · rfl
  | withdraw =>
      cases findLatestTreaty stored.treaties (sortedPair playerId action.counterpartyId) action.treatyType with
      | none => rfl
      | some latest =>
          dsimp only
          unfold withdrawTreaty
          split
          · rfl
          · rfl

theorem performed_applyCommandTreaty (treaty : TreatyActionRequest) :
    performed (Live.applyCommandTreaty (Cell.self MatchRecord) Live.appendScratchWorldMessage matchId playerId treaty)
      stored = applyCommandTreaty matchId playerId stored treaty := by
  unfold Live.applyCommandTreaty applyCommandTreaty
  refine (performed_validate _ _ _).trans ?_
  cases validateCommandTreaty stored matchId treaty playerId with
  | error error => rfl
  | ok checked => exact performed_applyTreatyAction _ _ _

theorem performed_applyCommandAlliance (action : Option AllianceActionRequest) :
    performed (Live.applyCommandAlliance (Cell.self MatchRecord) matchId playerId action) stored =
      applyCommandAlliance stored matchId playerId action := by
  unfold Live.applyCommandAlliance Live.applyAllianceAction applyCommandAlliance
  cases action with
  | none => rfl
  | some action =>
      dsimp only
      rw [performed_map, run_self, performed_checked]

theorem performed_mapM {ι ρ : Type} {program : ι → EStateM RegistryError MatchRecord ρ}
    {operation : MatchRecord → ι → Except RegistryError (MatchRecord × ρ)}
    (h : ∀ stored item, performed (program item) stored = operation stored item) (stored : MatchRecord) (items : List ι) :
    performed (items.mapM program) stored = applyEach operation stored items := by
  induction items generalizing stored with
  | nil => rfl
  | cons item items ih =>
      rw [List.mapM_cons, performed_bind, h]
      unfold applyEach
      cases operation stored item with
      | error error => rfl
      | ok done =>
          dsimp only
          rw [performed_bind, ih]
          cases applyEach operation done.1 items <;> rfl

theorem performed_applyCommandEnvelopeMutations (command : AgentCommandEnvelopeRequest) :
    performed (Live.applyCommandEnvelopeMutations (Cell.self MatchRecord) Live.appendScratchWorldMessage matchId command
        playerId) stored = applyCommandEnvelopeMutations stored matchId command playerId := by
  have hmessages := performed_mapM (performed_postCommandMessage matchId playerId · command.tick ·)
  have htreaties := performed_mapM (performed_applyCommandTreaty matchId playerId)
  unfold Live.applyCommandEnvelopeMutations applyCommandEnvelopeMutations
  rw [performed_bind, performed_recordCommandOrders]
  dsimp only
  rw [performed_bind, hmessages]
  cases applyEach (postCommandMessage matchId playerId command.tick)
      (recordCommandOrders stored matchId command playerId).1 command.messages with
  | error error => rfl
  | ok posted =>
      dsimp only
      rw [performed_bind, htreaties]
      cases applyEach (applyCommandTreaty matchId playerId) posted.1 command.treaties with
      | error error => rfl
      | ok negotiated =>
          dsimp only
          rw [performed_bind, performed_applyCommandAlliance]
          cases applyCommandAlliance negotiated.1 matchId playerId command.alliance <;> rfl

/-- In the stored record an envelope is carried out as an operation that makes its checks before its changes. -/
theorem applyCommandEnvelope_checked {τ : Type} (record : Cell τ MatchRecord) (command : AgentCommandEnvelopeRequest) :
    Live.applyCommandEnvelope record (Live.appendWorldMessage record) matchId command playerId =
      record.run (checked fun stored => applyCommandEnvelope stored matchId command playerId) := by
  have hlive := (run_applyCommandEnvelopeMutations record matchId playerId command).symm
  have hoperation : performed (Live.applyCommandEnvelopeMutations (Cell.self MatchRecord) Live.appendScratchWorldMessage
      matchId command playerId) = fun stored => applyCommandEnvelope stored matchId command playerId := by
    funext stored
    rw [performed_applyCommandEnvelopeMutations]
    unfold applyCommandEnvelope
    cases applyCommandEnvelopeMutations stored matchId command playerId <;> rfl
  unfold Live.applyCommandEnvelope
  rw [rehearsed_run record _ hlive, hlive, atomic_run, hoperation]

end Performed

/-- The mutations alone are not atomic: an order stays when the message after it is refused. -/
example :
    (match Live.applyCommandEnvelopeMutations (Cell.self MatchRecord) Live.appendScratchWorldMessage "duel"
        { tick := 0
          orders := { OrderBatch.empty with movements := [⟨"a1", "southampton"⟩] }
          messages := [⟨.direct, some "nobody", none, "hello"⟩]
          treaties := []
          alliance := none } "p1" duelRecord with
      | .ok _ _ => none
      | .error _ left => some left.orderSubmissions.length) = some 1 := by decide

/-- An envelope fails where one of its parts would, run one after another as operations of the registry, and then the registry is as it was. Otherwise the registry is as the parts would leave it. -/
theorem applyCommandEnvelope_atomic {matchId : String} (stored : MatchRegistry matchId) (playerId : String)
    (command : AgentCommandEnvelopeRequest) :
    (∀ error, inOrder (performStep (MatchRegistry.record matchId) (MatchRegistry.recordWorldTreatyMessage matchId) matchId
          playerId command.tick) stored (commandSteps command) = .error error →
        MatchRegistry.applyCommandEnvelope matchId command playerId stored = .error error stored) ∧
      ∀ next, inOrder (performStep (MatchRegistry.record matchId) (MatchRegistry.recordWorldTreatyMessage matchId) matchId
          playerId command.tick) stored (commandSteps command) = .ok next →
        ∃ response, MatchRegistry.applyCommandEnvelope matchId command playerId stored = .ok response next := by
  have hlive := (run_applyCommandEnvelopeMutations (MatchRegistry.record matchId) matchId playerId command).symm
  have hsteps := commandSteps_outcome (MatchRegistry.record matchId) (MatchRegistry.recordWorldTreatyMessage matchId)
    matchId playerId command stored
  have happly : MatchRegistry.applyCommandEnvelope matchId command playerId = _ :=
    rehearsed_run (MatchRegistry.record matchId) (Live.applyCommandEnvelopeMutations (Cell.self MatchRecord)
      Live.appendScratchWorldMessage matchId command playerId) hlive
  rw [hsteps, happly]
  exact atomic_outcome _ _

end IronCouncil
