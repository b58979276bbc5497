import IronCouncil.Api.Server

/-!
# The routes of the order queue

Orders reach the queue of a match directly, in a command envelope, or as an owner's override, which takes the place of what the player has queued for the tick. Every route accepts the current tick only.
-/

namespace IronCouncil

/-- The record with a submission, and the submission. -/
def submitOrders (record : MatchRecord) (playerId : String) (tick : Nat) (orders : OrderBatch) :
    Except ServerError (MatchRecord × OrderEnvelope) :=
  if tick ≠ record.state.tick then
    .error (.api "tick_mismatch"
      s!"Order payload tick '{tick}' does not match current match tick '{record.state.tick}'.")
  else
    let envelope : OrderEnvelope := ⟨record.matchId, playerId, tick, orders⟩
    .ok ((recordSubmission record envelope).1, envelope)

def postMatchCommand (record : MatchRecord) (playerId : String) (command : AgentCommandEnvelopeRequest) :
    Except ServerError (MatchRecord × AgentCommandEnvelopeResponse) :=
  if command.tick ≠ record.state.tick then
    .error (.api "tick_mismatch"
      s!"Command payload tick '{command.tick}' does not match current match tick '{record.state.tick}'.")
  else
    match applyCommandEnvelope record record.matchId command playerId with
    | .error error => .error (.registry error)
    | .ok accepted => .ok accepted

/-- The record with an envelope in the place of the player's submissions for a tick, the envelope's index, and how many it supersedes. -/
def replacePlayerSubmissions (record : MatchRecord) (playerId : String) (tick : Nat) (envelope : OrderEnvelope) :
    MatchRecord × Nat × Nat :=
  let retained := record.orderSubmissions.filter fun submission => submission.playerId ≠ playerId ∨ submission.tick ≠ tick
  (withSubmissions record (retained ++ [envelope]), retained.length,
    record.orderSubmissions.length - retained.length)

/-- When writing the override's row raises, the snapshot comes back. -/
def postOwnedAgentOverride (append : Nat → Except PersistenceError Unit) (record : MatchRecord) (playerId : String)
    (tick : Nat) (orders : OrderBatch) : MatchRecord × Except ServerError (Nat × Nat) :=
  if tick ≠ record.state.tick then
    (record, .error (.api "guided_override_tick_mismatch"
      s!"Override payload tick '{tick}' must match current match tick '{record.state.tick}'."))
  else
    let (replaced, submissionIndex, supersededCount) :=
      replacePlayerSubmissions record playerId tick ⟨record.matchId, playerId, tick, orders⟩
    match append supersededCount with
    | .error error => (record, .error (.persistence error))
    | .ok () => (replaced, .ok (submissionIndex, supersededCount))

/-! ### What the routes do to the queue -/

section Routes

variable {record next : MatchRecord} {playerId : String} {tick : Nat} {orders : OrderBatch}

theorem submitOrders_eq_ok {envelope : OrderEnvelope} (h : submitOrders record playerId tick orders = .ok (next, envelope)) :
    next = withSubmissions record (record.orderSubmissions ++ [envelope]) ∧ envelope.tick = record.state.tick := by
  unfold submitOrders at h
  split at h
  · cases h
  · rename_i htick
    cases h
    exact ⟨rfl, not_not.1 htick⟩

theorem postOwnedAgentOverride_cases (append : Nat → Except PersistenceError Unit) (record : MatchRecord)
    (playerId : String) (tick : Nat) (orders : OrderBatch) :
    (∃ error, postOwnedAgentOverride append record playerId tick orders = (record, .error error)) ∨
      (tick = record.state.tick ∧ ∃ supersededCount, postOwnedAgentOverride append record playerId tick orders =
        (withSubmissions record
            ((record.orderSubmissions.filter fun submission => submission.playerId ≠ playerId ∨ submission.tick ≠ tick) ++
              [⟨record.matchId, playerId, tick, orders⟩]),
          .ok ((record.orderSubmissions.filter fun submission =>
            submission.playerId ≠ playerId ∨ submission.tick ≠ tick).length, supersededCount))) := by
  unfold postOwnedAgentOverride
  by_cases htick : tick = record.state.tick
  · rw [if_neg (not_not.2 htick)]
    dsimp only [replacePlayerSubmissions]
    split
    · exact Or.inl ⟨_, rfl⟩
    · exact Or.inr ⟨htick, _, rfl⟩
  · rw [if_pos htick]
    exact Or.inl ⟨_, rfl⟩

end Routes

end IronCouncil
