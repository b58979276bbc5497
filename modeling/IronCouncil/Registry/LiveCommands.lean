import IronCouncil.Base.InPlace
import IronCouncil.Registry.Seeding

/-!
# Command envelopes in place

The registry works on the stored record itself. An envelope makes its changes one after another, and a part that raises leaves those before it made, so the envelope is rehearsed on a scratch copy, with a recorder of world messages that writes to the copy.
-/

namespace IronCouncil

open InPlace

/-- The registry, where it has the match. -/
structure MatchRegistry (matchId : String) where
  registry : InMemoryMatchRegistry
  present : matchId ∈ registry.matchRecords.keys

namespace MatchRegistry

variable {matchId : String}

theorem isSome_getMatch (stored : MatchRegistry matchId) : (stored.registry.getMatch matchId).isSome := by
  obtain ⟨record, hrecord⟩ := OrdDict.mem_keys.1 stored.present
  unfold InMemoryMatchRegistry.getMatch
  rw [hrecord]
  rfl

/-- The stored record of the match. -/
def record (matchId : String) : Cell (MatchRegistry matchId) MatchRecord where
  get stored := (stored.registry.getMatch matchId).get stored.isSome_getMatch
  set record stored :=
    { registry := stored.registry.storeMatch matchId record
      present := OrdDict.mem_keys_insert.2 (Or.inl rfl) }
  get_set record stored := by
    apply Option.get_of_eq_some
    exact OrdDict.get?_insert_self _ _ _
  set_get stored := by
    obtain ⟨registry, hpresent⟩ := stored
    congr 1
    unfold InMemoryMatchRegistry.storeMatch
    congr 1
    apply OrdDict.ext_get?
    · exact OrdDict.keys_insert_of_mem hpresent
    · intro key
      rw [OrdDict.get?_insert]
      split
      · rename_i hkey
        rw [hkey, Option.some_get]
        rfl
      · rfl
  set_set record record' stored := by
    congr 1
    unfold InMemoryMatchRegistry.storeMatch
    congr 1
    apply OrdDict.ext_get?
    · rw [OrdDict.keys_insert_of_mem, OrdDict.keys_insert_of_mem stored.present, OrdDict.keys_insert_of_mem stored.present]
      exact OrdDict.mem_keys_insert.2 (Or.inl rfl)
    · intro key
      simp only [OrdDict.get?_insert]
      split
      · rfl
      · rfl

end MatchRegistry

namespace Live

/-- Records a world message at a tick. -/
def WorldMessageRecorder (τ : Type) := Nat → String → EStateM RegistryError τ Unit

section

variable {τ : Type} (record : Cell τ MatchRecord)

def appendWorldMessage : WorldMessageRecorder τ := fun tick content =>
  record.run (modify fun stored => recordWorldMessage stored tick content)

def validate (check : MatchRecord → Except RegistryError Unit) : EStateM RegistryError τ Unit :=
  record.run (checked fun stored => (check stored).map fun _ => (stored, ()))

def recordSubmission (envelope : OrderEnvelope) : EStateM RegistryError τ Nat :=
  record.run (checked fun stored => .ok (IronCouncil.recordSubmission stored envelope))

def recordCommandOrders (matchId : String) (command : AgentCommandEnvelopeRequest) (playerId : String) :
    EStateM RegistryError τ (Option Nat) :=
  if commandHasOrders command then
    some <$> recordSubmission record ⟨matchId, playerId, command.tick, command.orders⟩
  else pure none

def recordMessage (matchId : String) (message : MatchMessageCreateRequest) (senderId : String) :
    EStateM RegistryError τ MatchMessage :=
  record.run (checked fun stored => IronCouncil.recordMessage stored matchId message senderId)

def recordGroupChatMessage (groupChatId : String) (message : GroupChatMessageCreateRequest) (senderId : String) :
    EStateM RegistryError τ MatchGroupChatMessage :=
  record.run (checked fun stored => IronCouncil.recordGroupChatMessage stored groupChatId message senderId)

def applyAllianceAction (matchId : String) (action : AllianceActionRequest) (playerId : String) :
    EStateM RegistryError τ (Option MatchAlliance) :=
  record.run (checked fun stored => IronCouncil.applyAllianceAction stored matchId action playerId)

/-- A treaty that is signed or withdrawn is changed before the recorder hears of it. -/
def applyTreatyAction (recorder : WorldMessageRecorder τ) (action : TreatyActionRequest) (playerId : String) :
    EStateM RegistryError τ MatchTreaty := do
  let current ← record.run get
  let parties := sortedPair playerId action.counterpartyId
  match action.action, findLatestTreaty current.treaties parties action.treatyType with
  | .propose, latest => record.run (checked fun stored => proposeTreaty stored parties action.treatyType playerId latest)
  | .accept, none => throw (unsupportedTransition "accept" action.treatyType parties)
  | .withdraw, none => throw (.treatyTransition "treaty_not_found"
      s!"No treaty exists for players '{parties.1}' and '{parties.2}' with type '{action.treatyType.value}'.")
  | .accept, some latest =>
      if latest.status ≠ .proposed ∨ latest.proposedBy = playerId then
        throw (unsupportedTransition "accept" action.treatyType parties)
      else do
        let signed := { latest with status := .active, signedTick := some current.state.tick }
        record.run (modify fun stored => updateLatestTreaty stored parties action.treatyType signed)
        recorder current.state.tick
          s!"Treaty signed: {parties.1} and {parties.2} entered a {action.treatyType.value} treaty."
        return signed
  | .withdraw, some latest =>
      if latest.status ∉ [.proposed, .active] then throw (unsupportedTransition "withdraw" action.treatyType parties)
      else do
        let withdrawn :=
          { latest with
            status := .withdrawn
            withdrawnBy := some playerId
            withdrawnTick := some current.state.tick }
        record.run (modify fun stored => updateLatestTreaty stored parties action.treatyType withdrawn)
        recorder current.state.tick
          s!"Treaty withdrawn: {playerId} withdrew the {action.treatyType.value} treaty with {action.counterpartyId}."
        return withdrawn

def postCommandMessage (matchId playerId : String) (tick : Nat) (message : AgentCommandMessage) :
    EStateM RegistryError τ MessageAcceptance := do
  validate record fun stored => validateCommandMessage stored matchId message playerId
  match message.channel with
  | .group =>
      MessageAcceptance.groupMessage <$>
        recordGroupChatMessage record (message.groupChatId.getD "") ⟨tick, message.content⟩ playerId
  | .world =>
      MessageAcceptance.message <$> recordMessage record matchId ⟨tick, .world, message.recipientId, message.content⟩ playerId
  | .direct =>
      MessageAcceptance.message <$> recordMessage record matchId ⟨tick, .direct, message.recipientId, message.content⟩ playerId

def applyCommandTreaty (recorder : WorldMessageRecorder τ) (matchId playerId : String) (treaty : TreatyActionRequest) :
    EStateM RegistryError τ MatchTreaty := do
  validate record fun stored => validateCommandTreaty stored matchId treaty playerId
  applyTreatyAction record recorder treaty playerId

def applyCommandAlliance (matchId playerId : String) (action : Option AllianceActionRequest) :
    EStateM RegistryError τ (Option (Option MatchAlliance)) :=
  match action with
  | none => pure none
  | some action => some <$> applyAllianceAction record matchId action playerId

def applyCommandEnvelopeMutations (recorder : WorldMessageRecorder τ) (matchId : String)
    (command : AgentCommandEnvelopeRequest) (playerId : String) :
    EStateM RegistryError τ AgentCommandEnvelopeResponse := do
  let submissionIndex ← recordCommandOrders record matchId command playerId
  let messages ← command.messages.mapM (postCommandMessage record matchId playerId command.tick)
  let treaties ← command.treaties.mapM (applyCommandTreaty record recorder matchId playerId)
  let alliance ← applyCommandAlliance record matchId playerId command.alliance
  return ⟨submissionIndex, messages, treaties, alliance⟩

end

def appendScratchWorldMessage : WorldMessageRecorder MatchRecord := appendWorldMessage (Cell.self MatchRecord)

/-- The mutations run on a deep copy of the record first, and on the record if the copy took them all. -/
def applyCommandEnvelope {τ : Type} (record : Cell τ MatchRecord) (recorder : WorldMessageRecorder τ) (matchId : String)
    (command : AgentCommandEnvelopeRequest) (playerId : String) : EStateM RegistryError τ AgentCommandEnvelopeResponse :=
  rehearsed record
    (applyCommandEnvelopeMutations (Cell.self MatchRecord) appendScratchWorldMessage matchId command playerId)
    (applyCommandEnvelopeMutations record recorder matchId command playerId)

end Live

/-! ### The operations of the registry -/

namespace MatchRegistry

variable (matchId : String)

def recordWorldTreatyMessage : Live.WorldMessageRecorder (MatchRegistry matchId) := Live.appendWorldMessage (record matchId)

def applyCommandEnvelope (command : AgentCommandEnvelopeRequest) (playerId : String) :
    EStateM RegistryError (MatchRegistry matchId) AgentCommandEnvelopeResponse :=
  Live.applyCommandEnvelope (record matchId) (recordWorldTreatyMessage matchId) matchId command playerId

end MatchRegistry

end IronCouncil
