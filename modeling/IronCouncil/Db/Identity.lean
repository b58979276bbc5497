import IronCouncil.Db.RatingSettlement
import IronCouncil.Registry.SeedData

/-!
# Identities

Who a key or a user is, what the database entitles them to, and their rating.
-/

namespace IronCouncil

/-! ### Entitlements -/

structure EffectiveAgentEntitlement where
  userId : String
  isEntitled : Bool
  grantSource : Option AgentEntitlementGrantSource
  concurrentMatchAllowance : Nat
  grantedAt : Option Nat
deriving DecidableEq, Repr

/-- The order grants are preferred in: the larger allowance, then the later one, then the greater id. -/
def AgentEntitlementGrantRow.preferred (grant other : AgentEntitlementGrantRow) : Prop :=
  other.concurrentMatchAllowance < grant.concurrentMatchAllowance ∨
    (other.concurrentMatchAllowance = grant.concurrentMatchAllowance ∧
      (other.createdAt < grant.createdAt ∨ (other.createdAt = grant.createdAt ∧ other.id ≤ grant.id)))

instance (grant other : AgentEntitlementGrantRow) : Decidable (grant.preferred other) :=
  inferInstanceAs (Decidable (_ ∨ _))

def resolveEffectiveAgentEntitlement (db : Database) (userId : String) : EffectiveAgentEntitlement :=
  let grants := (db.agentEntitlementGrants.rows.filter fun grant => grant.userId = userId ∧ grant.isActive).insertionSort
    AgentEntitlementGrantRow.preferred
  match grants with
  | [] => ⟨userId, false, none, 0, none⟩
  | grant :: _ =>
      ⟨userId, decide (0 < grant.concurrentMatchAllowance), some grant.grantSource,
        grant.concurrentMatchAllowance.toNat, some grant.createdAt⟩

structure ApiKeyMatchEntitlement where
  apiKeyId : String
  activeMatchOccupancy : Nat
  entitlement : EffectiveAgentEntitlement
deriving DecidableEq, Repr

def ApiKeyMatchEntitlement.hasCapacity (occupancy : ApiKeyMatchEntitlement) : Bool :=
  occupancy.entitlement.isEntitled &&
    decide (occupancy.activeMatchOccupancy < occupancy.entitlement.concurrentMatchAllowance)

def countActiveMatchOccupancyForApiKey (db : Database) (apiKeyId : String) : Nat :=
  (db.matchRows.rows.filter fun matchRow =>
    (matchRow.status = .lobby ∨ matchRow.status = .active) ∧
      db.players.rows.any fun player =>
        player.matchId = matchRow.id ∧ player.apiKeyId = some apiKeyId ∧ player.isAgent).length

def getApiKeyMatchOccupancyEntitlement (db : Database) (apiKeyId : String) :
    Except PersistenceError ApiKeyMatchEntitlement :=
  match db.apiKeys.get? apiKeyId with
  | none => .error (.valueError s!"API key '{apiKeyId}' was not found.")
  | some apiKey =>
      .ok ⟨apiKeyId, countActiveMatchOccupancyForApiKey db apiKeyId,
        resolveEffectiveAgentEntitlement db apiKey.userId⟩

/-! ### Humans -/

/-- The rows a user plays under in person, ordered by id. -/
def humanPlayers (db : Database) (userId : String) : List PlayerRow :=
  (db.players.rows.filter fun player => player.userId = userId ∧ player.isAgent = false).insertionSort
    fun first second => first.id ≤ second.id

def resolveHumanDisplayName (db : Database) (userId : String) : String :=
  match humanPlayers db userId with
  | [] => userId
  | player :: _ => player.displayName

def resolveHumanEloRating (db : Database) (userId : String) : Int :=
  match latestHumanSettledElo db userId with
  | some settledElo => settledElo
  | none =>
      match humanPlayers db userId with
      | [] => 0
      | player :: _ => player.eloRating

/-! ### Agents -/

structure LoadedAgentIdentity where
  agentId : String
  isSeeded : Bool
deriving DecidableEq, Repr

structure ResolvedAuthenticatedDbAgent where
  context : AuthenticatedAgentContext
  apiKeyId : String
  userId : String
  eloRating : Int
  keyHash : String
deriving DecidableEq, Repr

def buildNonSeededAgentId (apiKeyId : String) : String := s!"agent-api-key-{apiKeyId}"

def buildNonSeededDisplayName (apiKeyId : String) : String :=
  s!"Agent {String.ofList (apiKeyId.toList.take 8)}"

def buildUserBackedAgentId (userId : String) : String := s!"agent-user-{userId}"

/-- The rows a key plays under, ordered by match and id. -/
def playersOfKey (db : Database) (apiKeyId : String) : List PlayerRow :=
  (db.players.rows.filter fun player => player.apiKeyId = some apiKeyId).insertionSort fun first second =>
    first.matchId < second.matchId ∨ (first.matchId = second.matchId ∧ first.id ≤ second.id)

section Agents

variable (hashApiKey : String → String)

def resolveLoadedAgentIdentity (player : PlayerRow) (apiKey : Option ApiKeyRow) : LoadedAgentIdentity :=
  match apiKey with
  | none => ⟨buildUserBackedAgentId player.userId, false⟩
  | some apiKey =>
      match (buildSeededProfilesByKeyHash hashApiKey).get? apiKey.keyHash with
      | some seededProfile => ⟨seededProfile.agentId, true⟩
      | none => ⟨buildNonSeededAgentId apiKey.id, false⟩

/-- The agent an active key speaks for. A key under which only humans play speaks for nobody. -/
def resolveAuthenticatedAgentFromDbKeyHash (db : Database) (keyHash : String) :
    Option ResolvedAuthenticatedDbAgent :=
  match db.keyOfHash? keyHash with
  | none => none
  | some apiKey =>
      if apiKey.isActive = false then none
      else
        let persistedPlayers := playersOfKey db apiKey.id
        let existingAgentPlayer := persistedPlayers.find? (·.isAgent)
        if persistedPlayers ≠ [] ∧ existingAgentPlayer = none then none
        else
          let context : AuthenticatedAgentContext :=
            match (buildSeededProfilesByKeyHash hashApiKey).get? apiKey.keyHash with
            | some seededProfile => ⟨seededProfile.agentId, seededProfile.displayName, true⟩
            | none =>
                ⟨buildNonSeededAgentId apiKey.id,
                  (existingAgentPlayer.map (·.displayName)).getD (buildNonSeededDisplayName apiKey.id), false⟩
          some ⟨context, apiKey.id, apiKey.userId, apiKey.eloRating, apiKey.keyHash⟩

theorem resolveAuthenticatedAgentFromDbKeyHash_eq_some {db : Database} {keyHash : String}
    {agent : ResolvedAuthenticatedDbAgent}
    (h : resolveAuthenticatedAgentFromDbKeyHash hashApiKey db keyHash = some agent) :
    ∃ apiKey ∈ db.apiKeys.rows, apiKey.keyHash = keyHash ∧ apiKey.isActive = true ∧ agent.apiKeyId = apiKey.id ∧
      agent.userId = apiKey.userId ∧ agent.eloRating = apiKey.eloRating := by
  unfold resolveAuthenticatedAgentFromDbKeyHash at h
  split at h
  · cases h
  · rename_i apiKey hfound
    obtain ⟨hrow, hhash⟩ := Database.keyOfHash?_eq_some.1 hfound
    dsimp only at h
    split at h
    · cases h
    · rename_i hactive
      split at h
      · cases h
      · cases h
        exact ⟨apiKey, hrow, hhash, by simpa using hactive, rfl, rfl, rfl⟩

def resolveAuthenticatedAgentContext (db : Database) (apiKey : String) : Option AuthenticatedAgentContext :=
  (resolveAuthenticatedAgentFromDbKeyHash hashApiKey db (hashApiKey apiKey)).map (·.context)

end Agents

/-! ### The agents of the keys -/

/-- The agent a key is for. -/
def agentIdOfKey (hashApiKey : String → String) (apiKey : ApiKeyRow) : String :=
  match (buildSeededProfilesByKeyHash hashApiKey).get? apiKey.keyHash with
  | some seededProfile => seededProfile.agentId
  | none => buildNonSeededAgentId apiKey.id

theorem agentIdOfKey_cases (hashApiKey : String → String) (apiKey : ApiKeyRow) :
    (∃ profile ∈ buildSeededAgentProfiles, apiKey.keyHash = hashApiKey (buildSeededAgentApiKey profile.agentId) ∧
      agentIdOfKey hashApiKey apiKey = profile.agentId) ∨
    agentIdOfKey hashApiKey apiKey = buildNonSeededAgentId apiKey.id := by
  unfold agentIdOfKey
  split
  · rename_i profile hseeded
    obtain ⟨seeded, hmem, heq⟩ := List.mem_map.1 (OrdDict.mem_of_get?_ofList hseeded)
    obtain ⟨hhash, rfl⟩ := Prod.mk.inj heq
    exact Or.inl ⟨seeded, hmem, hhash.symm, rfl⟩
  · exact Or.inr rfl

theorem buildNonSeededAgentId_injective : Function.Injective buildNonSeededAgentId := by
  intro first second h
  have hcat : ∀ id, buildNonSeededAgentId id = "agent-api-key-" ++ id := fun id => by
    simp [buildNonSeededAgentId, toString]
  rwa [hcat, hcat, String.append_right_inj] at h

theorem seeded_ne_nonSeeded {profile : AgentProfileResponse} (hprofile : profile ∈ buildSeededAgentProfiles)
    (apiKeyId : String) : profile.agentId ≠ buildNonSeededAgentId apiKeyId := by
  intro h
  have hseventh : (buildNonSeededAgentId apiKeyId).toList[6]? = some 'a' := by
    simp [buildNonSeededAgentId, toString]
  have hseeded : ∀ seeded ∈ buildSeededAgentProfiles, seeded.agentId.toList[6]? = some 'p' := by decide
  have hsame := hseeded profile hprofile
  rw [h, hseventh] at hsame
  exact absurd (Option.some.inj hsame) (by decide)

/-- Two keys are never for the same agent. -/
theorem agentIdOfKey_injOn (hashApiKey : String → String) (db : Database) {first second : ApiKeyRow}
    (hfirst : first ∈ db.apiKeys.rows) (hsecond : second ∈ db.apiKeys.rows)
    (h : agentIdOfKey hashApiKey first = agentIdOfKey hashApiKey second) : first = second := by
  rcases agentIdOfKey_cases hashApiKey first with ⟨profile, hprofile, hhash, hagent⟩ | hagent <;>
    rcases agentIdOfKey_cases hashApiKey second with ⟨profile', hprofile', hhash', hagent'⟩ | hagent' <;>
      rw [hagent, hagent'] at h
  · rw [h, ← hhash'] at hhash
    exact List.inj_on_of_nodup_map db.keyHashes_nodup hfirst hsecond hhash
  · exact absurd h (seeded_ne_nonSeeded hprofile second.id)
  · exact absurd h.symm (seeded_ne_nonSeeded hprofile' first.id)
  · exact Table.eq_of_key hfirst hsecond (buildNonSeededAgentId_injective h)

/-- A keyless agent is not one with a key. -/
theorem agentIdOfKey_ne_userBacked (hashApiKey : String → String) (apiKey : ApiKeyRow) (userId : String) :
    agentIdOfKey hashApiKey apiKey ≠ buildUserBackedAgentId userId := by
  intro h
  have hseventh : (buildUserBackedAgentId userId).toList[6]? = some 'u' := by
    simp [buildUserBackedAgentId, toString]
  rw [← h] at hseventh
  rcases agentIdOfKey_cases hashApiKey apiKey with ⟨profile, hprofile, -, hagent⟩ | hagent
  · have hseeded : ∀ seeded ∈ buildSeededAgentProfiles, seeded.agentId.toList[6]? = some 'p' := by decide
    rw [hagent, hseeded profile hprofile] at hseventh
    exact absurd (Option.some.inj hseventh) (by decide)
  · rw [hagent] at hseventh
    simp [buildNonSeededAgentId, toString] at hseventh

theorem buildUserBackedAgentId_injective : Function.Injective buildUserBackedAgentId := by
  intro first second h
  have hcat : ∀ id, buildUserBackedAgentId id = "agent-user-" ++ id := fun id => by
    simp [buildUserBackedAgentId, toString]
  rwa [hcat, hcat, String.append_right_inj] at h

end IronCouncil
