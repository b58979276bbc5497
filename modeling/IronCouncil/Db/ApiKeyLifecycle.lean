import IronCouncil.Db.Identity

/-!
# Owned API keys

Creating and revoking the keys of a user. Revoking a key clears its row's active flag and nothing else.
-/

namespace IronCouncil

inductive ApiKeyError
  | entitlementRequired (code message : String)
  | persistence (error : PersistenceError)
deriving DecidableEq, Repr

def agentEntitlementRequiredCode : String := "agent_entitlement_required"

def agentEntitlementRequiredMessage : String :=
  "Authenticated account lacks an active agent entitlement grant with positive concurrent match allowance."

structure OwnedApiKeySummary where
  keyId : String
  agentId : String
  eloRating : Int
  isActive : Bool
  createdAt : Nat
  entitlement : EffectiveAgentEntitlement
deriving DecidableEq, Repr

def buildSummary (apiKey : ApiKeyRow) (entitlement : EffectiveAgentEntitlement) : OwnedApiKeySummary where
  keyId := apiKey.id
  agentId := buildNonSeededAgentId apiKey.id
  eloRating := apiKey.eloRating
  isActive := apiKey.isActive
  createdAt := apiKey.createdAt
  entitlement := entitlement

namespace Database

def keyHashes (db : Database) : List String := db.apiKeys.rows.map (·.keyHash)

def addApiKey (db : Database) (apiKey : ApiKeyRow) (hfresh : apiKey.keyHash ∉ db.keyHashes) :
    Except PersistenceError Database :=
  match hinsert : db.apiKeys.insert apiKey with
  | none => .error .integrityError
  | some apiKeys =>
      .ok
        { db with
          apiKeys := apiKeys
          keyHashes_nodup := by
            rw [(Table.insert_eq_some hinsert).2, List.map_append, List.map_singleton]
            exact List.Nodup.append db.keyHashes_nodup (List.nodup_singleton _) (by simpa [keyHashes] using hfresh) }

theorem addApiKey_eq_ok {db db' : Database} {apiKey : ApiKeyRow} {hfresh : apiKey.keyHash ∉ db.keyHashes}
    (h : db.addApiKey apiKey hfresh = .ok db') :
    apiKey.id ∉ db.apiKeys.keys ∧ db'.apiKeys.rows = db.apiKeys.rows ++ [apiKey] ∧
      db' = { db with apiKeys := db'.apiKeys, keyHashes_nodup := db'.keyHashes_nodup } := by
  unfold addApiKey at h
  split at h
  · cases h
  · rename_i apiKeys hinsert
    cases h
    obtain ⟨hid, hrows⟩ := Table.insert_eq_some hinsert
    exact ⟨hid, hrows, rfl⟩

end Database

section Lifecycle

variable (hashApiKey : String → String)

def rawApiKey (token : String) : String := "iron_" ++ token

/-- The first drawn key whose hash no row has. -/
def generateUniqueApiKey (db : Database) (tokens : List String) : Option String :=
  (tokens.map rawApiKey).find? fun rawKey => hashApiKey rawKey ∉ db.keyHashes

theorem generateUniqueApiKey_fresh {db : Database} {tokens : List String} {rawKey : String}
    (h : generateUniqueApiKey hashApiKey db tokens = some rawKey) : hashApiKey rawKey ∉ db.keyHashes := by
  have hfresh := List.find?_some h
  simpa using hfresh

def newApiKeyRow (db : Database) (userId keyId keyHash : String) (createdAt : Nat) : ApiKeyRow where
  id := keyId
  userId := userId
  keyHash := keyHash
  eloRating := resolveHumanEloRating db userId
  isActive := true
  createdAt := createdAt

/-- `tokens` are the random draws, as many as it takes, `keyId` is the drawn id and `createdAt` the clock's reading. -/
def createOwnedApiKey (db : Database) (userId : String) (tokens : List String) (keyId : String) (createdAt : Nat) :
    Except ApiKeyError (Database × String × OwnedApiKeySummary) :=
  let entitlement := resolveEffectiveAgentEntitlement db userId
  if entitlement.isEntitled = false then
    .error (.entitlementRequired agentEntitlementRequiredCode agentEntitlementRequiredMessage)
  else
    match hdraw : generateUniqueApiKey hashApiKey db tokens with
    | none => .error (.persistence (.valueError "no fresh key among the draws"))
    | some rawKey =>
        let apiKey := newApiKeyRow db userId keyId (hashApiKey rawKey) createdAt
        match db.addApiKey apiKey (generateUniqueApiKey_fresh hashApiKey hdraw) with
        | .error error => .error (.persistence error)
        | .ok db => .ok (db, rawKey, buildSummary apiKey entitlement)

theorem createOwnedApiKey_eq_ok {db db' : Database} {userId : String} {tokens : List String} {keyId rawKey : String}
    {createdAt : Nat} {summary : OwnedApiKeySummary}
    (h : createOwnedApiKey hashApiKey db userId tokens keyId createdAt = .ok (db', rawKey, summary)) :
    ∃ hfresh, db.addApiKey (newApiKeyRow db userId keyId (hashApiKey rawKey) createdAt) hfresh = .ok db' := by
  unfold createOwnedApiKey at h
  dsimp only at h
  split at h
  · cases h
  · split at h
    · cases h
    · rename_i drawn hdraw
      split at h
      · cases h
      · rename_i added hadd
        cases h
        exact ⟨generateUniqueApiKey_fresh hashApiKey hdraw, hadd⟩

end Lifecycle

def findOwnedApiKey (db : Database) (userId keyId : String) : Option ApiKeyRow :=
  db.apiKeys.rows.find? fun apiKey => apiKey.id = keyId ∧ apiKey.userId = userId

/-- `none` when the user owns no key of that id. -/
def revokeOwnedApiKey (db : Database) (userId keyId : String) : Option (Database × OwnedApiKeySummary) :=
  (findOwnedApiKey db userId keyId).map fun apiKey =>
    (db.deactivateKey apiKey.id,
      buildSummary { apiKey with isActive := false } (resolveEffectiveAgentEntitlement db userId))

theorem findOwnedApiKey_eq_some {db : Database} {userId keyId : String} {apiKey : ApiKeyRow}
    (h : findOwnedApiKey db userId keyId = some apiKey) :
    apiKey ∈ db.apiKeys.rows ∧ apiKey.id = keyId ∧ apiKey.userId = userId := by
  have hfound := List.find?_some h
  rw [decide_eq_true_eq] at hfound
  exact ⟨List.mem_of_find?_eq_some h, hfound⟩

end IronCouncil
