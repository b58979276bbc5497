import IronCouncil.Base.Json
import IronCouncil.Models.Orders

/-!
# Orders as JSON

What the order models dump and what they parse back. The dump leaves out the `type` of every order and the `sender` of a transfer, and the parser takes their defaults for them: no sender. It reads dumps only, so a value of another type, which the models would convert, is refused.
-/

namespace IronCouncil

open JsonValue

/-! ### Field types -/

def ResourceType.members : List ResourceType := [.food, .production, .money]

def UpgradeTrack.members : List UpgradeTrack := [.economy, .military, .fortification]

def FortificationTier.members : List FortificationTier := [.trenches, .bunkers, .fortress]

def ResourceType.modelValidate (value : JsonValue) : Option ResourceType :=
  (readString value).bind fun text => ResourceType.members.find? fun member => member.value = text

def UpgradeTrack.modelValidate (value : JsonValue) : Option UpgradeTrack :=
  (readString value).bind fun text => UpgradeTrack.members.find? fun member => member.value = text

def FortificationTier.modelValidate (value : JsonValue) : Option FortificationTier :=
  (readNumber value).bind fun number => FortificationTier.members.find? fun member => (member.toNat : Int) = number

/-- A count above zero. -/
def readPositiveCount (value : JsonValue) : Option { count : Nat // 0 < count } :=
  (readNumber value).bind fun number =>
    if h : 0 < number.toNat then some ⟨number.toNat, h⟩ else none

/-! ### The four kinds of orders -/

namespace MovementOrder

def modelDump (order : MovementOrder) : JsonValue :=
  .object [("army_id", .string order.armyId), ("destination", .string order.destination)]

def modelValidate (value : JsonValue) : Option MovementOrder := do
  let fields ← readObject ["type", "army_id", "destination"] value
  defaulted fields "type" () (readLiteral "movement")
  let armyId ← required fields "army_id" readString
  let destination ← required fields "destination" readString
  return { armyId, destination }

end MovementOrder

namespace RecruitmentOrder

def modelDump (order : RecruitmentOrder) : JsonValue :=
  .object [("city", .string order.city), ("troops", .number order.troops)]

def modelValidate (value : JsonValue) : Option RecruitmentOrder := do
  let fields ← readObject ["type", "city", "troops"] value
  defaulted fields "type" () (readLiteral "recruitment")
  let city ← required fields "city" readString
  let troops ← required fields "troops" readPositiveCount
  return { city, troops := troops.1, troops_pos := troops.2 }

end RecruitmentOrder

namespace UpgradeOrder

def modelDump (order : UpgradeOrder) : JsonValue :=
  .object
    [("city", .string order.city), ("track", .string order.track.value),
      ("target_tier", .number order.targetTier.toNat)]

def modelValidate (value : JsonValue) : Option UpgradeOrder := do
  let fields ← readObject ["type", "city", "track", "target_tier"] value
  defaulted fields "type" () (readLiteral "upgrade")
  let city ← required fields "city" readString
  let track ← required fields "track" UpgradeTrack.modelValidate
  let targetTier ← required fields "target_tier" FortificationTier.modelValidate
  return { city, track, targetTier }

end UpgradeOrder

namespace TransferOrder

def modelDump (order : TransferOrder) : JsonValue :=
  .object
    [("to", .string order.recipientId), ("resource", .string order.resource.value), ("amount", .number order.amount)]

def modelValidate (value : JsonValue) : Option TransferOrder := do
  let fields ← readObject ["type", "sender", "to", "resource", "amount"] value
  defaulted fields "type" () (readLiteral "transfer")
  let sender ← defaulted fields "sender" none (readNullable readString)
  let recipientId ← required fields "to" readString
  let resource ← required fields "resource" ResourceType.modelValidate
  let amount ← required fields "amount" readPositiveCount
  return { sender, recipientId, resource, amount := amount.1, amount_pos := amount.2 }

def withoutSender (order : TransferOrder) : TransferOrder := { order with sender := none }

end TransferOrder

/-! ### The batch -/

namespace OrderBatch

def modelDump (orders : OrderBatch) : JsonValue :=
  .object
    [("movements", .array (orders.movements.map MovementOrder.modelDump)),
      ("recruitment", .array (orders.recruitment.map RecruitmentOrder.modelDump)),
      ("upgrades", .array (orders.upgrades.map UpgradeOrder.modelDump)),
      ("transfers", .array (orders.transfers.map TransferOrder.modelDump))]

def modelValidate (value : JsonValue) : Option OrderBatch := do
  let fields ← readObject ["movements", "recruitment", "upgrades", "transfers"] value
  let movements ← defaulted fields "movements" [] (readArray MovementOrder.modelValidate)
  let recruitment ← defaulted fields "recruitment" [] (readArray RecruitmentOrder.modelValidate)
  let upgrades ← defaulted fields "upgrades" [] (readArray UpgradeOrder.modelValidate)
  let transfers ← defaulted fields "transfers" [] (readArray TransferOrder.modelValidate)
  return { movements, recruitment, upgrades, transfers }

def withoutSenders (orders : OrderBatch) : OrderBatch :=
  { orders with transfers := orders.transfers.map TransferOrder.withoutSender }

end OrderBatch

/-! ### Round trips -/

theorem ResourceType.modelValidate_value (resource : ResourceType) :
    ResourceType.modelValidate (.string resource.value) = some resource := by
  cases resource <;> decide

theorem UpgradeTrack.modelValidate_value (track : UpgradeTrack) :
    UpgradeTrack.modelValidate (.string track.value) = some track := by
  cases track <;> decide

theorem FortificationTier.modelValidate_toNat (tier : FortificationTier) :
    FortificationTier.modelValidate (.number tier.toNat) = some tier := by
  cases tier <;> decide

theorem readPositiveCount_number {count : Nat} (h : 0 < count) :
    readPositiveCount (.number count) = some ⟨count, h⟩ := by
  unfold readPositiveCount readNumber
  simp only [Option.bind_some, Int.toNat_natCast]
  rw [dif_pos h]

theorem MovementOrder.modelValidate_modelDump (order : MovementOrder) :
    MovementOrder.modelValidate order.modelDump = some order := rfl

theorem RecruitmentOrder.modelValidate_modelDump (order : RecruitmentOrder) :
    RecruitmentOrder.modelValidate order.modelDump = some order := by
  have htroops := readPositiveCount_number order.troops_pos
  simp [modelValidate, modelDump, readObject, required, defaulted, readString, htroops, List.lookup_cons]

theorem UpgradeOrder.modelValidate_modelDump (order : UpgradeOrder) :
    UpgradeOrder.modelValidate order.modelDump = some order := by
  have htrack := UpgradeTrack.modelValidate_value order.track
  have htier := FortificationTier.modelValidate_toNat order.targetTier
  simp [modelValidate, modelDump, readObject, required, defaulted, readString, htrack, htier, List.lookup_cons]

/-- A transfer comes back without its sender. -/
theorem TransferOrder.modelValidate_modelDump (order : TransferOrder) :
    TransferOrder.modelValidate order.modelDump = some order.withoutSender := by
  have hresource := ResourceType.modelValidate_value order.resource
  have hamount := readPositiveCount_number order.amount_pos
  simp [modelValidate, modelDump, readObject, required, defaulted, readString, hresource, hamount, List.lookup_cons,
    withoutSender]

theorem OrderBatch.modelValidate_modelDump (orders : OrderBatch) :
    OrderBatch.modelValidate orders.modelDump = some orders.withoutSenders := by
  have hmovements := readArray_map MovementOrder.modelValidate_modelDump orders.movements
  have hrecruitment := readArray_map RecruitmentOrder.modelValidate_modelDump orders.recruitment
  have hupgrades := readArray_map UpgradeOrder.modelValidate_modelDump orders.upgrades
  have htransfers := readArray_map TransferOrder.modelValidate_modelDump orders.transfers
  simp [modelValidate, modelDump, readObject, defaulted, hmovements, hrecruitment, hupgrades, htransfers, List.lookup_cons,
    withoutSenders]

end IronCouncil
