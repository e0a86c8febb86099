import QuantApp.Core.ExecutionOrderRecord

/-!
# Broker orders no local record claims

`src/core/discovered_external_order.py`: the record of an unowned broker order,
its disposition, and its adoption as an order of the application.
-/

namespace QuantApp.Core

variable {external : DiscoveredExternalOrder} {adoption : Adoption}

inductive ExternalOrderDisposition
  | discoveredUnowned
  | userAdopted
  | dismissedTerminal
  deriving DecidableEq, Repr

structure DiscoveredExternalOrder where
  environment : String
  accountNo : String
  symbol : String
  side : OrderSide
  brokerOrderId : String
  quantityRequested : Int := 0
  filledQuantity : Int := 0
  limitPrice : ℚ := 0
  brokerStatus : ExecutionOrderStatus := .working
  externalOrderId : String
  discoveredAt : IsoText
  disposition : ExternalOrderDisposition := .discoveredUnowned
  adoptedAt : Option IsoText := none
  adoptedBy : String := ""
  version : Int := 1
  deriving DecidableEq

/-- The wire text of a disposition. -/
def ExternalOrderDisposition.value : ExternalOrderDisposition → String
  | .discoveredUnowned => "DISCOVERED_UNOWNED"
  | .userAdopted => "USER_ADOPTED"
  | .dismissedTerminal => "DISMISSED_TERMINAL"

def allowedDispositionTransitions : ExternalOrderDisposition → List ExternalOrderDisposition
  | .discoveredUnowned => [.userAdopted, .dismissedTerminal]
  | .userAdopted | .dismissedTerminal => []

def validateDispositionTransition (current target : ExternalOrderDisposition) :
    Except Raised Unit :=
  if target ∈ allowedDispositionTransitions current then .ok ()
  else
    .error
      { cls := .invalidExternalOrderDisposition
        message := "ExternalOrderDisposition cannot transition " ++ current.value ++ " -> " ++
          target.value }

/-- `BROKER_OBSERVABLE_STATUSES`; the constructor refuses every other status. -/
def brokerObservableStatuses : List ExecutionOrderStatus :=
  [.acknowledged, .unknownSubmissionState, .working, .partiallyFilled, .filled, .cancelPending,
    .cancelled, .expired, .rejected]

/-! ## Adoption -/

/-- The arguments of an adoption, with the id and the times it draws. -/
@[ext] structure Adoption where
  adoptedBy : String
  permissions : List AdoptedOrderPermission := []
  ownerDeviceId : String := ""
  clientOrderId : String
  preparedAt : IsoText
  adoptedAt : IsoText
  clientOrderIdNamed : clientOrderId ≠ "" := by decide +kernel

instance : DecidableEq Adoption := fun _ _ => decidable_of_iff _ Adoption.ext_iff.symm

/-- The record an adoption builds. -/
def adoptedRecord (external : DiscoveredExternalOrder) (adoption : Adoption) :
    ExecutionOrderRecord :=
  { environment := external.environment
    accountNo := external.accountNo
    symbol := external.symbol
    side := external.side
    intent := .unknown
    clientOrderId := adoption.clientOrderId
    brokerOrderId := external.brokerOrderId
    submittedQuantity := external.quantityRequested
    submittedLimitPrice := external.limitPrice
    preparedAt := adoption.preparedAt
    status := external.brokerStatus
    filledQuantity := external.filledQuantity
    origin := .userAdopted
    brokerIdentityStatus := .exact_
    adoptionPermissions := adoption.permissions
    ownerDeviceId := adoption.ownerDeviceId
    adoptedFromExternalOrderId := external.externalOrderId
    clientOrderIdNamed := adoption.clientOrderIdNamed }

/-- `adopt_external_order`: the new record, and the external order as it is changed in place
once the record has been built. -/
def adoptExternalOrder (external : DiscoveredExternalOrder) (adoption : Adoption) :
    Except Raised (ExecutionOrderRecord × DiscoveredExternalOrder) := do
  let adoptedBy := strip adoption.adoptedBy
  if adoptedBy = "" then
    .error
      { cls := .valueError
        message := "adopt_external_order requires a non-blank adopted_by (audit attribution)" }
  else
    validateDispositionTransition external.disposition .userAdopted
    let record := adoptedRecord external adoption
    validateConsistency record
    pure (record, { external with
      disposition := .userAdopted
      adoptedAt := some adoption.adoptedAt
      adoptedBy := adoptedBy })

theorem adoptExternalOrder_ok {adopted : DiscoveredExternalOrder} {record : ExecutionOrderRecord}
    (h : adoptExternalOrder external adoption = .ok (record, adopted)) :
    external.disposition = .discoveredUnowned ∧ record = adoptedRecord external adoption ∧
      adopted = { external with
        disposition := .userAdopted
        adoptedAt := some adoption.adoptedAt
        adoptedBy := strip adoption.adoptedBy } := by
  unfold adoptExternalOrder at h
  dsimp only at h
  split at h
  · cases h
  · cases hDisposition : external.disposition with
    | discoveredUnowned =>
      rw [hDisposition] at h
      cases hValid : validateConsistency (adoptedRecord external adoption) with
      | error =>
        rw [hValid] at h
        cases h
      | ok =>
        rw [hValid] at h
        cases h
        exact ⟨rfl, rfl, rfl⟩
    | userAdopted | dismissedTerminal =>
      rw [hDisposition] at h
      cases h

/-- The status and the quantities of an order that can be adopted. -/
structure DiscoveredExternalOrder.Adoptable (external : DiscoveredExternalOrder) : Prop where
  status : external.brokerStatus ≠ .unknownSubmissionState
  filledNonneg : 0 ≤ external.filledQuantity
  fillsFit : external.filledQuantity ≤ external.quantityRequested

instance (external : DiscoveredExternalOrder) : Decidable external.Adoptable :=
  decidable_of_iff (external.brokerStatus ≠ .unknownSubmissionState ∧
    0 ≤ external.filledQuantity ∧ external.filledQuantity ≤ external.quantityRequested)
    ⟨fun ⟨hStatus, hFilled, hFits⟩ => ⟨hStatus, hFilled, hFits⟩,
      fun h => ⟨h.status, h.filledNonneg, h.fillsFit⟩⟩

/-- The record of an adoption is consistent exactly when the order is adoptable: an exact
identity does not go with an unknown submission state. -/
theorem adoptedRecord_consistent_iff
    (hObservable : external.brokerStatus ∈ brokerObservableStatuses)
    (hNamed : external.externalOrderId ≠ "") :
    (adoptedRecord external adoption).Consistent ↔ external.Adoptable := by
  constructor
  · intro h
    have hFits : external.filledQuantity + 0 ≤ external.quantityRequested := h.fillsFit
    refine ⟨?_, h.filledNonneg, by omega⟩
    intro hUnknown
    have hIdentity : BrokerIdentityStatus.exact_ ∈ legalIdentityStatuses external.brokerStatus :=
      h.identity
    rw [hUnknown] at hIdentity
    exact absurd hIdentity (by decide)
  · intro h
    have hFilled := h.filledNonneg
    have hFits := h.fillsFit
    have hIdentity : BrokerIdentityStatus.exact_ ∈
        legalIdentityStatuses external.brokerStatus := by
      have hStatus := h.status
      revert hObservable hStatus
      cases external.brokerStatus <;> decide
    exact
      { identity := hIdentity
        noBrokerOrder := fun hNever => nomatch hNever
        applicationPermissions := fun hNever => nomatch hNever
        adoptedFrom := fun _ => hNamed
        submittedNonneg := le_trans hFilled hFits
        filledNonneg := hFilled
        remainingNonneg := le_rfl
        fillsFit := by
          show external.filledQuantity + 0 ≤ external.quantityRequested
          omega
        attempt := le_rfl
        epoch := le_rfl }

/-- An attributed adoption of an adoptable unowned order returns. -/
theorem adoptExternalOrder_returns (hBy : strip adoption.adoptedBy ≠ "")
    (hUnowned : external.disposition = .discoveredUnowned)
    (hConsistent : (adoptedRecord external adoption).Consistent) :
    ∃ adopted, adoptExternalOrder external adoption =
      .ok (adoptedRecord external adoption, adopted) := by
  unfold adoptExternalOrder
  dsimp only
  rw [if_neg hBy, hUnowned, (validateConsistency_eq_ok_iff _).mpr hConsistent]
  exact ⟨_, rfl⟩

end QuantApp.Core
