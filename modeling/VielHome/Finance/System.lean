import VielHome.Relational.Run
import VielHome.Finance.Service

/-!
# The finance system

The system is the store together with the calls in flight: repository transactions whose
parameters a service method has already computed from its reads, and which have not run
yet. A request runs the statements of a service method before its transaction and, when
they succeed, puts the call in flight. Any call in flight may commit next, so the reads of
a request may be arbitrarily old when its transaction runs; it may also be lost, when the
database aborts it or the process stops.

Buildings and units are created and edited by another module. A unit never changes its
building.
-/

namespace VielHome.Finance

open Relational

/-- A repository transaction with the parameters a service method passes to it. -/
inductive Call
  | createFund (params : CreateFundParams)
  | updateFund (fundId : ℕ) (params : UpdateFundParams)
  | setFundActive (fundId : ℕ) (isActive : Bool)
  | createChargeSeries (buildingId : ℕ) (name : String)
  | createChargeBatch (params : CreateChargeBatchParams)
  | issueChargeBatch (params : IssueChargeBatchParams)
  | cancelChargeBatch (params : CancelChargeBatchParams)
  | createAdjustment (params : CreateAdjustmentParams)
  | applyOpeningBalanceCorrection (params : ApplyOpeningBalanceCorrectionParams)
  | createPayment (params : CreatePaymentParams)
  | createExplicitPayment (params : CreateExplicitPaymentParams)
  | approvePayment (params : ApprovePaymentParams)
  | rejectPayment (paymentId : ℕ) (reason : Option String)
  | reversePayment (params : ReversePaymentParams)
  | createRefund (params : CreateRefundParams)
  | createExpense (params : CreateExpenseParams)
  | voidExpense (params : VoidExpenseParams)
  deriving DecidableEq

/-- The building whose rows a call works on, where its parameters name it. -/
def Call.buildingId : Call → Option ℕ
  | createFund params => some params.buildingId
  | createChargeSeries buildingId _ => some buildingId
  | createChargeBatch params => some params.buildingId
  | issueChargeBatch params => some params.buildingId
  | cancelChargeBatch params => some params.buildingId
  | createAdjustment params => some params.buildingId
  | applyOpeningBalanceCorrection params => some params.buildingId
  | createPayment params => some params.buildingId
  | createExplicitPayment params => some params.buildingId
  | approvePayment params => some params.buildingId
  | reversePayment params => some params.buildingId
  | createRefund params => some params.buildingId
  | createExpense params => some params.buildingId
  | voidExpense params => some params.buildingId
  | updateFund .. | setFundActive .. | rejectPayment .. => none

/-- The store after the call's transaction: committed, or as it was. -/
def Call.exec (now : Time) (s : Store) : Call → Store
  | createFund params => (Finance.createFund params now).exec s
  | updateFund fundId params => (Finance.updateFund fundId params).exec s
  | setFundActive fundId isActive => (Finance.setFundActive fundId isActive).exec s
  | createChargeSeries buildingId name => (Finance.createChargeSeries buildingId name).exec s
  | createChargeBatch params => (Finance.createChargeBatch params now).exec s
  | issueChargeBatch params => (Finance.issueChargeBatch params now).exec s
  | cancelChargeBatch params => (Finance.cancelChargeBatch params).exec s
  | createAdjustment params => (Finance.createAdjustment params now).exec s
  | applyOpeningBalanceCorrection params =>
    (Finance.applyOpeningBalanceCorrection params now).exec s
  | createPayment params => (Finance.createPayment params now).exec s
  | createExplicitPayment params => (Finance.createExplicitPayment params now).exec s
  | approvePayment params => (Finance.approvePayment params now).exec s
  | rejectPayment paymentId reason => (Finance.rejectPayment paymentId reason).exec s
  | reversePayment params => (Finance.reversePayment params now).exec s
  | createRefund params => (Finance.createRefund params now).exec s
  | createExpense params => (Finance.createExpense params now).exec s
  | voidExpense params => (Finance.voidExpense params now).exec s

/-- A call of a service method. -/
inductive Request
  | createFund (buildingId : ℕ) (dto : FinanceService.CreateFundDto)
  | updateFund (buildingId fundId : ℕ) (dto : UpdateFundParams)
  | deactivateFund (buildingId fundId : ℕ)
  | reactivateFund (buildingId fundId : ℕ)
  | createChargeSeries (buildingId : ℕ) (name : String)
  | createChargeBatch (buildingId : ℕ) (dto : CreateChargeBatchDto) (actorPersonId : ℕ)
  | issueChargeBatch (buildingId chargeBatchId : ℕ)
  | cancelChargeBatch (buildingId chargeBatchId : ℕ)
  | createAdjustment (buildingId unitId : ℕ) (dto : FinanceService.CreateAdjustmentDto)
      (actorPersonId : ℕ)
  | applyLateFee (buildingId unitId chargeItemId actorPersonId : ℕ)
  | correctOpeningBalance (buildingId unitId : ℕ) (dto : FinanceService.CorrectOpeningBalanceDto)
      (actorPersonId : ℕ)
  | createPayment (occupancy : Occupancy) (buildingId unitId : ℕ)
      (dto : FinanceService.CreatePaymentDto)
  | createExplicitPayment (occupancy : Occupancy) (buildingId unitId : ℕ)
      (dto : FinanceService.CreateExplicitPaymentDto) (actorPersonId : ℕ)
  | approvePayment (buildingId paymentId actorPersonId : ℕ)
  | rejectPayment (buildingId paymentId : ℕ) (reason : Option String)
  | reversePayment (buildingId paymentId : ℕ)
  | refundPayment (buildingId paymentId : ℕ) (dto : FinanceService.RefundPaymentDto)
      (actorPersonId : ℕ)
  | createExpense (buildingId : ℕ) (dto : FinanceService.CreateExpenseDto) (actorPersonId : ℕ)
  | voidExpense (buildingId expenseId : ℕ) (voidReason : String) (actorPersonId : ℕ)

/-- The building a request is authorised for. -/
def Request.buildingId : Request → ℕ
  | createFund b .. | updateFund b .. | deactivateFund b .. | reactivateFund b ..
  | createChargeSeries b .. | createChargeBatch b .. | issueChargeBatch b ..
  | cancelChargeBatch b .. | createAdjustment b .. | applyLateFee b ..
  | correctOpeningBalance b .. | createPayment _ b .. | createExplicitPayment _ b ..
  | approvePayment b .. | rejectPayment b .. | reversePayment b .. | refundPayment b ..
  | createExpense b .. | voidExpense b .. => b

/-- The statements of the service method before its transaction, and the transaction they
lead to. -/
def Request.prepare (now : Time) : Request → Prepare Call
  | createFund b dto => do
    let params ← FinanceService.createFund b dto
    pure (.createFund params)
  | updateFund b fundId dto => do
    FinanceService.updateFund b fundId
    pure (.updateFund fundId dto)
  | deactivateFund b fundId => do
    FinanceService.deactivateFund b fundId
    pure (.setFundActive fundId false)
  | reactivateFund b fundId => do
    FinanceService.reactivateFund b fundId
    pure (.setFundActive fundId true)
  | createChargeSeries b name => do
    let name ← FinanceService.createChargeSeries b name
    pure (.createChargeSeries b name)
  | createChargeBatch b dto actor => do
    let params ← FinanceService.createChargeBatch b dto actor
    pure (.createChargeBatch params)
  | issueChargeBatch b chargeBatchId => do
    let params ← FinanceService.issueChargeBatch b chargeBatchId
    pure (.issueChargeBatch params)
  | cancelChargeBatch b chargeBatchId => do
    let params ← FinanceService.cancelChargeBatch b chargeBatchId
    pure (.cancelChargeBatch params)
  | createAdjustment b unitId dto actor => do
    let params ← FinanceService.createAdjustment b unitId dto actor
    pure (.createAdjustment params)
  | applyLateFee b unitId chargeItemId actor => do
    let params ← FinanceService.applyLateFee b unitId chargeItemId actor now
    pure (.createAdjustment params)
  | correctOpeningBalance b unitId dto actor => do
    let params ← FinanceService.correctOpeningBalance b unitId dto actor
    pure (.applyOpeningBalanceCorrection params)
  | createPayment occupancy b unitId dto => do
    let params ← FinanceService.createPayment occupancy b unitId dto
    pure (.createPayment params)
  | createExplicitPayment occupancy b unitId dto actor => do
    let params ← FinanceService.createExplicitPayment occupancy b unitId dto actor
    pure (.createExplicitPayment params)
  | approvePayment b paymentId actor => do
    let params ← FinanceService.approvePayment b paymentId actor
    pure (.approvePayment params)
  | rejectPayment b paymentId reason => do
    FinanceService.rejectPayment b paymentId
    pure (.rejectPayment paymentId reason)
  | reversePayment b paymentId => do
    let params ← FinanceService.reversePayment b paymentId
    pure (.reversePayment params)
  | refundPayment b paymentId dto actor => do
    let params ← FinanceService.refundPayment b paymentId dto actor
    pure (.createRefund params)
  | createExpense b dto actor => do
    let params ← FinanceService.createExpense b dto actor now
    pure (.createExpense params)
  | voidExpense b expenseId voidReason actor => do
    let params ← FinanceService.voidExpense b expenseId voidReason actor
    pure (.voidExpense params)

/-- The store and the calls in flight. -/
structure System where
  store : Store
  inFlight : List Call

/-- What can happen next. -/
inductive Event
  | addBuilding
  | addUnit (buildingId : ℕ) (unitNumber : String) (type : UnitType) (areaSqm : Option ℚ)
  | updateUnit (unitId : ℕ) (unitNumber : String) (type : UnitType) (areaSqm : Option ℚ)
  | request (request : Request) (now : Time)
  | commit (index : ℕ) (now : Time)
  | rollback (index : ℕ)

namespace System

/-- Nothing has happened. -/
def init : System := ⟨.empty, []⟩

/-- A request: what its service method does before its transaction. -/
def receive (S : System) (r : Request) (now : Time) : System :=
  match (r.prepare now).run S.store with
  | (.ok call, store) => ⟨store, S.inFlight ++ [call]⟩
  | (.error _, store) => ⟨store, S.inFlight⟩

/-- One event. An event that names no building, unit or call changes nothing. -/
def step (S : System) : Event → System
  | .addBuilding =>
    { S with store.buildings := S.store.buildings.create fun id => { id } }
  | .addUnit buildingId unitNumber type areaSqm =>
    if (S.store.buildings.find? buildingId).isSome then
      { S with
        store.units := S.store.units.create fun id =>
          { id, buildingId, unitNumber, type, areaSqm } }
    else S
  | .updateUnit unitId unitNumber type areaSqm =>
    { S with
      store.units := S.store.units.modify unitId fun u => { u with unitNumber, type, areaSqm } }
  | .request r now => S.receive r now
  | .commit index now =>
    match S.inFlight[index]? with
    | some call => ⟨call.exec now S.store, S.inFlight.eraseIdx index⟩
    | none => S
  | .rollback index => { S with inFlight := S.inFlight.eraseIdx index }

/-- The states the system can get into. -/
abbrev Reachable (S : System) : Prop := Relational.Reachable step init S

end System

end VielHome.Finance
