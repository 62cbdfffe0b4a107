import VielHome.Backoffice.Service
import VielHome.Cases.Service
import VielHome.Relational.Embedding

/-!
# The tables of the investigations

Fraud cases, which are tables of the community, with the evidence of each; compliance cases, which
share their statuses; and the audit log, of which a sweep for anomalies reads what was rejected.
Columns that no modelled operation reads or writes are left out.
-/

namespace VielHome.Investigations

open Relational Community
open Relational.ReadCommitted (Database Event Mode Prog)

/-- A line of evidence. -/
structure FraudCaseEvidence where
  id : ℕ
  fraudCaseId : ℕ
  notes : String
  authorId : Option ℕ := none
  deriving DecidableEq

/-- What a compliance case is about. -/
inductive ComplianceCaseCategory
  | repeatedFraud
  | repeatedSuspension
  | financialAnomaly
  | other
  deriving DecidableEq

/-- A case of the compliance center. It shares its statuses with the fraud cases. -/
structure ComplianceCase where
  id : ℕ
  category : ComplianceCaseCategory
  status : FraudCaseStatus := .open
  priority : VerificationPriority := .normal
  subjectActorId : Option ℕ := none
  linkedEntityType : Option String := none
  linkedEntityId : Option String := none
  sourceAuditLogIds : List String := []
  description : String
  isAutoDetected : Bool := false
  activeDetectionKey : Option String := none
  openedById : Option ℕ := none
  assignedToId : Option ℕ := none
  decidedById : Option ℕ := none
  decisionReason : Option String := none
  decidedAt : Option Time := none
  deriving DecidableEq

/-- A line of the audit. -/
structure AuditLog where
  id : ℕ
  actorId : Option ℕ := none
  action : String
  deriving DecidableEq

/-- The tables of the community and of the cases, and those of the investigations. -/
structure Store extends caseTables : Cases.Store where
  fraudCaseEvidence : Table FraudCaseEvidence FraudCaseEvidence.id
  complianceCases : Table ComplianceCase ComplianceCase.id
  auditLogs : Table AuditLog AuditLog.id

namespace Store

/-- The store before anything happened. -/
def empty : Store where
  caseTables := Cases.Store.empty
  fraudCaseEvidence := .empty
  complianceCases := .empty
  auditLogs := .empty

/-- The tables of the community. -/
abbrev community (s : Store) : Community.Store := s.caseTables.toStore

/-- The tables of the community are others. -/
def putCommunity (c : Community.Store) (s : Store) : Store :=
  { s with caseTables := { s.caseTables with toStore := c } }

/-- The tables of the cases are others. -/
def putCases (c : Cases.Store) (s : Store) : Store := { s with caseTables := c }

/-! ### Writes to one table -/

/-- A change of the fraud cases. -/
def onFraudCases (f : Table FraudCase FraudCase.id → Table FraudCase FraudCase.id) (s : Store) :
    Store :=
  { s with fraudCases := f s.fraudCases }

/-- A change of the evidence. -/
def onFraudCaseEvidence
    (f : Table FraudCaseEvidence FraudCaseEvidence.id →
      Table FraudCaseEvidence FraudCaseEvidence.id) (s : Store) : Store :=
  { s with fraudCaseEvidence := f s.fraudCaseEvidence }

/-- A change of the compliance cases. -/
def onComplianceCases
    (f : Table ComplianceCase ComplianceCase.id → Table ComplianceCase ComplianceCase.id)
    (s : Store) : Store :=
  { s with complianceCases := f s.complianceCases }

end Store

/-! ### Calls and their locks -/

/-- What a statement locks: what the calls on the community and on the cases lock; a row of either
kind of case; and the entry of the unique index on the detection keys. -/
inductive Lock
  | community (lock : Community.Lock)
  | cases (lock : Cases.Lock)
  | fraudCase (id : ℕ)
  | complianceCase (id : ℕ)
  | detectionKey (key : String)
  deriving DecidableEq

/-- The database makes a statement wait for the lock. -/
def Lock.enforced : Lock → Bool
  | community lock => lock.enforced
  | cases lock => lock.enforced
  | fraudCase _ => true
  | complianceCase _ => true
  | detectionKey _ => true

/-- A program of statements on the tables. -/
abbrev Call (α : Type) : Type := Prog Store Lock Failure α

/-- A call on the tables of the community. -/
def onCommunity {α : Type} (p : Community.Call α) : Call α :=
  p.lift Store.community Store.putCommunity .community

/-- A call on the tables of the cases. -/
def onCases {α : Type} (p : Cases.Call α) : Call α :=
  p.lift Store.caseTables Store.putCases .cases

/-- The tables, the sessions that run a call each, and the locks they hold. -/
abbrev Sessions (ι α : Type) : Type := Database ι Store Lock Failure α

/-- The sessions after some events, each call about to start on the store. -/
def runCalls {ι α : Type} [DecidableEq ι] (s : Store) (calls : ι → Call α)
    (es : List (Event ι Failure)) : Sessions ι α :=
  Relational.runFrom (Database.next Lock.enforced) (Database.start s calls) es

end VielHome.Investigations
