import VielHome.Common.AppError
import VielHome.Common.Text
import VielHome.Common.Phone
import VielHome.Encoding.Rfc4180
import VielHome.Encoding.Percent
import VielHome.Common.Csv
import VielHome.Finance.ChargeItems
import VielHome.Finance.DebtSnapshot
import VielHome.Finance.Effect.Approval
import VielHome.Finance.Effect.Reversal
import VielHome.Finance.Policies
import VielHome.Finance.Repository.Adjustments
import VielHome.Finance.Repository.Approval
import VielHome.Finance.Repository.Charges
import VielHome.Finance.Repository.Funds
import VielHome.Finance.Repository.Payments
import VielHome.Finance.Schema
import VielHome.Finance.Service
import VielHome.Finance.Settlement
import VielHome.Finance.System
import VielHome.Relational.OrderBy
import VielHome.Relational.Run
import VielHome.Relational.Script
import VielHome.Relational.Table
import VielHome.Relational.Transaction
import VielHome.Relational.Waterfall
import VielHome.Finance.Effect.Adjustments
import VielHome.Finance.Effect.Charges
import VielHome.Finance.Effect.Funds
import VielHome.Finance.Effect.Reporting
import VielHome.Finance.Invariant.Valid
import VielHome.Finance.Invariant.Writes
import VielHome.Finance.Invariant.Bookkeeping
import VielHome.Finance.Invariant.Payments
import VielHome.Finance.Invariant.Effect
import VielHome.Finance.Invariant.Requests
import VielHome.Finance.Effect.ChargeItems
import VielHome.Finance.Invariant.Reachable
import VielHome.Finance.FundBalance
import VielHome.Finance.PaidAmounts
import VielHome.Finance.NetDebt
import VielHome.Finance.DebtConservation
import VielHome.Finance.BuildingIsolation
import VielHome.Finance.Receivables
import VielHome.Finance.ReportedPayments
import VielHome.Finance.Reservations
import VielHome.Finance.SelectableObligations
import VielHome.Finance.ConcurrentExpenses
import VielHome.Finance.PaymentIdempotency
import VielHome.Building.Service
import VielHome.Building.MembershipRequests
import VielHome.Building.Effect
import VielHome.Building.InviteNames
import VielHome.Building.Occupancy
import VielHome.Building.ConcurrentOwners
import VielHome.Backoffice.Policies
import VielHome.Backoffice.Repository
import VielHome.Backoffice.Service
import VielHome.Backoffice.SuspensionCalls
import VielHome.Backoffice.ConcurrentManagers
import VielHome.Relational.Leads
import VielHome.Backoffice.RecoveryMode
import VielHome.Gamification.Schema
import VielHome.Gamification.Policies
import VielHome.Gamification.Repository
import VielHome.Gamification.Service
import VielHome.Gamification.Agreement
import VielHome.Gamification.ReversedPayments
import VielHome.Gamification.AwardedScores
import VielHome.Relational.Overrides
import VielHome.Relational.Merges
import VielHome.Cases.Schema
import VielHome.Cases.Policies
import VielHome.Cases.Repository
import VielHome.Cases.Service
import VielHome.Cases.Merged
import VielHome.Cases.MergedCalls
import VielHome.Cases.Resolved
import VielHome.Relational.Guards
import VielHome.BuildingVerification.Schema
import VielHome.BuildingVerification.Service
import VielHome.BuildingVerification.Decided
import VielHome.BuildingVerification.DecidedCalls
import VielHome.Backup.Schema
import VielHome.Backup.Manifest
import VielHome.Documents.Schema
import VielHome.Documents.Policies
import VielHome.Documents.Repository
import VielHome.Documents.Service
import VielHome.Documents.Bindings
import VielHome.Documents.UploadCalls
import VielHome.Documents.UploadRuns
import VielHome.Documents.VersionHistory
import VielHome.Documents.ReceiptFiles
import VielHome.Relational.Embedding
import VielHome.Auth.Schema
import VielHome.Auth.Repository
import VielHome.Auth.Service
import VielHome.Auth.Chains
import VielHome.Auth.SessionCalls
import VielHome.Auth.Sessions
import VielHome.Auth.Guesses
import VielHome.Auth.GuessCalls
import VielHome.Auth.LatestCode
import VielHome.Backup.Repository
import VielHome.Backup.Runner
import VielHome.Backup.Restorable
import VielHome.Backup.RunnerCalls
import VielHome.Backup.Fencing
import VielHome.Backup.FencingCalls
import VielHome.Finance.ExpenseRetries
import VielHome.Finance.OldestFirst
import VielHome.Finance.UndoneApprovals
import VielHome.Finance.IssuedCredit
import VielHome.Finance.ExplicitSelections
import VielHome.Investigations.DecidedCalls
import VielHome.Marketplace.Published
import VielHome.Advertising.Exclusive
import VielHome.BuildingSetup.SavedDrafts
import VielHome.Governance.VotePolicy
import VielHome.Finance.AreaShares
import VielHome.Finance.ChargePreview
import VielHome.Advertising.SlotFill
import VielHome.Advertising.Delivery
import VielHome.Subscriptions.Schema
import VielHome.Subscriptions.Service
import VielHome.Subscriptions.Expiry
import VielHome.Relational.Batches
import VielHome.Subscriptions.History
import VielHome.Encoding.Url
import VielHome.Storage.Presigned
import VielHome.Relational.FinalCommit
import VielHome.Backoffice.Enforcements
import VielHome.Investigations.Detected
import VielHome.Relational.WriteThrough
import VielHome.Operations.Switches
import VielHome.Advertising.Images
import VielHome.Gamification.Reearned
import VielHome.Relational.Paging
import VielHome.Common.Pagination
import VielHome.Finance.DebtSummaries
import VielHome.Finance.BuildingSummary
import VielHome.Finance.LateFees
import VielHome.Finance.NonZeroAmounts
import VielHome.Finance.LateFeeCalls
import VielHome.Backoffice.OwnerApprovals
import VielHome.Relational.Noninterference
import VielHome.Documents.Confidential
import VielHome.Documents.Access
import VielHome.Documents.Listed
import VielHome.Governance.ElectionCalls
import VielHome.Governance.Sweeps
import VielHome.Governance.Proxies
import VielHome.Governance.Statuses
import VielHome.Governance.Tallies
import VielHome.Notifications.Dispatch
import VielHome.Numeric.Rounding
