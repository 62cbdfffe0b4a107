import VielHome.Community.Schema
import Mathlib.Tactic.Simps.Basic

/-!
# Writes to one table

A statement writes to one table and leaves the others alone. Each table has one function
that rewrites it, and `simp` knows what the store holds afterwards.
-/

namespace VielHome.Community.Store

open Relational

/-- A change of the buildings. -/
@[simps]
def onBuildings (f : Table Building Building.id → Table Building Building.id) (s : Store) : Store :=
  { s with buildings := f s.buildings }

/-- A change of the units. -/
@[simps]
def onUnits (f : Table BuildingUnit BuildingUnit.id → Table BuildingUnit BuildingUnit.id) (s : Store) : Store :=
  { s with units := f s.units }

/-- A change of the people. -/
@[simps]
def onPersons (f : Table Person Person.id → Table Person Person.id) (s : Store) : Store :=
  { s with persons := f s.persons }

/-- A change of the memberships. -/
@[simps]
def onMemberships (f : Table Membership Membership.id → Table Membership Membership.id) (s : Store) : Store :=
  { s with memberships := f s.memberships }

/-- A change of the requests to join. -/
@[simps]
def onMembershipRequests (f : Table MembershipRequest MembershipRequest.id → Table MembershipRequest MembershipRequest.id) (s : Store) : Store :=
  { s with membershipRequests := f s.membershipRequests }

/-- A change of the ownerships. -/
@[simps]
def onOwnerships (f : Table Ownership Ownership.id → Table Ownership Ownership.id) (s : Store) : Store :=
  { s with ownerships := f s.ownerships }

/-- A change of the tenancies. -/
@[simps]
def onTenancies (f : Table Tenancy Tenancy.id → Table Tenancy Tenancy.id) (s : Store) : Store :=
  { s with tenancies := f s.tenancies }

/-- A change of the votes. -/
@[simps]
def onVotes (f : Table Vote Vote.id → Table Vote Vote.id) (s : Store) : Store :=
  { s with votes := f s.votes }

/-- A change of the options. -/
@[simps]
def onVoteOptions (f : Table VoteOption VoteOption.id → Table VoteOption VoteOption.id) (s : Store) : Store :=
  { s with voteOptions := f s.voteOptions }

/-- A change of the snapshots. -/
@[simps]
def onSnapshots (f : Table VoteEligibilitySnapshot VoteEligibilitySnapshot.id → Table VoteEligibilitySnapshot VoteEligibilitySnapshot.id) (s : Store) : Store :=
  { s with snapshots := f s.snapshots }

/-- A change of the ballots. -/
@[simps]
def onBallots (f : Table Ballot Ballot.id → Table Ballot Ballot.id) (s : Store) : Store :=
  { s with ballots := f s.ballots }

/-- A change of the results. -/
@[simps]
def onVoteResults (f : Table VoteResult VoteResult.id → Table VoteResult VoteResult.id) (s : Store) : Store :=
  { s with voteResults := f s.voteResults }

/-- A change of the proxies. -/
@[simps]
def onVoteProxies (f : Table VoteProxy VoteProxy.id → Table VoteProxy VoteProxy.id) (s : Store) : Store :=
  { s with voteProxies := f s.voteProxies }

/-- A change of the cases. -/
@[simps]
def onCases (f : Table ManagerVerificationCase ManagerVerificationCase.id → Table ManagerVerificationCase ManagerVerificationCase.id) (s : Store) : Store :=
  { s with cases := f s.cases }

/-- A change of the approvals. -/
@[simps]
def onApprovals (f : Table ManagerVerificationApproval ManagerVerificationApproval.id → Table ManagerVerificationApproval ManagerVerificationApproval.id) (s : Store) : Store :=
  { s with approvals := f s.approvals }

/-- A change of the actions. -/
@[simps]
def onEnforcementActions (f : Table EnforcementAction EnforcementAction.id → Table EnforcementAction EnforcementAction.id) (s : Store) : Store :=
  { s with enforcementActions := f s.enforcementActions }

/-! ### Several writes to one table -/

/-- Writes to one table, one after the other, are one write to it. -/
private theorem foldl_set {τ κ : Type} (get : Store → τ) (set : Store → τ → Store)
    (hget : ∀ s t, get (set s t) = t) (hset : ∀ s t t', set (set s t) t' = set s t')
    (hself : ∀ s, set s (get s) = s) (c : κ → τ → Bool) (f : κ → τ → τ) (ks : List κ) (s : Store) :
    ks.foldl (fun s k => if c k (get s) then set s (f k (get s)) else s) s =
      set s (ks.foldl (fun t k => if c k t then f k t else t) (get s)) := by
  induction ks generalizing s with
  | nil => exact (hself s).symm
  | cons k ks ih =>
    rw [List.foldl_cons, List.foldl_cons, ih]
    split
    · rw [hset, hget]
    · rfl

/-- An `updateMany` of memberships, row by row. -/
theorem foldl_onMemberships (s : Store) (p : Membership → Bool) (f : Membership → Membership)
    (h : ∀ m, (f m).id = m.id) :
    ((s.memberships.rows.filter p).map Membership.id).foldl
        (fun s id => if (s.memberships.find? id).any p then
          s.onMemberships (·.modify id f h) else s) s =
      s.onMemberships (·.updateMany p f h) := by
  refine (foldl_set Store.memberships (fun s t => { s with memberships := t }) (fun _ _ => rfl)
    (fun _ _ _ => rfl) (fun _ => rfl) (fun id t => (t.find? id).any p) (fun id t => t.modify id f h)
    _ s).trans ?_
  rw [Table.foldl_modify_filter]
  rfl

/-- An `updateMany` of ownerships, row by row. -/
theorem foldl_onOwnerships (s : Store) (p : Ownership → Bool) (f : Ownership → Ownership)
    (h : ∀ o, (f o).id = o.id) :
    ((s.ownerships.rows.filter p).map Ownership.id).foldl
        (fun s id => if (s.ownerships.find? id).any p then
          s.onOwnerships (·.modify id f h) else s) s =
      s.onOwnerships (·.updateMany p f h) := by
  refine (foldl_set Store.ownerships (fun s t => { s with ownerships := t }) (fun _ _ => rfl)
    (fun _ _ _ => rfl) (fun _ => rfl) (fun id t => (t.find? id).any p) (fun id t => t.modify id f h)
    _ s).trans ?_
  rw [Table.foldl_modify_filter]
  rfl

end VielHome.Community.Store
