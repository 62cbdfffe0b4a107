import VielHome.Marketplace.Service
import VielHome.Relational.Evolves

/-!
# What is published is what was reviewed

An `APPROVED` listing is as the decide call that approved it last had read it (`Published`), and the
status of a listing only goes the ways of the review (`Follows`), in every run whose writes find the
row as their calls have read it (`Write.Current`). A write that does not look again breaks both: an
edit that was begun while the listing was rejected can land after its resubmission and its approval
(`not_published_lateEdit`).
-/

namespace VielHome.Marketplace

open Relational
open Relational.ReadCommitted (Database Event Logged Prog)
open MarketplaceRepository (DecideParams ListingFields archived findById resubmitted)

variable {s : Logged Store Write} {t : Store} {id : ℕ} {w : Write}

/-! ### Statuses -/

/-- The ways of the review. -/
def Transition : ServiceProviderStatus → ServiceProviderStatus → Prop
  | .pending, .approved => True
  | .pending, .rejected => True
  | .rejected, .pending => True
  | .approved, .archived => True
  | _, _ => False

/-- From one store to the next a listing keeps its status or goes one of the ways, and a listing
that is new is pending. -/
def Follows (t t' : Store) : Prop :=
  Table.Evolves (fun p p' => p'.status = p.status ∨ Transition p.status p'.status)
    (fun p => p.status = .pending) t.serviceProviders t'.serviceProviders

theorem Follows.refl (t : Store) : Follows t t := by
  rw [Follows]
  refine Table.Evolves.refl ?_ t.serviceProviders
  exact fun p => Or.inl rfl

/-- An update of one listing goes one of the ways when the listing does. -/
theorem follows_modify {f : ServiceProvider → ServiceProvider} {hf : ∀ p, (f p).id = p.id}
    (h : ∀ p, findById id t = some p → (f p).status = p.status ∨ Transition p.status (f p).status) :
    Follows t ⟨t.serviceProviders.modify id f hf⟩ :=
  Table.evolves_modify (h := hf) (fun _ => Or.inl rfl) h

/-! ### Approvals -/

/-- What the call of an approval had read of the listing, and who the reviewer is. -/
def Write.approval (id : ℕ) : Write → Option (Listing × Option ℕ)
  | .decide provider params _ =>
    if params.id = id ∧ params.status = .approved then
      some (provider.toListing, some params.reviewedById)
    else none
  | _ => none

/-- The last approval of a listing. -/
def lastApproval (id : ℕ) (writes : List Write) : Option (Listing × Option ℕ) :=
  (writes.filterMap (Write.approval id)).getLast?

theorem lastApproval_append {writes : List Write} :
    lastApproval id (writes ++ [w]) = (w.approval id).or (lastApproval id writes) := by
  rw [lastApproval, List.filterMap_append]
  cases h : w.approval id with
  | none => simp [h, lastApproval]
  | some approval => simp [h]

/-- Every listing that is `APPROVED` is as the call that approved it last had read it, and names the
reviewer who made the call. -/
def Published (s : Logged Store Write) : Prop :=
  ∀ p ∈ s.data.serviceProviders, p.status = .approved →
    lastApproval p.id s.writes = some (p.toListing, p.reviewedById)

instance : DecidablePred Published := fun s =>
  inferInstanceAs (Decidable (∀ p ∈ s.data.serviceProviders, p.status = .approved →
    lastApproval p.id s.writes = some (p.toListing, p.reviewedById)))

theorem published_createProvider (h : Published s) (params : MarketplaceRepository.CreateParams)
    (now : Community.Time) : Published (s.make Write.apply (.createProvider params now)) := by
  intro p hp happroved
  rw [Logged.writes_make, lastApproval_append]
  rcases (Table.mem_create (h := params.row_id now)).mp hp with hp | rfl
  · exact h p hp happroved
  · cases happroved

/-- An update of one listing by a write that approves no other one. -/
theorem published_modify (h : Published s) {f : ServiceProvider → ServiceProvider}
    {hf : ∀ p, (f p).id = p.id}
    (hw : w.apply s.data = ⟨s.data.serviceProviders.modify id f hf⟩)
    (hothers : ∀ id', id' ≠ id → w.approval id' = none)
    (hrow : ∀ p, findById id s.data = some p → (f p).status = .approved →
      lastApproval id (s.writes ++ [w]) = some ((f p).toListing, (f p).reviewedById)) :
    Published (s.make Write.apply w) := by
  intro p' hp' happroved
  rw [Logged.data_make, hw] at hp'
  obtain ⟨p, hp, rfl⟩ := (Table.mem_modify (h := hf)).mp hp'
  rw [Logged.writes_make]
  by_cases hid : p.id = id
  · rw [if_pos hid] at happroved ⊢
    rw [hf, hid]
    exact hrow p (hid ▸ Table.find?_of_mem hp) happroved
  · rw [if_neg hid] at happroved ⊢
    rw [lastApproval_append, hothers _ hid]
    exact h p hp happroved

/-! ### Writes -/

/-- The row has the status that was read. -/
def SameStatus (provider : ServiceProvider) (t : Store) : Prop :=
  ∀ p ∈ findById provider.id t, p.status = provider.status

instance (provider : ServiceProvider) : DecidablePred (SameStatus provider) := fun t =>
  inferInstanceAs (Decidable (∀ p ∈ findById provider.id t, p.status = provider.status))

/-- The row has the listing that was read. -/
def SameListing (provider : ServiceProvider) (t : Store) : Prop :=
  ∀ p ∈ findById provider.id t, p.toListing = provider.toListing

instance (provider : ServiceProvider) : DecidablePred (SameListing provider) := fun t =>
  inferInstanceAs (Decidable (∀ p ∈ findById provider.id t, p.toListing = provider.toListing))

/-- The write finds the row with the status that its call has read, and an approval finds it with
the listing that its call has read. -/
def Write.Current : Write → Store → Prop
  | .createProvider _ _, _ => True
  | .updateListing provider _, t => SameStatus provider t
  | .resubmit provider _, t => SameStatus provider t
  | .decide provider params _, t =>
    SameStatus provider t ∧ (params.status = .approved → SameListing provider t)
  | .archive provider, t => SameStatus provider t

instance : (w : Write) → DecidablePred w.Current
  | .createProvider _ _ => fun _ => inferInstanceAs (Decidable True)
  | .updateListing provider _ => inferInstanceAs (DecidablePred (SameStatus provider))
  | .resubmit provider _ => inferInstanceAs (DecidablePred (SameStatus provider))
  | .decide provider params _ => fun t => inferInstanceAs (Decidable (SameStatus provider t ∧
      (params.status = .approved → SameListing provider t)))
  | .archive provider => inferInstanceAs (DecidablePred (SameStatus provider))

/-- What the call of the write has checked. -/
def Write.Checked : Write → Prop
  | .createProvider _ _ => True
  | .updateListing provider _ => provider.status = .rejected
  | .resubmit provider _ => provider.status = .rejected
  | .decide provider params _ => provider.status = .pending ∧ params.id = provider.id ∧
      (params.status = .approved ∨ params.status = .rejected)
  | .archive provider => provider.status = .approved

theorem Write.Checked.published (h : w.Checked) (hw : w.Current s.data) (hs : Published s) :
    Published (s.make Write.apply w) := by
  cases w with
  | createProvider params now => exact published_createProvider hs params now
  | updateListing provider fields =>
    -- an edit leaves the status, which is that of a rejected listing
    refine published_modify hs rfl (fun _ _ => rfl) fun p hp happroved => ?_
    have hstatus : p.status = .rejected := (hw p hp).trans h
    exact absurd (hstatus.symm.trans happroved) (by decide)
  | resubmit provider now =>
    exact published_modify hs rfl (fun _ _ => rfl) fun p _ happroved => nomatch happroved
  | decide provider params now =>
    obtain ⟨-, hid, -⟩ := h
    refine published_modify hs rfl (fun id' hne => ?_) fun p hp happroved => ?_
    · exact if_neg fun ⟨hid', _⟩ => hne hid'.symm
    · have hlisting : p.toListing = provider.toListing :=
        hw.2 happroved p (hid ▸ hp)
      have happroval : (Write.decide provider params now).approval params.id =
          some (provider.toListing, some params.reviewedById) := if_pos ⟨rfl, happroved⟩
      rw [lastApproval_append, happroval, ← hlisting]
      rfl
  | archive provider =>
    exact published_modify hs rfl (fun _ _ => rfl) fun p _ happroved => nomatch happroved

theorem Write.Checked.follows (h : w.Checked) (hw : w.Current t) : Follows t (w.apply t) := by
  cases w with
  | createProvider params now =>
    exact Table.evolves_create (h := params.row_id now) (fun _ => Or.inl rfl) rfl
  | updateListing provider fields => exact follows_modify fun p _ => Or.inl rfl
  | resubmit provider now =>
    refine follows_modify fun p hp => Or.inr ?_
    rw [hw p hp, show provider.status = .rejected from h]
    trivial
  | decide provider params now =>
    obtain ⟨hpending, hid, hstatus⟩ := h
    refine follows_modify fun p hp => Or.inr ?_
    rw [hw.1 p (hid ▸ hp), hpending]
    change Transition .pending params.status
    rcases hstatus with hstatus | hstatus <;> rw [hstatus] <;> trivial
  | archive provider =>
    refine follows_modify fun p hp => Or.inr ?_
    rw [hw p hp, show provider.status = .approved from h]
    trivial

/-! ### Calls -/

/-- Every call checks what it has read before it writes. -/
theorem MarketplaceCall.sends (c : MarketplaceCall) : c.call.Sends Write.apply Write.Checked := by
  have hcase : ∀ id {f : ServiceProvider → Call PUnit},
      (∀ p, p.id = id → (f p).Sends Write.apply Write.Checked) →
      (MarketplaceService.getCase id >>= f).Sends Write.apply Write.Checked := by
    intro id f hf
    rw [MarketplaceService.getCase, Prog.bind_assoc]
    exact Prog.Sends.read fun t => Prog.Sends.expect fun p hp => hf p (Table.key_of_find? hp)
  cases c with
  | submit callerPersonId dto now => exact Prog.Sends.send trivial
  | updateListing id callerPersonId dto =>
    exact Prog.Sends.read fun t => Prog.Sends.expect fun p _ => Prog.Sends.require fun _ =>
      Prog.Sends.require fun hstatus => Prog.Sends.send hstatus
  | resubmit id callerPersonId now =>
    exact Prog.Sends.read fun t => Prog.Sends.expect fun p _ => Prog.Sends.require fun _ =>
      Prog.Sends.require fun hstatus => Prog.Sends.send hstatus
  | decide id decision reviewerPersonId reason now =>
    refine hcase id fun p hp => Prog.Sends.require fun hstatus =>
      Prog.Sends.send ⟨hstatus, hp.symm, ?_⟩
    cases decision
    · exact Or.inl rfl
    · exact Or.inr rfl
  | archive id =>
    exact hcase id fun p _ => Prog.Sends.require fun hstatus => Prog.Sends.send hstatus

/-- The database on which the calls run. -/
abbrev Listings (ι : Type) := Database ι (Logged Store Write) Empty Failure PUnit

/-- The calls before any of them has run, on a marketplace without listings. -/
def startCalls {ι : Type} (calls : ι → MarketplaceCall) : Listings ι :=
  .start ⟨.empty, []⟩ fun i => (calls i).call

/-- The state after some events of the calls. -/
def runCalls {ι : Type} [DecidableEq ι] (calls : ι → MarketplaceCall)
    (es : List (Event ι Failure)) : Listings ι :=
  runFrom (Database.next Empty.elim) (startCalls calls) es

/-- Any number of calls, statement by statement in any order: as long as every write finds the row
with the status that its call has read, and every approval finds it with the listing that its call
has read, all that is published is what was reviewed, and statuses go the ways of the review. -/
theorem published_of_current {ι : Type} [DecidableEq ι] (calls : ι → MarketplaceCall)
    {es : List (Event ι Failure)}
    (hes : EachStep (Database.next Empty.elim) (Database.Fresh Write.Current) (startCalls calls)
      es) :
    (∀ es', es' <+: es → Published (runCalls calls es').store) ∧
      EachStep (Database.next Empty.elim) (fun d e => Follows d.store.data
        (d.next Empty.elim e).store.data) (startCalls calls) es := by
  have hempty : Published ⟨.empty, []⟩ := fun p hp => absurd hp Table.not_mem_empty
  have hall : EachStep (Database.next Empty.elim) (fun d e => Published (d.next Empty.elim e).store ∧
      Follows d.store.data (d.next Empty.elim e).store.data) (startCalls calls) es :=
    Database.eachStep_of_fresh (fun i => (calls i).sends) hes hempty Follows.refl
      fun s w hs hchecked hcurrent => ⟨hchecked.published hcurrent hs, hchecked.follows hcurrent⟩
  exact ⟨Database.forall_prefix_of_eachStep hempty (hall.mono fun _ _ h => h.1),
    hall.mono fun _ _ h => h.2⟩

/-! ### An edit that is late -/

/-- An owner submits a listing, the staff rejects it, the owner edits and resubmits it, and the
staff approves it. -/
def secondSubmission : Fin 5 → MarketplaceCall
  | 0 => .submit 1 { name := "Rahimi Elevators", category := .maintenance } 10
  | 1 => .decide 0 .reject 7 (some "No city is given.") 20
  | 2 => .updateListing 0 1 { name := some "Rahimi & Sons", city := some (some "Shiraz") }
  | 3 => .resubmit 0 1 30
  | _ => .decide 0 .approve 8 none 40

/-- The calls, one after the other. -/
def inTurn : List (Event (Fin 5) Failure) :=
  List.replicate 2 (Event.step 0) ++ List.replicate 3 (Event.step 1) ++ List.replicate 3 (Event.step 2) ++
    List.replicate 3 (Event.step 3) ++ List.replicate 3 (Event.step 4)

theorem published_of_current_inTurn :
    (∀ es', es' <+: inTurn → Published (runCalls secondSubmission es').store) ∧
      EachStep (Database.next Empty.elim) (fun d e => Follows d.store.data
        (d.next Empty.elim e).store.data) (startCalls secondSubmission) inTurn :=
  published_of_current secondSubmission (by decide +kernel)

/-- The edit reads the listing while it is rejected, and writes it after the approval. -/
def lateEdit : List (Event (Fin 5) Failure) :=
  List.replicate 2 (Event.step 0) ++ List.replicate 3 (Event.step 1) ++ [Event.step 2] ++
    List.replicate 3 (Event.step 3) ++ List.replicate 3 (Event.step 4) ++ List.replicate 2 (Event.step 2)

/-- The listing is `APPROVED` with a name and a city that no reviewer has read. -/
theorem not_published_lateEdit :
    ¬ Published (runCalls secondSubmission lateEdit).store ∧
      (findById 0 (runCalls secondSubmission lateEdit).store.data).map
        (fun p => (p.status, p.name, p.city)) =
          some (.approved, "Rahimi & Sons", some "Shiraz") ∧
      (lastApproval 0 (runCalls secondSubmission lateEdit).store.writes).map
        (fun approval => (approval.1.name, approval.1.city)) = some ("Rahimi Elevators", none) := by
  decide +kernel

end VielHome.Marketplace
