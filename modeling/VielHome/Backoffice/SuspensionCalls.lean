import VielHome.Backoffice.Suspensions

/-!
# Suspensions in any interleaving

Every commit of the calls that write to the flag of a person, or to the actions that hold it,
is one step of the flags and their overrides (`SuspensionCall.safe`), in any interleaving in
which

* nobody looks at the flag of a person, or at the actions that hold it, while somebody else who
  has looked has still to commit;
* nobody suspends an admin by enforcement while staff that has counted the usable admins has
  still to commit.

Under the first condition an active suspension suspends until an action that found the person
not suspended is overturned while another one holds the flag. Under the second some admin stays
usable until an enforcement action suspends the last one.
-/

namespace VielHome.Backoffice.Suspensions

open Relational Community
open Relational.ReadCommitted (Database Discipline Event Free Mode Prog not_free_of_exclusive)
open BackOfficeRepository (ChangePersonSuspensionParams EnforcementEffect EnforcementParams
  appealDecided appealDecided_id enforcementEffect isActiveAdmin isAdmin isUsableAdmin suspends)

variable {s s' : Store} {staff : Table PlatformStaff PlatformStaff.id} {fresh counted : Bool}

/-! ### The statements of the calls -/

variable {α β : Type} {last : Store} {notes : List (Lock × Mode × Store)} {pending : Store → Store}
  {post : β → Store → List (Lock × Mode × Store) → (Store → Store) → Prop}

/-- The session took the lock, if it is one that is kept, when the store was `s₀`. -/
def Took (fresh counted : Bool) (notes : List (Lock × Mode × Store)) (l : Lock) (m : Mode)
    (s₀ : Store) : Prop :=
  keeps fresh counted l = true → (l, m, s₀) ∈ notes

section Took

variable {l : Lock} {m m' : Mode} {s₀ : Store} {notes' : List (Lock × Mode × Store)}

/-- What was locked is locked with more locks. -/
theorem Took.mono (h : Took fresh counted notes l m s₀) (hnotes : ∀ n ∈ notes, n ∈ notes') :
    Took fresh counted notes' l m s₀ :=
  fun hkept => hnotes _ (h hkept)

/-- A statement has its locks. -/
theorem took_append {locks : List (Lock × Mode)} (h : (l, m) ∈ locks) :
    Took fresh counted (notes ++ (suspensionDiscipline fresh counted staff).taken locks s₀) l m s₀ :=
  fun hkept => List.mem_append_right _ (Discipline.mem_taken h hkept)

/-- What the lock protects is as it was. -/
theorem Took.same (h : Took fresh counted notes l m s₀)
    (hknows : (suspensionDiscipline fresh counted staff).Knows notes s)
    (hkept : keeps fresh counted l = true) : sameFor staff l m s₀ s :=
  hknows _ (h hkept) hkept

/-- Nobody else has the lock. -/
theorem Took.not_free (h : Took fresh counted notes l .exclusive s₀) (hfree : Free notes l m)
    (hkept : keeps fresh counted l = true) : False :=
  not_free_of_exclusive (h hkept) hfree

end Took

/-- A lock alone. -/
theorem safe_advisoryLock {lock : Lock} {f : PUnit → Call β}
    (h : ∀ s notes', (suspensionDiscipline fresh counted staff).Later last s →
      (∀ n ∈ notes, n ∈ notes') →
        (f ⟨⟩).Safe (suspensionDiscipline fresh counted staff) post s notes' pending) :
    (advisoryLock lock >>= f).Safe (suspensionDiscipline fresh counted staff) post last notes
      pending := by
  rw [advisoryLock]
  exact Prog.Safe.write fun s _ hlast _ => h s _ hlast fun _ hn => List.mem_append_left _ hn

/-- The flag of a person is written, of a row that matches to the commit. -/
theorem safe_claimPerson {personId : ℕ} {p : Person → Bool} {e : Failure} {w : Person → Person}
    {hw : ∀ r, (w r).id = r.id} {f : PUnit → Call β}
    (hpending : ∀ s, (pending s).persons = s.persons)
    (h : ∀ s₁ s₂ r notes', (∀ n ∈ notes, n ∈ notes') →
      Took fresh counted notes' (.suspension personId) .exclusive s₁ →
      Took fresh counted notes' (.row .person personId) .exclusive s₂ →
      (suspensionDiscipline fresh counted staff).Later last s₂ →
      s₂.persons.find? personId = some r → p r = true →
        (f ⟨⟩).Safe (suspensionDiscipline fresh counted staff) post s₂ notes' fun s =>
          (pending s).onPersons (·.modify personId w hw)) :
    (claimPerson personId p e w hw >>= f).Safe (suspensionDiscipline fresh counted staff) post last
      notes pending := by
  rw [claimPerson, Prog.bind_assoc]
  refine Prog.Safe.queryUnder fun s₁ _ hlast₁ _ => ?_
  rw [Prog.bind_assoc]
  refine Prog.Safe.require fun _ => Prog.Safe.writeIf fun s₂ _ hlast₂ _ hmatched => ?_
  rw [hpending] at hmatched
  obtain ⟨r, hr, hp⟩ := (Option.any_eq_true _ _).mp hmatched
  refine h s₁ s₂ r _ (fun n hn => ?_) ?_ ?_ (Relation.ReflTransGen.trans hlast₁ hlast₂) hr hp
  · exact List.mem_append_left _ (List.mem_append_left _ hn)
  · exact (took_append (List.mem_singleton.mpr rfl)).mono fun _ hn => List.mem_append_left _ hn
  · exact took_append (List.mem_singleton.mpr rfl)

/-! ### Suspensions by staff -/

/-- What was checked before the flag of the person is set, or unset. -/
def Checked (fresh counted : Bool) (staff : Table PlatformStaff PlatformStaff.id)
    (notes : List (Lock × Mode × Store)) (params : ChangePersonSuspensionParams) : Prop :=
  (params.suspend = true → params.targetPersonId ∈ admins staff →
    ∃ s₀, Took fresh counted notes .usableAdmins .exclusive s₀ ∧
      ∃ p ∈ admins staff, p ≠ params.targetPersonId ∧ isSuspended s₀ p = false) ∧
  (params.suspend = false → ∃ s₀,
    Took fresh counted notes (.suspension params.targetPersonId) .exclusive s₀ ∧
      (suspensions s₀).Unheld params.targetPersonId)

/-- What was checked stays checked with more locks. -/
theorem Checked.mono {params : ChangePersonSuspensionParams}
    {notes' : List (Lock × Mode × Store)} (h : Checked fresh counted staff notes params)
    (hnotes : ∀ n ∈ notes, n ∈ notes') : Checked fresh counted staff notes' params := by
  refine ⟨fun hsuspend hadmin => ?_, fun hreinstate => ?_⟩
  · obtain ⟨s₀, htook, hother⟩ := h.1 hsuspend hadmin
    exact ⟨s₀, htook.mono hnotes, hother⟩
  · obtain ⟨s₀, htook, hunheld⟩ := h.2 hreinstate
    exact ⟨s₀, htook.mono hnotes, hunheld⟩

/-- Another usable admin was counted. -/
theorem exists_other_admin (hs : Consistent staff s) {t : PlatformStaff} (ht : t ∈ staff)
    (hothers : BackOfficeRepository.otherUsableAdmins t.id s ≠ 0) :
    ∃ p ∈ admins staff, p ≠ t.personId ∧ isSuspended s p = false := by
  obtain ⟨t', ht'⟩ := List.exists_mem_of_length_pos (Nat.pos_of_ne_zero hothers)
  obtain ⟨hmem, hother⟩ := List.mem_filter.mp ht'
  obtain ⟨hne, husable⟩ := of_decide_eq_true hother
  obtain ⟨hadmin, -, hunset⟩ := isUsableAdmin_eq_true.mp husable
  have hmem' : t' ∈ staff := hs.platformStaff ▸ hmem
  refine ⟨t'.personId, ⟨t', hmem', rfl, hadmin⟩, fun hsame => hne ?_, hunset⟩
  rw [hs.unique t' hmem' t ht hsame]

/-- The staff row of an admin is the one that was found. -/
theorem found_of_admin (hs : Consistent staff s) {personId : ℕ} (hadmin : personId ∈ admins staff)
    {targetStaff : Option PlatformStaff}
    (hfound : BackOfficeRepository.findSuspensionTarget personId s = some targetStaff) :
    ∃ t ∈ staff, targetStaff = some t ∧ t.personId = personId ∧ isActiveAdmin t = true := by
  obtain ⟨t, ht, rfl, hactive⟩ := hadmin
  obtain ⟨r, -, rfl⟩ := Option.map_eq_some_iff.mp hfound
  refine ⟨t, ht, ?_, rfl, hactive⟩
  have ht' : t ∈ s.platformStaff.rows := hs.platformStaff ▸ ht
  cases hrow : s.platformStaff.rows.find? fun staff => staff.personId = t.personId with
  | none =>
    have hnot := List.find?_eq_none.mp hrow t ht'
    exact absurd (decide_eq_true rfl) hnot
  | some t' =>
    have hmem : t' ∈ staff := hs.platformStaff ▸ List.mem_of_find?_eq_some hrow
    rw [hs.unique t' hmem t ht (by simpa using List.find?_some hrow)]

/-- What follows may rely on the checks of a suspension. -/
theorem safe_assertSuspensionChange {params : ChangePersonSuspensionParams}
    {targetStaff : Option PlatformStaff} {f : PUnit → Call β}
    (hfound : params.targetPersonId ∈ admins staff → ∃ t ∈ staff, targetStaff = some t ∧
      t.personId = params.targetPersonId ∧ isActiveAdmin t = true)
    (h : ∀ s notes', Checked fresh counted staff notes' params →
      (f ⟨⟩).Safe (suspensionDiscipline fresh counted staff) post s notes' id) :
    (BackOfficeRepository.assertSuspensionChange params targetStaff >>= f).Safe
      (suspensionDiscipline fresh counted staff) post last notes id := by
  rw [BackOfficeRepository.assertSuspensionChange, Prog.ite_bind]
  split
  case isTrue hsuspend =>
    have hno : ¬ params.suspend = false := by simp [hsuspend]
    have hpass : params.targetPersonId ∉ admins staff →
        (f ⟨⟩).Safe (suspensionDiscipline fresh counted staff) post last notes id := fun hnot =>
      h last notes ⟨fun _ hadmin => absurd hadmin hnot, fun h => absurd h hno⟩
    cases targetStaff with
    | none =>
      refine hpass fun hadmin => ?_
      obtain ⟨t, -, h, -⟩ := hfound hadmin
      cases h
    | some t =>
      rw [BackOfficeRepository.refuseLastAdmin, Prog.ite_bind]
      split
      case isTrue hactive =>
        rw [Prog.bind_assoc]
        refine safe_advisoryLock fun s₁ notes₁ _ _ => ?_
        rw [Prog.bind_assoc]
        refine Prog.Safe.queryUnder fun s₂ hs₂ _ _ => Prog.Safe.require fun hothers => ?_
        refine h s₂ _ ⟨fun _ hadmin => ⟨s₂, took_append (List.mem_singleton.mpr rfl), ?_⟩,
          fun h => absurd h hno⟩
        obtain ⟨t', ht', heq, hperson, -⟩ := hfound hadmin
        obtain rfl := Option.some.inj heq
        rw [← hperson]
        exact exists_other_admin hs₂ ht' hothers
      case isFalse hinactive =>
        refine hpass fun hadmin => hinactive ?_
        obtain ⟨t', -, heq, -, hactive⟩ := hfound hadmin
        rw [Option.some.inj heq]
        exact hactive
  case isFalse hreinstate =>
    rw [BackOfficeRepository.refuseEnforced, Prog.bind_assoc]
    refine Prog.Safe.queryUnder fun s₁ _ _ _ => Prog.Safe.require fun hnone => ?_
    exact h s₁ _ ⟨fun h => absurd h hreinstate, fun _ =>
      ⟨s₁, took_append (List.mem_singleton.mpr rfl), unheld_of_not_enforced hnone⟩⟩

/-- A suspension by the staff keeps the discipline. -/
theorem safe_changePersonSuspensionAtomically (params : ChangePersonSuspensionParams) :
    (BackOfficeRepository.changePersonSuspensionAtomically params).Safe
      (suspensionDiscipline fresh counted staff) (fun _ _ _ _ => True) last [] id := by
  rw [BackOfficeRepository.changePersonSuspensionAtomically, Prog.transaction]
  simp only [Prog.bind_assoc]
  refine safe_advisoryLock fun _ notes₀ _ _ => Prog.Safe.require fun _ => ?_
  refine Prog.Safe.query fun _ _ _ _ => Prog.Safe.query fun s₀ hs₀ _ _ => ?_
  refine Prog.Safe.expect fun targetStaff hfound => Prog.Safe.expect fun actor _ => ?_
  refine Prog.Safe.require fun _ => ?_
  refine safe_assertSuspensionChange (fun hadmin => found_of_admin hs₀ hadmin hfound)
    fun _ notes₁ hchecked => ?_
  refine safe_claimPerson (fun _ => rfl) fun s₁ s₂ r notes₂ hnotes htook hrow _ hr hmatched => ?_
  refine Prog.Safe.commitAll fun s hs _ hknows => ?_
  have hchecked := hchecked.mono hnotes
  have hr' : s.persons.find? params.targetPersonId = some r := hrow.same hknows rfl r hr
  refine Commits.conclude (staff_commit
    (f := fun r : Person => { r with isSuspended := params.suspend }) (h := fun _ => rfl) hs rfl hr'
    rfl rfl (fun hsuspend hcounted hadmin => ?_) (fun hreinstate hfresh => ?_) rfl)
    (fun l m hl hkept hdisturbed => ?_) trivial
  · obtain ⟨s₀, htook, p, hp, hne, hunset⟩ := hchecked.1 hsuspend hadmin
    exact ⟨p, hp, hne, htook.same hknows hcounted p hp hunset⟩
  · obtain ⟨s₀, htook, hunheld⟩ := hchecked.2 hreinstate
    exact (htook.same hknows hfresh).2 hunheld
  · rcases hdisturbed with rfl | rfl | ⟨hsuspend, rfl, rfl, hadmin⟩
    · exact hrow.not_free hl hkept
    · exact htook.not_free hl hkept
    · obtain ⟨s₀, htook, -⟩ := hchecked.1 hsuspend hadmin
      exact htook.not_free hl hkept

/-! ### Enforcement actions -/

/-- Which actions have suspended somebody. -/
theorem reversedEffect_eq_suspendAccount {a : EnforcementAction} {personId : ℕ} :
    BackOfficeRepository.reversedEffect a = some (.suspendAccount personId) ↔
      a.type = .accountSuspension ∧ a.targetPersonId = some personId := by
  rw [BackOfficeRepository.reversedEffect]
  unfold enforcementEffect
  split
  case h_1 htype htarget =>
    refine ⟨fun h => ?_, fun h => ?_⟩
    · cases h
      exact ⟨htype, htarget⟩
    · rw [htarget] at h
      rw [Option.some.inj h.2]
  case h_2 htype _ _ => exact iff_of_false nofun fun h => by simp [htype] at h
  case h_3 htype _ _ _ => exact iff_of_false nofun fun h => by simp [htype] at h
  case h_4 hno _ _ => exact iff_of_false nofun fun h => hno _ h.1 h.2

/-- An action with another effect suspends nobody. -/
theorem suspensionOf_eq_none {a : EnforcementAction}
    (h : ∀ personId, BackOfficeRepository.reversedEffect a ≠ some (.suspendAccount personId)) :
    suspensionOf a = none := by
  rw [suspensionOf]
  split
  case isTrue hactive =>
    refine Option.map_eq_none_iff.mpr ?_
    cases htarget : a.targetPersonId with
    | none => rfl
    | some personId =>
      exact absurd (reversedEffect_eq_suspendAccount.mpr ⟨hactive.1, htarget⟩) (h personId)
  case isFalse => rfl

/-- What an issued action has done, and the locks it took for that. -/
inductive Applied (fresh counted : Bool) (staff : Table PlatformStaff PlatformStaff.id)
    (notes : List (Lock × Mode × Store)) (pending : Store → Store) :
    Option EnforcementEffect → Option PreviousTargetState → Prop
  | suspendAccount {personId : ℕ} {r₀ r : Person} {s₀ s₁ : Store}
      (hfound : s₀.persons.find? personId = some r₀)
      (hlooked : Took fresh counted notes (.suspension personId) .exclusive s₀)
      (hadmin : personId ∈ admins staff → Took fresh counted notes .usableAdmins .shared s₀)
      (hr : s₁.persons.find? personId = some r)
      (hrow : Took fresh counted notes (.row .person personId) .exclusive s₁)
      (hpending : ∀ s, (pending s).platformStaff = s.platformStaff ∧
        (pending s).enforcementActions = s.enforcementActions ∧
        (pending s).persons =
          s.persons.modify personId (fun r => { r with isSuspended := true }) fun _ => rfl) :
      Applied fresh counted staff notes pending (some (.suspendAccount personId))
        (some (.person r₀.isSuspended))
  | other {effect : Option EnforcementEffect} {previous : Option PreviousTargetState}
      (heffect : ∀ personId, effect ≠ some (.suspendAccount personId))
      (hpending : ∀ s, (pending s).platformStaff = s.platformStaff ∧
        (pending s).enforcementActions = s.enforcementActions ∧ (pending s).persons = s.persons) :
      Applied fresh counted staff notes pending effect previous

/-- What follows the effect of an action. -/
theorem safe_applyEffect {effect : Option EnforcementEffect} {now : Time}
    {f : Option PreviousTargetState → Call β}
    (h : ∀ previous s notes' pending', Applied fresh counted staff notes' pending' effect previous →
      (f previous).Safe (suspensionDiscipline fresh counted staff) post s notes' pending') :
    (BackOfficeRepository.applyEffect now effect >>= f).Safe
      (suspensionDiscipline fresh counted staff) post last [] id := by
  unfold BackOfficeRepository.applyEffect
  split
  case h_1 personId =>
    rw [Prog.bind_assoc]
    refine Prog.Safe.queryUnder fun s₀ hs₀ hlast₀ _ => ?_
    rw [Prog.bind_assoc]
    refine Prog.Safe.expect fun r₀ hr₀ => ?_
    rw [Prog.bind_assoc, Building.updatePerson]
    refine Prog.Safe.writeIf fun s₁ _ _ _ hpresent => h _ s₁ _ _ ?_
    obtain rfl : r₀.id = personId := Table.key_of_find? hr₀
    obtain ⟨r, hr⟩ := Option.isSome_iff_exists.mp hpresent
    -- the lookups keep their locks up to the commit
    have hlocks : ∀ l m, (l, m) ∈ BackOfficeRepository.lookedForTarget r₀.id s₀ → ∀ notes₁,
        Took fresh counted (([] : List (Lock × Mode × Store)) ++
          (suspensionDiscipline fresh counted staff).taken
            (BackOfficeRepository.lookedForTarget r₀.id s₀) s₀ ++ notes₁) l m s₀ :=
      fun l m hl notes₁ => (took_append hl).mono fun _ hn => List.mem_append_left _ hn
    refine .suspendAccount hr₀ (hlocks _ _ List.mem_cons_self _) (fun hadmin => hlocks _ _ ?_ _) hr
      (took_append (List.mem_singleton.mpr rfl)) fun s => ⟨rfl, rfl, rfl⟩
    rw [BackOfficeRepository.lookedForTarget,
      if_pos (isAdmin_eq_true.mpr (hs₀.platformStaff.symm ▸ hadmin))]
    exact List.mem_cons_of_mem _ (List.mem_singleton.mpr rfl)
  case h_2 buildingId =>
    rw [Prog.bind_assoc]
    refine Prog.Safe.query fun s₀ _ _ _ => ?_
    rw [Prog.bind_assoc]
    refine Prog.Safe.expect fun target _ => ?_
    rw [Prog.bind_assoc, Building.updateBuilding]
    refine Prog.Safe.writeIf fun s₁ _ _ _ _ => h _ s₁ _ _ ?_
    -- the suspension of a building is no suspension of an account
    exact .other (fun _ h => by cases h) fun s => ⟨rfl, rfl, rfl⟩
  case h_3 membershipId buildingId =>
    rw [Prog.bind_assoc]
    refine Prog.Safe.query fun s₀ _ _ _ => ?_
    rw [Prog.bind_assoc]
    refine Prog.Safe.expect fun membership _ => ?_
    rw [Prog.bind_assoc]
    refine Prog.Safe.query fun s₁ _ _ _ => ?_
    rw [Prog.bind_assoc]
    refine Prog.Safe.expect fun building _ => ?_
    rw [Prog.bind_assoc]
    refine Prog.Safe.require fun _ => ?_
    rw [Prog.bind_assoc, Building.updateMembership]
    refine Prog.Safe.writeIf fun s₂ _ _ _ _ => ?_
    rw [Prog.bind_assoc, Building.updateBuilding]
    refine Prog.Safe.writeIf fun s₃ _ _ _ _ => h _ s₃ _ _ ?_
    exact .other (fun _ h => by cases h) fun s => ⟨rfl, rfl, rfl⟩
  case h_4 => exact h none last [] id (.other (fun _ h => by cases h) fun s => ⟨rfl, rfl, rfl⟩)

/-- The row of an action that is issued. -/
def recorded (params : EnforcementParams) (previous : Option PreviousTargetState) (id : ℕ) :
    EnforcementAction :=
  { id, fraudCaseId := params.fraudCaseId, type := params.type, targetType := params.targetType,
    targetPersonId := params.targetPersonId, targetBuildingId := params.targetBuildingId,
    targetMembershipId := params.targetMembershipId, reason := params.reason,
    issuedById := params.issuedById, idempotencyKey := some params.idempotencyKey,
    effectApplied := params.effect.isSome, previousTargetState := previous }

theorem recorded_id (params : EnforcementParams) (previous : Option PreviousTargetState) (id : ℕ) :
    (recorded params previous id).id = id := rfl

/-- The record of an action that suspends says so. -/
theorem suspensionOf_recorded {params : EnforcementParams} {personId id : ℕ} {b : Bool}
    (heffect : params.effect = some (.suspendAccount personId)) :
    suspensionOf (recorded params (some (.person b)) id) = some (personId, b) := by
  obtain ⟨htype, htarget⟩ := (reversedEffect_eq_suspendAccount
    (a := recorded params (some (.person b)) id)).mp heffect
  have happlied : (recorded params (some (.person b)) id).effectApplied = true := by
    rw [recorded, heffect]
    rfl
  rw [suspensionOf, if_pos ⟨htype, happlied, rfl⟩, htarget]
  rfl

/-- The writes of an action commit together with its record. -/
theorem record_applied {params : EnforcementParams} {previous : Option PreviousTargetState}
    (hs : Consistent staff s)
    (hknows : (suspensionDiscipline fresh counted staff).Knows notes s)
    (happlied : Applied fresh counted staff notes pending params.effect previous)
    (hs' : s' = (pending s).onEnforcementActions
      (·.create (recorded params previous) (recorded_id params previous))) :
    Commits fresh counted staff
      (fun l m => keeps fresh counted l = true → ¬ Free notes l m) s s' := by
  have hcreated : (pending s).enforcementActions = s.enforcementActions →
      s'.enforcementActions = s.enforcementActions.create (recorded params previous)
        (recorded_id params previous) := by
    intro hactions
    rw [hs', Store.onEnforcementActions_enforcementActions, hactions]
  generalize heffect : params.effect = effect at happlied
  cases happlied with
  | @suspendAccount personId r₀ r s₀ s₁ hfound hlooked hadmin hr hrow hpending =>
    obtain ⟨hstaff, hactions, hpersons⟩ := hpending s
    have hr' : s.persons.find? personId = some r := hrow.same hknows rfl r hr
    -- the flag is as it was read
    have hfresh : fresh = true → r₀.isSuspended = r.isSuspended := by
      intro hfresh
      have hsame := (hlooked.same hknows hfresh).1
      rw [isSuspended, isSuspended, hr', hfound] at hsame
      exact hsame.symm
    refine Commits.mono (issue_commit (f := fun r : Person => { r with isSuspended := true })
      (h := fun _ => rfl) hs (hs' ▸ hstaff) hr' rfl (hs' ▸ hpersons) rfl (hcreated hactions)
      (suspensionOf_recorded heffect) rfl hfresh) fun l m hd hkept hfree => ?_
    rcases hd with rfl | rfl | ⟨-, rfl, rfl, hmem⟩
    · exact hrow.not_free hfree hkept
    · exact hlooked.not_free hfree hkept
    · have hcompatible := hfree _ (hadmin hmem hkept) rfl
      cases hcompatible
  | other hother hpending =>
    obtain ⟨hstaff, hactions, hpersons⟩ := hpending s
    refine record_commit hs (hs' ▸ hstaff) (hs' ▸ hpersons) (hcreated hactions) ?_ rfl
    exact suspensionOf_eq_none fun personId h => hother personId (heffect.symm.trans h)

/-- An action keeps the discipline. -/
theorem safe_issueAction (params : EnforcementParams) (now : Time) :
    (BackOfficeRepository.issueAction params now).Safe (suspensionDiscipline fresh counted staff)
      (fun _ _ _ _ => True) last [] id := by
  rw [BackOfficeRepository.issueAction, Prog.transaction, Prog.bind_assoc]
  refine safe_applyEffect fun previous _ notes pending happlied => ?_
  rw [BackOfficeRepository.insertAction]
  refine Prog.Safe.writeUnless fun _ _ _ _ _ => Prog.Safe.commitAll fun s hs _ hknows => ?_
  refine Commits.conclude (record_applied hs (fun n hn => hknows n (List.mem_append_left _ hn))
    happlied rfl) (fun l m hl hkept hdisturbed => hdisturbed hkept fun n hn => ?_) trivial
  exact hl n (List.mem_append_left _ hn)

/-- What follows, where the target is right. -/
theorem safe_assertTargetMatchesType {dto : FraudCaseService.EnforceDto} {kase : FraudCase}
    {f : PUnit → Call β}
    (h : (f ⟨⟩).Safe (suspensionDiscipline fresh counted staff) post last notes pending) :
    (FraudCaseService.assertTargetMatchesType dto kase >>= f).Safe
      (suspensionDiscipline fresh counted staff) post last notes pending := by
  rw [FraudCaseService.assertTargetMatchesType, Prog.bind_assoc]
  refine Prog.Safe.require fun _ => ?_
  rw [Prog.bind_assoc]
  refine Prog.Safe.require fun _ => ?_
  unfold FraudCaseService.assertTarget
  split
  all_goals
    rw [Prog.bind_assoc]
    exact Prog.Safe.require fun _ => Prog.Safe.require fun _ => h

/-- `enforce` keeps the discipline. -/
theorem safe_enforce (caseId : ℕ) (dto : FraudCaseService.EnforceDto) (issuedById : ℕ)
    (requestId : String) (now : Time) :
    (FraudCaseService.enforce caseId dto issuedById requestId now).Safe
      (suspensionDiscipline fresh counted staff) (fun _ _ _ _ => True) last [] id := by
  rw [FraudCaseService.enforce, FraudCaseService.getCase, Prog.bind_assoc]
  refine Prog.Safe.query fun _ _ _ _ => Prog.Safe.expect fun kase _ => ?_
  refine Prog.Safe.require fun _ => safe_assertTargetMatchesType ?_
  refine Prog.Safe.query fun _ _ _ _ => Prog.Safe.expect fun issuer _ => ?_
  rw [FraudCasePolicy.assertCanIssueEnforcement]
  refine Prog.Safe.require fun _ => ?_
  rw [BackOfficeRepository.createEnforcementActionWithEffect]
  refine Prog.Safe.query fun _ _ _ _ => ?_
  split
  · trivial
  refine Prog.Safe.tryCatch (safe_issueAction _ now) fun e last => ?_
  unfold BackOfficeRepository.recoverAction
  split
  · exact Prog.Safe.query fun _ _ _ _ => Prog.Safe.expect fun _ _ => trivial
  · trivial

/-! ### Appeals -/

/-- What follows, with the action that was found. -/
theorem safe_getAction {actionId : ℕ} {f : EnforcementAction → Call β}
    (h : ∀ s a, (f a).Safe (suspensionDiscipline fresh counted staff) post s notes pending) :
    (FraudCaseService.getAction actionId >>= f).Safe (suspensionDiscipline fresh counted staff) post
      last notes pending := by
  rw [FraudCaseService.getAction, Prog.bind_assoc]
  exact Prog.Safe.query fun s _ _ _ => Prog.Safe.expect fun a _ => h s a

/-- An action that matches is rewritten, and is the same to the commit. -/
theorem safe_claimAction {actionId : ℕ} {p : EnforcementAction → Bool} {e : Failure}
    {w : EnforcementAction → EnforcementAction} {hw : ∀ a, (w a).id = a.id} {f : PUnit → Call β}
    (h : ∀ s₁ a notes', Consistent staff s₁ →
      (suspensionDiscipline fresh counted staff).Later last s₁ →
      s₁.enforcementActions.find? actionId = some a → p a = true →
      Took fresh counted notes' (.row .enforcementAction actionId) .exclusive s₁ →
        (f ⟨⟩).Safe (suspensionDiscipline fresh counted staff) post s₁ notes' fun s =>
          s.onEnforcementActions (·.modify actionId w hw)) :
    (claimAction actionId p e w hw >>= f).Safe (suspensionDiscipline fresh counted staff) post last
      notes id := by
  rw [claimAction]
  refine Prog.Safe.claim fun s₁ hs₁ hlast hknows hmatched => ?_
  obtain ⟨a, ha, hp⟩ := (Option.any_eq_true _ _).mp hmatched
  exact h s₁ a _ hs₁ hlast ha hp (took_append (List.mem_singleton.mpr rfl))

/-- An appeal keeps the discipline. -/
theorem safe_appealEnforcement (actionId callerPersonId : ℕ) (reason : Option String) (now : Time) :
    (FraudCaseService.appealEnforcement actionId callerPersonId reason now).Safe
      (suspensionDiscipline fresh counted staff) (fun _ _ _ _ => True) last [] id := by
  rw [FraudCaseService.appealEnforcement]
  refine safe_getAction fun _ action => Prog.Safe.query fun _ _ _ _ => ?_
  rw [FraudCasePolicy.assertCanAppealEnforcement, Prog.bind_assoc]
  refine Prog.Safe.require fun _ => Prog.Safe.require fun _ => ?_
  rw [BackOfficeRepository.requestEnforcementAppeal, Prog.transaction]
  refine safe_claimAction fun s₁ a notes _ _ ha hmatched hrow => ?_
  refine Prog.Safe.commitAll fun s hs _ hknows => ?_
  have ha' : s.enforcementActions.find? actionId = some a := hrow.same hknows rfl a ha
  refine Commits.conclude (action_commit
    (g := fun a : EnforcementAction => { a with
      appealStatus := .pending
      appealReason := reason.or a.appealReason
      appealedAt := some now }) (h := fun _ => rfl)
    hs ?_ ?_ ha' ?_ (fun _ => rfl) rfl fun hreversed => ?_) (fun l m hl hkept hdisturbed => ?_) trivial
  · rfl
  · rfl
  · rfl
  · have hoverturned := hs.reversed a (Table.mem_of_find? ha') hreversed
    rw [of_decide_eq_true hmatched] at hoverturned
    cases hoverturned
  · subst hdisturbed
    exact hrow.not_free hl hkept

/-- What is known of an action when its appeal is claimed: it is what it was when it was read. -/
theorem issued_of_later {s₀ : Store} {actionId : ℕ} {a₀ a : EnforcementAction}
    (hlater : (suspensionDiscipline fresh counted staff).Later s₀ s)
    (ha₀ : s₀.enforcementActions.find? actionId = some a₀)
    (ha : s.enforcementActions.find? actionId = some a) : issued a = issued a₀ := by
  have hkeeps : ∃ a', s.enforcementActions.find? actionId = some a' ∧ issued a' = issued a₀ := by
    refine Discipline.Later.keeps (P := fun s => ∃ a', s.enforcementActions.find? actionId = some a' ∧
      issued a' = issued a₀) (fun s s' hcommits h => ?_) hlater ⟨a₀, ha₀, rfl⟩
    obtain ⟨a', ha', hissued⟩ := h
    obtain ⟨a'', ha'', hissued'⟩ := hcommits.2 actionId a' ha'
    exact ⟨a'', ha'', hissued'.trans hissued⟩
  obtain ⟨a', ha', hissued⟩ := hkeeps
  rw [Option.some.inj (ha.symm.trans ha')]
  exact hissued

/-- Whom an action that is not reversed suspends can be read off its issued columns. -/
theorem suspensionOf_congr {a a₀ : EnforcementAction} (h : issued a = issued a₀)
    (hreversed : a.effectReversedAt = a₀.effectReversedAt) : suspensionOf a = suspensionOf a₀ := by
  obtain ⟨htype, htarget, happlied, hprevious⟩ := Prod.mk.inj h |>.imp id fun h =>
    (Prod.mk.inj h).imp id fun h => Prod.mk.inj h
  have hfound : foundSuspended a = foundSuspended a₀ := by
    rw [foundSuspended, foundSuspended, hprevious]
  rw [suspensionOf, suspensionOf, htype, htarget, happlied, hreversed, hfound]

/-- A person who is given back what the action found. -/
theorem isSuspended_restoredPerson {a : EnforcementAction} {r : Person}
    (h : r.isSuspended = true) :
    (BackOfficeRepository.restoredPerson a.previousTargetState r).isSuspended =
      foundSuspended a := by
  rw [foundSuspended]
  rcases a.previousTargetState with _ | previous
  · exact h
  · cases previous with
    | person isSuspended => rfl
    | building status => exact h
    | managerClaim managerState recoveryModeEnteredAt => exact h

/-- The effect of an overturned action is undone: the flag of a person whom it suspends is
written, and nothing else that matters here. -/
theorem safe_reverseEffect {previous : Option PreviousTargetState}
    {effect : Option EnforcementEffect} {f : PUnit → Call β}
    (hpending : ∀ s, (pending s).persons = s.persons)
    (hsuspended : ∀ personId s₁ s₂ r notes', effect = some (.suspendAccount personId) →
      (∀ n ∈ notes, n ∈ notes') →
      Took fresh counted notes' (.suspension personId) .exclusive s₁ →
      Took fresh counted notes' (.row .person personId) .exclusive s₂ →
      s₂.persons.find? personId = some r → r.isSuspended = true →
        (f ⟨⟩).Safe (suspensionDiscipline fresh counted staff) post s₂ notes' fun s =>
          (pending s).onPersons (·.modify personId (BackOfficeRepository.restoredPerson previous)
            (BackOfficeRepository.restoredPerson_id previous)))
    (hother : ∀ s notes' pending', (∀ personId, effect ≠ some (.suspendAccount personId)) →
      (∀ n ∈ notes, n ∈ notes') →
      (∀ s, (pending' s).platformStaff = (pending s).platformStaff ∧
        (pending' s).enforcementActions = (pending s).enforcementActions ∧
        (pending' s).persons = (pending s).persons) →
        (f ⟨⟩).Safe (suspensionDiscipline fresh counted staff) post s notes' pending') :
    (BackOfficeRepository.reverseEffect previous effect >>= f).Safe
      (suspensionDiscipline fresh counted staff) post last notes pending := by
  unfold BackOfficeRepository.reverseEffect
  split
  case h_1 personId =>
    refine safe_claimPerson hpending fun s₁ s₂ r notes' hnotes hlooked hrow _ hr hset => ?_
    exact hsuspended personId s₁ s₂ r notes' rfl hnotes hlooked hrow hr (of_decide_eq_true hset)
  -- the other effects concern no person
  case h_2 buildingId =>
    rw [claimBuilding]
    refine Prog.Safe.claim fun s _ _ _ _ => hother s _ _ (fun _ h => by cases h) (fun n hn => ?_)
      fun s => ⟨rfl, rfl, rfl⟩
    exact List.mem_append_left _ hn
  case h_3 membershipId buildingId =>
    rw [Prog.bind_assoc, claimMembership]
    refine Prog.Safe.claim fun _ _ _ _ _ => ?_
    rw [claimBuilding]
    refine Prog.Safe.claim fun s _ _ _ _ => hother s _ _ (fun _ h => by cases h) (fun n hn => ?_)
      fun s => ⟨rfl, rfl, rfl⟩
    exact List.mem_append_left _ (List.mem_append_left _ hn)
  case h_4 =>
    exact hother last notes pending (fun _ h => by cases h) (fun _ hn => hn)
      fun s => ⟨rfl, rfl, rfl⟩

/-- The columns of an action that is overturned and undone. -/
def overturned (appealDecidedById : ℕ) (now : Time) (a : EnforcementAction) : EnforcementAction :=
  { appealDecided .overturned appealDecidedById now a with effectReversedAt := some now }

theorem overturned_id (appealDecidedById : ℕ) (now : Time) (a : EnforcementAction) :
    (overturned appealDecidedById now a).id = a.id := rfl

/-- An action that was overturned suspends nobody. -/
theorem suspensionOf_overturned {appealDecidedById : ℕ} {now : Time} {a : EnforcementAction} :
    suspensionOf (overturned appealDecidedById now a) = none := by
  rw [suspensionOf, if_neg]
  rintro ⟨-, -, hreversed⟩
  cases hreversed

/-- The decision about an appeal keeps the discipline. -/
theorem safe_decideEnforcementAppeal (actionId : ℕ) (decision : FraudCaseService.AppealDecision)
    (deciderPersonId : ℕ) (now : Time) :
    (FraudCaseService.decideEnforcementAppeal actionId decision deciderPersonId now).Safe
      (suspensionDiscipline fresh counted staff) (fun _ _ _ _ => True) last [] id := by
  rw [FraudCaseService.decideEnforcementAppeal]
  refine safe_getAction fun _ _ => ?_
  rw [FraudCasePolicy.assertAppealDecidable]
  refine Prog.Safe.require fun _ => ?_
  rw [BackOfficeRepository.decideEnforcementAppeal, Prog.transaction]
  simp only [Prog.bind_assoc]
  refine Prog.Safe.query fun s₀ hs₀ _ _ => Prog.Safe.expect fun a₀ ha₀ => ?_
  refine safe_claimAction fun s₁ a notes hs₁ hlater ha hmatched hrow => ?_
  have hpending : a.appealStatus = .pending := of_decide_eq_true hmatched
  have hissued : issued a = issued a₀ := issued_of_later hlater ha₀ ha
  -- a pending action has not been reversed
  have hnot : ∀ s, Consistent staff s → s.enforcementActions.find? actionId = some a →
      a.effectReversedAt = none := by
    intro s hs ha
    by_contra hreversed
    have hoverturned := hs.reversed a (Table.mem_of_find? ha) hreversed
    rw [hpending] at hoverturned
    cases hoverturned
  rw [BackOfficeRepository.undoAction, Prog.ite_bind]
  split
  case isFalse =>
    refine Prog.Safe.commitAll fun s hs _ hknows => ?_
    have ha' : s.enforcementActions.find? actionId = some a := hrow.same hknows rfl a ha
    refine Commits.conclude (action_commit
      (h := appealDecided_id decision.status deciderPersonId now) hs ?_ ?_ ha' ?_
      (fun _ => rfl) rfl fun hreversed => absurd (hnot s hs ha') hreversed)
      (fun l m hl hkept hdisturbed => ?_) trivial
    · rfl
    · rfl
    · rfl
    · subst hdisturbed
      exact hrow.not_free hl hkept
  case isTrue hundo =>
    obtain ⟨hdecision, happlied, hreversed⟩ := hundo
    have hid : a₀.id = actionId := Table.key_of_find? ha₀
    have hsuspension : suspensionOf a = suspensionOf a₀ :=
      suspensionOf_congr hissued ((hnot s₁ hs₁ ha).trans hreversed.symm)
    -- both writes to the action are one
    have hmodified : ∀ t : Table EnforcementAction EnforcementAction.id,
        (t.modify actionId (appealDecided decision.status deciderPersonId now)
          (appealDecided_id _ _ _)).modify a₀.id
            (fun a => { a with effectReversedAt := some now }) (fun _ => rfl) =
          t.modify actionId (overturned deciderPersonId now) (overturned_id _ _) := by
      intro t
      rw [hid, hdecision]
      exact Table.modify_modify
    rw [Prog.bind_assoc]
    refine safe_reverseEffect (fun _ => rfl) (fun personId s₂ s₃ r notes' heffect hnotes hlooked
      hperson hr hset => ?_) fun s₂ notes' pending' hother hnotes hsame => ?_
    · rw [BackOfficeRepository.markReversed]
      refine Prog.Safe.writeIf fun s₄ _ _ _ _ => Prog.Safe.commitAll fun s hs _ hknows => ?_
      have hknows' : (suspensionDiscipline fresh counted staff).Knows notes' s := fun n hn =>
        hknows n (List.mem_append_left _ hn)
      have ha' : s.enforcementActions.find? actionId = some a :=
        (hrow.mono hnotes).same hknows' rfl a ha
      have hr' : s.persons.find? personId = some r := hperson.same hknows' rfl r hr
      obtain ⟨htype, htarget⟩ := reversedEffect_eq_suspendAccount.mp heffect
      refine Commits.conclude (overturn_commit (b := foundSuspended a₀)
        (f := BackOfficeRepository.restoredPerson a₀.previousTargetState)
        (h := BackOfficeRepository.restoredPerson_id _) hs ?_ hr' (isSuspended_restoredPerson hset)
        ?_ ha' ?_ hset (hmodified _) (fun _ => rfl) suspensionOf_overturned rfl)
        (fun l m hl hkept hdisturbed => ?_) trivial
      · rfl
      · rfl
      · rw [hsuspension, suspensionOf, if_pos ⟨htype, happlied, hreversed⟩, htarget]
        rfl
      · have hl' : Free notes' l m := fun n hn => hl n (List.mem_append_left _ hn)
        rcases hdisturbed with (rfl | rfl | ⟨h, -⟩) | rfl
        · exact hperson.not_free hl' hkept
        · exact hlooked.not_free hl' hkept
        · cases h
        · exact (hrow.mono hnotes).not_free hl' hkept
    · rw [BackOfficeRepository.markReversed]
      refine Prog.Safe.writeIf fun s₄ _ _ _ _ => Prog.Safe.commitAll fun s hs _ hknows => ?_
      have hknows' : (suspensionDiscipline fresh counted staff).Knows notes' s := fun n hn =>
        hknows n (List.mem_append_left _ hn)
      have ha' : s.enforcementActions.find? actionId = some a :=
        (hrow.mono hnotes).same hknows' rfl a ha
      obtain ⟨hstaff, hactions, hpersons⟩ := hsame s
      refine Commits.conclude (action_commit (g := overturned deciderPersonId now)
        (h := overturned_id _ _) hs ?_ ?_ ha' ?_ (fun _ => rfl) ?_ fun _ => rfl)
        (fun l m hl hkept hdisturbed => ?_) trivial
      · exact hstaff
      · exact hpersons
      · rw [Store.onEnforcementActions_enforcementActions, hactions]
        exact hmodified _
      · rw [suspensionOf_overturned, hsuspension, suspensionOf_eq_none hother]
      · subst hdisturbed
        exact (hrow.mono hnotes).not_free (fun n hn => hl n (List.mem_append_left _ hn)) hkept

/-! ### Runs -/

/-- A call that may suspend somebody, or end a suspension. -/
inductive SuspensionCall
  | enforce (caseId : ℕ) (dto : FraudCaseService.EnforceDto) (issuedById : ℕ) (requestId : String)
      (now : Time)
  | appealEnforcement (actionId callerPersonId : ℕ) (reason : Option String) (now : Time)
  | decideEnforcementAppeal (actionId : ℕ) (decision : FraudCaseService.AppealDecision)
      (deciderPersonId : ℕ) (now : Time)
  | changePersonSuspensionAtomically (params : ChangePersonSuspensionParams)

/-- The method that the call is made to. -/
def SuspensionCall.call : SuspensionCall → Call PUnit
  | .enforce caseId dto issuedById requestId now =>
    FraudCaseService.enforce caseId dto issuedById requestId now
  | .appealEnforcement actionId callerPersonId reason now =>
    FraudCaseService.appealEnforcement actionId callerPersonId reason now
  | .decideEnforcementAppeal actionId decision deciderPersonId now =>
    FraudCaseService.decideEnforcementAppeal actionId decision deciderPersonId now
  | .changePersonSuspensionAtomically params =>
    BackOfficeRepository.changePersonSuspensionAtomically params

/-- Every call does. -/
theorem SuspensionCall.safe (c : SuspensionCall) :
    c.call.Safe (suspensionDiscipline fresh counted staff) (fun _ _ _ _ => True) s [] id := by
  cases c with
  | enforce caseId dto issuedById requestId now =>
    exact safe_enforce caseId dto issuedById requestId now
  | appealEnforcement actionId callerPersonId reason now =>
    exact safe_appealEnforcement actionId callerPersonId reason now
  | decideEnforcementAppeal actionId decision deciderPersonId now =>
    exact safe_decideEnforcementAppeal actionId decision deciderPersonId now
  | changePersonSuspensionAtomically params => exact safe_changePersonSuspensionAtomically params

/-- The event is one step of the flags and their overrides. -/
def IsStep (fresh counted : Bool) (staff : Table PlatformStaff PlatformStaff.id) {ι α : Type}
    [DecidableEq ι] (d : Sessions ι α) (e : Event ι Failure) : Prop :=
  Consistent staff (d.next Lock.enforced e).store ∧
    Overrides.Step (fresh = true) (counted = true) (admins staff) (suspensions d.store)
      (suspensions (d.next Lock.enforced e).store)

/-- Every event of an orderly run is a step of the flags and their overrides, or none. -/
theorem eachStep_suspensions {ι : Type} [DecidableEq ι] (hs : Consistent staff s)
    (calls : ι → SuspensionCall) {es : List (Event ι Failure)}
    (hes : EachStep (Database.next Lock.enforced)
      (Database.Orderly Lock.enforced (keeps fresh counted))
      (Database.start s fun i => (calls i).call) es) :
    EachStep (Database.next Lock.enforced) (IsStep fresh counted staff)
      (Database.start s fun i => (calls i).call) es := by
  refine EachStep.mono (fun d e h => ⟨h.1, ?_⟩)
    (Database.eachStep_commits (D := suspensionDiscipline fresh counted staff)
      (Database.sound_start hs fun i => (calls i).safe) hes)
  rcases h.2 with hsame | hcommits
  · rw [hsame]
    exact .quiet rfl rfl
  · exact hcommits.1

/-! ### An active suspension suspends -/

/-- Whom an action suspends is suspended. -/
def ActionsSuspend (s : Store) : Prop :=
  ∀ a ∈ s.enforcementActions, ∀ personId, suspends personId a = true →
    isSuspended s personId = true

/-- What is claimed of the actions, in the terms of the abstract suspensions. -/
theorem actionsSuspend_iff : ActionsSuspend s ↔ (suspensions s).Holds := by
  constructor
  · intro h id personId b hactive
    obtain ⟨a, ha, hsuspends⟩ := Option.bind_eq_some_iff.mp hactive
    exact h a (Table.mem_of_find? ha) personId (suspends_eq_true.mpr ⟨b, hsuspends⟩)
  · intro h a ha personId hsuspends
    obtain ⟨b, hb⟩ := suspends_eq_true.mp hsuspends
    refine h a.id personId b ?_
    rw [active_suspensions, Table.find?_of_mem ha]
    exact hb

/-- No action suspends the person. -/
def NotEnforced (personId : ℕ) (s : Store) : Prop :=
  ∀ a ∈ s.enforcementActions, suspends personId a = false

/-- Where no action suspends somebody, nothing holds them. -/
theorem NotEnforced.unheld {personId : ℕ} (h : NotEnforced personId s) :
    (suspensions s).Unheld personId := by
  refine unheld_of_not_enforced (List.any_eq_false.mpr fun a ha => ?_)
  rw [h a ha]
  exact Bool.false_ne_true

/-- The event is no look at the suspension of a person while somebody else who has looked has
still to commit. -/
abbrev Unhurried {ι α : Type} [DecidableEq ι] (d : Sessions ι α) (e : Event ι Failure) : Prop :=
  d.Orderly Lock.enforced (keeps true false) e

/-- The event overturns an action that found the person not suspended, while another action
suspends this person. -/
def OverturnsOverlapping {ι α : Type} [DecidableEq ι] (d : Sessions ι α) (e : Event ι Failure) :
    Prop :=
  (suspensions d.store).Exposes (suspensions (d.next Lock.enforced e).store)

/-- The event changes the flag of the person, and no action begins or ceases to suspend
anybody: staff suspends or reinstates the person. -/
def ChangedByStaff {ι α : Type} [DecidableEq ι] (personId : ℕ) (d : Sessions ι α)
    (e : Event ι Failure) : Prop :=
  (suspensions d.store).Direct personId (suspensions (d.next Lock.enforced e).store)

/-- What a person's flag was before the actions is known all the way through a run in which no
staff changes it. -/
theorem before_runFrom {ι α : Type} [DecidableEq ι] {d : Sessions ι α} {personId : ℕ}
    {es : List (Event ι Failure)}
    (hsteps : EachStep (Database.next Lock.enforced) (IsStep true counted staff) d es)
    (hstaff : EachStep (Database.next Lock.enforced) (fun d e => ¬ ChangedByStaff personId d e) d
      es) :
    (suspensions (runFrom (Database.next Lock.enforced) d es).store).Before personId ↔
      (suspensions d.store).Before personId := by
  induction es generalizing d with
  | nil => rfl
  | cons e es ih =>
    exact (ih hsteps.2 hstaff.2).trans (hsteps.1.2.before_iff rfl hstaff.1)

/-- Any number of sessions, statement by statement in any order: whom an action suspends is
suspended, as long as no action that found the person not suspended is overturned while another
one suspends the person; and when no action suspends a person any more, and staff has not changed
the flag meanwhile, it is what it was before the actions. -/
theorem suspended_iff_of_unhurried {ι : Type} [DecidableEq ι]
    (hs : Consistent s.platformStaff s) (hsuspend : ActionsSuspend s) (calls : ι → SuspensionCall)
    {es : List (Event ι Failure)}
    (hes : EachStep (Database.next Lock.enforced) Unhurried
      (Database.start s fun i => (calls i).call) es) :
    ((∀ es', es' <+: es → ActionsSuspend (runCalls s (fun i => (calls i).call) es').store) ↔
      EachStep (Database.next Lock.enforced) (fun d e => ¬ OverturnsOverlapping d e)
        (Database.start s fun i => (calls i).call) es) ∧
    ∀ es₁ es₂ personId, es = es₁ ++ es₂ →
      NotEnforced personId (runCalls s (fun i => (calls i).call) es₁).store →
      NotEnforced personId (runCalls s (fun i => (calls i).call) es).store →
      EachStep (Database.next Lock.enforced) (fun d e => ¬ ChangedByStaff personId d e)
        (runCalls s (fun i => (calls i).call) es₁) es₂ →
      isSuspended (runCalls s (fun i => (calls i).call) es).store personId =
        isSuspended (runCalls s (fun i => (calls i).call) es₁).store personId := by
  have hsteps := eachStep_suspensions hs calls hes
  refine ⟨?_, fun es₁ es₂ personId heq hbefore hafter hstaff => ?_⟩
  · refine forall_prefix_iff (P := fun d => ActionsSuspend d.store) (fun d e hstep hholds => ?_)
      hsuspend hsteps
    rw [actionsSuspend_iff] at hholds ⊢
    exact Overrides.holds_iff hstep.2 rfl hholds
  · subst heq
    have hsteps₂ := (eachStep_append.mp hsteps).2
    have hiff := before_runFrom hsteps₂ hstaff
    rw [Bool.eq_iff_iff]
    rw [runCalls, runFrom_append] at hafter ⊢
    exact (Overrides.before_of_unheld hafter.unheld).symm.trans
      (hiff.trans (Overrides.before_of_unheld hbefore.unheld))

/-- Two admins and a third person; everybody is the subject of a confirmed case. -/
def staffedHome : Store :=
  { Store.empty with
    persons := ((Table.empty.create fun id => { id, phone := "1" }).create fun id =>
      { id, phone := "2" }).create fun id => { id, phone := "3" }
    platformStaff := (Table.empty.create fun id =>
      { id, personId := 0, role := .platformAdmin }).create fun id =>
        { id, personId := 1, role := .platformAdmin }
    fraudCases := ((Table.empty.create fun id =>
      { id, status := .confirmed, source := .userReport, targetPersonId := some 0 }).create fun id =>
        { id, status := .confirmed, source := .userReport, targetPersonId := some 1 }).create
          fun id => { id, status := .confirmed, source := .userReport, targetPersonId := some 2 } }

/-- The staff of the runs is consistent. -/
theorem consistent_staffedHome : Consistent staffedHome.platformStaff staffedHome where
  platformStaff := rfl
  unique := by decide
  person := by decide
  reversed _ ha := absurd ha List.not_mem_nil

/-- The suspension of a person by enforcement. -/
def suspendAccount (personId : ℕ) : FraudCaseService.EnforceDto :=
  { type := .accountSuspension, targetType := .person, targetPersonId := some personId }

/-- Two admins suspend the third person, who appeals against the first action; it is overturned. -/
def overlapping : Fin 4 → SuspensionCall
  | 0 => .enforce 2 (suspendAccount 2) 0 "first" 1
  | 1 => .enforce 2 (suspendAccount 2) 1 "second" 2
  | 2 => .appealEnforcement 0 2 none 3
  | 3 => .decideEnforcementAppeal 0 .overturn 1 4

/-- Only the first action is issued before it is overturned. -/
theorem suspended_iff_of_unhurried_overlapping :
    (∀ es', es' <+: List.replicate 7 (Event.step 0) ++ List.replicate 7 (Event.step 2) ++
        List.replicate 12 (Event.step 3) →
      ActionsSuspend (runCalls staffedHome (fun i => (overlapping i).call) es').store) ↔
    EachStep (Database.next Lock.enforced) (fun d e => ¬ OverturnsOverlapping d e)
      (Database.start staffedHome fun i => (overlapping i).call)
      (List.replicate 7 (Event.step 0) ++ List.replicate 7 (Event.step 2) ++ List.replicate 12 (Event.step 3)) :=
  (suspended_iff_of_unhurried consistent_staffedHome (fun _ ha => absurd ha List.not_mem_nil)
    overlapping (by decide +kernel)).1

/-- The second action still suspends the person, who is not suspended any more. -/
theorem overturned_while_suspended :
    ¬ ActionsSuspend (runCalls staffedHome (fun i => (overlapping i).call)
      (List.replicate 7 (Event.step 0) ++ List.replicate 7 (Event.step 1) ++ List.replicate 7 (Event.step 2) ++
        List.replicate 12 (Event.step 3))).store := by
  intro h
  have hsuspended := h _ (Table.mem_of_find? (k := 1) (Option.some_get (by decide +kernel)).symm) 2
    (by decide +kernel)
  exact absurd hsuspended (by decide +kernel)

/-! ### Some admin stays usable -/

/-- Some active `PLATFORM_ADMIN` is not suspended. -/
def HasUsableAdmin (s : Store) : Prop := s.platformStaff.rows.any (isUsableAdmin s) = true

instance (s : Store) : Decidable (HasUsableAdmin s) := inferInstanceAs (Decidable (_ = true))

/-- There is an administrator when not all of them are suspended. -/
theorem hasUsableAdmin_iff (hs : Consistent staff s) :
    HasUsableAdmin s ↔ (suspensions s).Spares (admins staff) := by
  rw [HasUsableAdmin, List.any_eq_true]
  constructor
  · rintro ⟨t, ht, husable⟩
    obtain ⟨hactive, -, hunset⟩ := isUsableAdmin_eq_true.mp husable
    exact ⟨t.personId, ⟨t, hs.platformStaff ▸ ht, rfl, hactive⟩, hunset⟩
  · rintro ⟨_, ⟨t, ht, rfl, hactive⟩, hunset⟩
    exact ⟨t, hs.platformStaff.symm ▸ ht,
      isUsableAdmin_eq_true.mpr ⟨hactive, hs.person t ht, hunset⟩⟩

/-- The event is no suspension of an admin by enforcement that begins while staff that has
counted the usable admins has still to commit, nor such a count while an enforcement against an
admin has still to commit. -/
abbrev Undisturbed {ι α : Type} [DecidableEq ι] (d : Sessions ι α) (e : Event ι Failure) : Prop :=
  d.Orderly Lock.enforced (keeps false true) e

/-- The event commits an enforcement action that suspends the last usable admin. -/
def SuspendsLastAdmin {ι α : Type} [DecidableEq ι] (staff : Table PlatformStaff PlatformStaff.id)
    (d : Sessions ι α) (e : Event ι Failure) : Prop :=
  (suspensions d.store).Exhausts (admins staff) (suspensions (d.next Lock.enforced e).store)

/-- Any number of sessions, statement by statement in any order: some admin stays usable, as long
as no enforcement action suspends the last one. -/
theorem hasUsableAdmin_iff_of_undisturbed {ι : Type} [DecidableEq ι]
    (hs : Consistent s.platformStaff s) (husable : HasUsableAdmin s) (calls : ι → SuspensionCall)
    {es : List (Event ι Failure)}
    (hes : EachStep (Database.next Lock.enforced) Undisturbed
      (Database.start s fun i => (calls i).call) es) :
    (∀ es', es' <+: es → HasUsableAdmin (runCalls s (fun i => (calls i).call) es').store) ↔
      EachStep (Database.next Lock.enforced)
        (fun d e => ¬ SuspendsLastAdmin s.platformStaff d e)
        (Database.start s fun i => (calls i).call) es := by
  have hsteps := eachStep_suspensions hs calls hes
  have hspares := forall_prefix_iff
    (P := fun d => (suspensions d.store).Spares (admins s.platformStaff))
    (fun d e hstep h => Overrides.spares_iff hstep.2 rfl h) ((hasUsableAdmin_iff hs).mp husable)
    hsteps
  refine Iff.trans (forall_congr' fun es' => imp_congr_right fun hes' => ?_) hspares
  -- the staff is the same all the way, so the usable admins are the flags of the same persons
  obtain ⟨rest, rfl⟩ := hes'
  refine hasUsableAdmin_iff ?_
  exact runFrom_induction_of_eachStep (P := fun d => Consistent s.platformStaff d.store)
    (fun _ _ _ hstep => hstep.1) hs (eachStep_append.mp hsteps).1

/-- The first admin suspends the second one, and then itself. -/
def lastAdmin : Fin 2 → SuspensionCall
  | 0 => .enforce 1 (suspendAccount 1) 0 "other" 1
  | 1 => .enforce 0 (suspendAccount 0) 0 "self" 2

/-- The suspension of one of two admins. -/
theorem hasUsableAdmin_iff_of_undisturbed_lastAdmin :
    (∀ es', es' <+: List.replicate 7 (Event.step 0) →
      HasUsableAdmin (runCalls staffedHome (fun i => (lastAdmin i).call) es').store) ↔
    EachStep (Database.next Lock.enforced)
      (fun d e => ¬ SuspendsLastAdmin staffedHome.platformStaff d e)
      (Database.start staffedHome fun i => (lastAdmin i).call) (List.replicate 7 (Event.step 0)) :=
  hasUsableAdmin_iff_of_undisturbed consistent_staffedHome (by decide) lastAdmin
    (by decide +kernel)

/-- Nobody counts the admins when the last one is suspended by enforcement. -/
theorem no_usable_admin :
    ¬ HasUsableAdmin (runCalls staffedHome (fun i => (lastAdmin i).call)
      (List.replicate 7 (Event.step 0) ++ List.replicate 7 (Event.step 1))).store := by
  decide +kernel

end VielHome.Backoffice.Suspensions
