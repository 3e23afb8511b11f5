import AiopsSystem.Go.Digest
import AiopsSystem.Policy.Rule

/-! # The engine decides the rule -/

namespace AiopsSystem.Policy

open Go AiopsSystem.Action List

/-! ## Snapshots -/

variable {observedAt : Int}

theorem fresh_iff {now age : Int} (hLow : minDuration ≤ age) (hHigh : age < maxDuration) :
    fresh now observedAt age ↔ Recent now observedAt age := by
  unfold fresh Recent timeSub
  unfold minDuration at hLow
  unfold maxDuration at hHigh
  by_cases h : observedAt = 0 ∨ now + maxClockSkew < observedAt
  · rw [if_pos h]
    constructor
    · nofun
    · rintro ⟨hZero, hSkew, _⟩
      rcases h with h | h
      · exact absurd h hZero
      · omega
  · rw [if_neg h, decide_eq_true_eq]
    have hZero : observedAt ≠ 0 := fun hZero => h (.inl hZero)
    have hSkew : observedAt ≤ now + maxClockSkew := Int.not_lt.mp fun hSkew => h (.inr hSkew)
    unfold minDuration maxDuration
    constructor
    · intro hAge
      exact ⟨hZero, hSkew, by omega⟩
    · rintro ⟨_, _, hAge⟩
      omega

theorem fresh_safety {now : Int} :
    fresh now observedAt maxSafetySnapshotAge ↔ Recent now observedAt maxSafetySnapshotAge :=
  fresh_iff (by decide) (by decide)

theorem fresh_target {now : Int} :
    fresh now observedAt maxTargetSnapshotAge ↔ Recent now observedAt maxTargetSnapshotAge :=
  fresh_iff (by decide) (by decide)

theorem targetMatchesEnvelope_iff {snapshot : TargetSnapshot} {envelope : Envelope} :
    targetMatchesEnvelope snapshot envelope ↔
      ∃ version, Claims envelope snapshot.kubernetes snapshot.gitOps snapshot.awx version ∧
        ∀ text, version = some text → snapshot.targetVersion = text := by
  rcases snapshot with ⟨_, _, _, _, _, _, _, targetVersion, kubernetes, gitOps, awx, _, _⟩
  dsimp only
  constructor
  · intro h
    unfold targetMatchesEnvelope at h
    split at h
    · rename_i hType
      split at h
      · rename_i facts target state hKubernetes hGitOps hAWX hTarget hState
        dsimp only at hKubernetes hGitOps hAWX h
        subst hKubernetes hGitOps hAWX
        rw [hType, if_neg (by decide), Bool.and_eq_true, beq_iff_eq, beq_iff_eq] at h
        obtain ⟨hVersion, rfl⟩ := h
        exact ⟨_, .restart target state hType hTarget hState, fun text hText => hVersion.trans (Option.some.inj hText)⟩
      · cases h
    · rename_i hType
      split at h
      · rename_i facts target state hKubernetes hGitOps hAWX hTarget hState
        dsimp only at hKubernetes hGitOps hAWX h
        subst hKubernetes hGitOps hAWX
        rw [hType, if_pos rfl] at h
        split at h
        · cases h
        · rename_i parameters hParameters
          rw [Bool.and_eq_true, beq_iff_eq, beq_iff_eq] at h
          obtain ⟨hVersion, rfl⟩ := h
          exact ⟨_, .scale target state parameters hType hTarget hState hParameters,
            fun text hText => hVersion.trans (Option.some.inj hText)⟩
      · cases h
    · rename_i hType
      split at h
      · rename_i facts target parameters state hAWX hGitOps hKubernetes hTarget hParameters hState
        dsimp only at hKubernetes hGitOps hAWX h
        subst hKubernetes hGitOps hAWX
        simp only [Bool.and_eq_true, beq_iff_eq] at h
        obtain ⟨⟨⟨⟨⟨⟨⟨⟨⟨hVersion, hInventory⟩, hHosts⟩, hSnapshot⟩, hTemplate⟩, hTemplateSnapshot⟩, hName⟩, hFamily⟩,
          hService⟩, hServiceSnapshot⟩ := h
        rcases facts with ⟨_, _, _, _, _, _, _, _, _⟩
        subst hInventory hHosts hSnapshot hTemplate hTemplateSnapshot hName hFamily hService hServiceSnapshot
        exact ⟨_, .serviceRestart target state parameters hType hTarget hState hParameters,
          fun text hText => hVersion.trans (Option.some.inj hText)⟩
      · cases h
    · rename_i hType
      split at h
      · rename_i facts target parameters state hGitOps hKubernetes hAWX hTarget hParameters hState
        dsimp only at hKubernetes hGitOps hAWX h
        subst hKubernetes hGitOps hAWX
        rw [beq_iff_eq] at h
        subst h
        exact ⟨_, .revert target state parameters hType hTarget hState hParameters, nofun⟩
      · cases h
    · cases h
  · rintro ⟨version, hClaims, hVersion⟩
    cases hClaims with
    | restart _ _ hType hTarget hState =>
      have hText := hVersion _ rfl
      simp [targetMatchesEnvelope, hType, hTarget, hState, hText]
    | scale _ _ _ hType hTarget hState hParameters | serviceRestart _ _ _ hType hTarget hState hParameters =>
      have hText := hVersion _ rfl
      simp [targetMatchesEnvelope, hType, hTarget, hState, hParameters, hText]
    | revert _ _ _ hType hTarget hState hParameters =>
      simp [targetMatchesEnvelope, hType, hTarget, hState, hParameters]

theorem limitsMatchEnvelope_iff {limits : ActionLimitsSnapshot} {envelope : Envelope} :
    limitsMatchEnvelope limits envelope ↔ Limits envelope limits := by
  unfold limitsMatchEnvelope
  split
  · rename_i hType
    simp only [Option.any_eq_true, Bool.and_eq_true, decide_eq_true_eq, beq_iff_eq]
    constructor
    · rintro ⟨parameters, hParameters, ⟨⟨hZero, hOrder⟩, hMinimum⟩, hMaximum⟩
      exact .scale parameters hType hParameters hMinimum hMaximum ⟨hZero, hOrder⟩
    · intro h
      cases h with
      | scale parameters _ hParameters hMinimum hMaximum hOrder =>
        exact ⟨parameters, hParameters, ⟨⟨hOrder.1, hOrder.2⟩, hMinimum⟩, hMaximum⟩
      | serviceRestart _ hOther => cases hType.symm.trans hOther
      | none hOther => exact absurd hType hOther.1
  · rename_i hType
    simp only [Option.any_eq_true, Bool.and_eq_true, decide_eq_true_eq]
    constructor
    · rintro ⟨target, hTarget, ⟨hPositive, hMaximum⟩, hHosts⟩
      exact .serviceRestart target hType hTarget ⟨hPositive, hMaximum⟩ hHosts
    · intro h
      cases h with
      | scale _ hOther => cases hType.symm.trans hOther
      | serviceRestart target _ hTarget hRange hHosts => exact ⟨target, hTarget, ⟨hRange.1, hRange.2⟩, hHosts⟩
      | none hOther => exact absurd hType hOther.2
  · rename_i hScale hRestart
    simp only [Bool.and_eq_true, beq_iff_eq]
    constructor
    · rintro ⟨⟨hMinimum, hMaximum⟩, hHosts⟩
      exact .none ⟨hScale, hRestart⟩ ⟨hMinimum, hMaximum, hHosts⟩
    · intro h
      cases h with
      | scale _ hType => exact absurd hType hScale
      | serviceRestart _ hType => exact absurd hType hRestart
      | none _ hZero => exact ⟨⟨hZero.1, hZero.2.1⟩, hZero.2.2⟩

/-! ## Roles -/

variable {roles : List Role}

theorem distinctRoles_iff {seen : List Role} : distinctRoles seen roles ↔
    roles.Nodup ∧ (∀ role ∈ roles, role ∉ seen) ∧
      ∀ role ∈ roles, role = .sre ∨ role = .serviceOwner ∨ role = .approver := by
  induction roles generalizing seen with
  | nil => simp [distinctRoles]
  | cons role _ ih =>
    unfold distinctRoles
    by_cases hKnown : role ≠ .sre ∧ role ≠ .serviceOwner ∧ role ≠ .approver
    · rw [if_pos hKnown]
      constructor
      · nofun
      · rintro ⟨_, _, h⟩
        rcases h role mem_cons_self with h | h | h
        · exact absurd h hKnown.1
        · exact absurd h hKnown.2.1
        · exact absurd h hKnown.2.2
    · have hRole : role = .sre ∨ role = .serviceOwner ∨ role = .approver := by
        by_contra hNone
        simp only [not_or] at hNone
        exact hKnown hNone
      rw [if_neg hKnown]
      by_cases hSeen : role ∈ seen
      · rw [if_pos hSeen]
        constructor
        · nofun
        · rintro ⟨_, h, _⟩
          exact absurd hSeen (h role mem_cons_self)
      · rw [if_neg hSeen, ih, nodup_cons, forall_mem_cons, forall_mem_cons]
        simp only [mem_cons, not_or]
        constructor
        · rintro ⟨hNodup, hFresh, hRest⟩
          exact ⟨⟨fun hMem => (hFresh role hMem).1 rfl, hNodup⟩, ⟨hSeen, fun other hOther => (hFresh other hOther).2⟩,
            hRole, hRest⟩
        · rintro ⟨⟨hNotMem, hNodup⟩, ⟨_, hFresh⟩, _, hRest⟩
          refine ⟨hNodup, fun other hOther => ⟨?_, hFresh other hOther⟩, hRest⟩
          rintro rfl
          exact hNotMem hOther

theorem validRoles_iff : validRoles roles ↔
    roles ≠ [] ∧ roles.Nodup ∧ ∀ role ∈ roles, role = .sre ∨ role = .serviceOwner ∨ role = .approver := by
  unfold validRoles
  by_cases hLength : roles.length = 0 ∨ roles.length > 3
  · rw [if_pos hLength]
    constructor
    · nofun
    · rintro ⟨hNonempty, hNodup, hKnown⟩
      -- three roles have no four different ones among them
      have hSubset : roles ⊆ [Role.sre, .serviceOwner, .approver] := by
        intro role hRole
        rcases hKnown role hRole with rfl | rfl | rfl <;> simp
      have hThree := (List.Nodup.subperm hNodup hSubset).length_le
      rcases hLength with hLength | hLength
      · exact absurd (length_eq_zero_iff.mp hLength) hNonempty
      · simp only [length_cons, length_nil] at hThree
        omega
  · rw [if_neg hLength, distinctRoles_iff]
    have hNonempty : roles ≠ [] := fun h => hLength (.inl (length_eq_zero_iff.mpr h))
    constructor
    · rintro ⟨hNodup, _, hKnown⟩
      exact ⟨hNonempty, hNodup, hKnown⟩
    · rintro ⟨_, hNodup, hKnown⟩
      exact ⟨hNodup, fun _ _ => not_mem_nil, hKnown⟩

theorem hasAnyRole_iff {expected : List Role} :
    hasAnyRole roles expected ↔ ∃ role ∈ roles, role ∈ expected := by
  simp [hasAnyRole]

theorem eligible_iff {principal : Principal} : Eligible principal ↔
    principal.active ∧ principal.canonicalID ≠ [] ∧ validRoles principal.roles ∧
      hasAnyRole principal.roles [.sre, .serviceOwner, .approver] := by
  rw [validRoles_iff, hasAnyRole_iff]
  constructor
  · rintro ⟨hActive, hNamed, ⟨hNonempty, hNodup⟩, hKnown⟩
    refine ⟨hActive, hNamed, ⟨hNonempty, hNodup, hKnown⟩, ?_⟩
    obtain ⟨role, hRole⟩ := exists_mem_of_ne_nil _ hNonempty
    refine ⟨role, hRole, ?_⟩
    rcases hKnown role hRole with rfl | rfl | rfl <;> simp
  · rintro ⟨hActive, hNamed, ⟨hNonempty, hNodup, hKnown⟩, _⟩
    exact ⟨hActive, hNamed, ⟨hNonempty, hNodup⟩, hKnown⟩

/-! ## Approvals -/

section Approvals

variable {crypto : Cryptography} {deps : Dependencies} {envelope : Envelope} {requester : Principal}

theorem approvalBindingValid_iff {approval : Approval} {now : Int} :
    approvalBindingValid approval envelope (bindingDigest crypto envelope) now ↔
      (approval.decision = .approved ∨ approval.decision = .rejected) ∧ Binding crypto envelope now approval := by
  simp only [approvalBindingValid, Bool.and_eq_true, Bool.or_eq_true, beq_iff_eq, decide_eq_true_eq, and_assoc]
  constructor
  · rintro ⟨hDecision, hWorkspace, hAction, hPlan, hVersion, hDigest, hAfter, hBefore, hUnexpired, hInside⟩
    exact ⟨hDecision, hWorkspace, hAction, hPlan, hVersion, hDigest, ⟨hAfter, hBefore⟩, hUnexpired, hInside⟩
  · rintro ⟨hDecision, hWorkspace, hAction, hPlan, hVersion, hDigest, ⟨hAfter, hBefore⟩, hUnexpired, hInside⟩
    exact ⟨hDecision, hWorkspace, hAction, hPlan, hVersion, hDigest, hAfter, hBefore, hUnexpired, hInside⟩

/-- What one turn of the loop does: a rejection is remembered, an approval enters its person, anything else only leaves
a reason. -/
inductive Turn (crypto : Cryptography) (deps : Dependencies) (envelope : Envelope) (requester : Principal)
    (approval : Approval) (tally tally' : Tally) : Prop where
  | rejection (principal : Principal) (hVote : Vote crypto deps envelope requester approval .rejected principal)
      (hValid : tally'.valid = tally.valid) (hRejected : tally'.rejected = true)
  | repetition (principal known : Principal)
      (hVote : Vote crypto deps envelope requester approval .approved principal)
      (hKnown : tally.valid.get? principal.canonicalID = some known)
      (hValid : tally'.valid = tally.valid) (hRejected : tally'.rejected = tally.rejected)
  | approval (principal : Principal) (hVote : Vote crypto deps envelope requester approval .approved principal)
      (hNew : tally.valid.get? principal.canonicalID = none)
      (hValid : tally'.valid = tally.valid.insert principal.canonicalID principal)
      (hRejected : tally'.rejected = tally.rejected)
  | reason (hVote : ∀ decision principal, decision = .approved ∨ decision = .rejected →
        ¬Vote crypto deps envelope requester approval decision principal)
      (hValid : tally'.valid = tally.valid) (hRejected : tally'.rejected = tally.rejected)

theorem countApproval_turn (tally : Tally) (approval : Approval) :
    Turn crypto deps envelope requester approval tally
      (countApproval deps envelope requester (bindingDigest crypto envelope) tally approval) := by
  unfold countApproval
  split
  · rename_i hInvalid
    have hNoVote : ∀ decision principal, decision = .approved ∨ decision = .rejected →
        ¬Vote crypto deps envelope requester approval decision principal := by
      intro decision principal hDecision hVote
      have hValid := approvalBindingValid_iff.mpr ⟨hVote.decision ▸ hDecision, hVote.binding⟩
      rw [hInvalid] at hValid
      cases hValid
    split
    · exact .reason hNoVote rfl rfl
    · exact .reason hNoVote rfl rfl
  · rename_i hValid
    obtain ⟨hDecision, hBinding⟩ := approvalBindingValid_iff.mp (Bool.not_eq_false _ ▸ hValid)
    split
    · rename_i hUnknown
      refine .reason (fun _ _ _ hVote => ?_) rfl rfl
      cases hUnknown.symm.trans hVote.resolved
    · rename_i principal hResolved
      have hSame : ∀ {decision other}, Vote crypto deps envelope requester approval decision other →
          other = principal := fun hVote => Option.some.inj (hVote.resolved.symm.trans hResolved)
      split
      · rename_i hInactive
        refine .reason (fun _ _ _ hVote => ?_) rfl rfl
        have hEligible := hSame hVote ▸ hVote.eligible
        rcases hInactive with hInactive | hUnnamed
        · cases hInactive.symm.trans hEligible.active
        · exact hEligible.named hUnnamed
      · rename_i hActive
        split
        · rename_i hRequester
          refine .reason (fun _ _ _ hVote => ?_) rfl rfl
          have hSeparate := hSame hVote ▸ hVote.separate
          exact hSeparate hRequester
        · rename_i hSeparate
          split
          · rename_i hRoles
            refine .reason (fun _ _ _ hVote => ?_) rfl rfl
            obtain ⟨_, _, hValidRoles, hAnyRole⟩ := eligible_iff.mp (hSame hVote ▸ hVote.eligible)
            rcases hRoles with hRoles | hRoles
            · cases hRoles.symm.trans hValidRoles
            · cases hRoles.symm.trans hAnyRole
          · rename_i hRoles
            have hEligible : Eligible principal := by
              simp only [not_or, Bool.not_eq_false] at hActive hRoles
              exact eligible_iff.mpr ⟨hActive.1, hActive.2, hRoles.1, hRoles.2⟩
            have hVote : ∀ decision, approval.decision = decision →
                Vote crypto deps envelope requester approval decision principal :=
              fun decision hDecision => ⟨hBinding, hDecision, hResolved, hEligible, hSeparate⟩
            split
            · rename_i hRejected
              exact .rejection principal (hVote _ hRejected) rfl rfl
            · rename_i hNotRejected
              have hApproved : approval.decision = .approved := hDecision.resolve_right hNotRejected
              rw [if_neg (not_not_intro hApproved)]
              split
              · rename_i hKnown
                obtain ⟨known, hKnown⟩ := Option.isSome_iff_exists.mp hKnown
                exact .repetition principal known (hVote _ hApproved) hKnown rfl rfl
              · rename_i hNew
                exact .approval principal (hVote _ hApproved) (Option.not_isSome_iff_eq_none.mp hNew) rfl rfl

structure Counted (crypto : Cryptography) (deps : Dependencies) (envelope : Envelope) (requester : Principal)
    (records : List Approval) (tally : Tally) : Prop where
  rejected : tally.rejected = true ↔
    ∃ approval ∈ records, ∃ principal, Vote crypto deps envelope requester approval .rejected principal
  valid : ∀ id principal, tally.valid.get? id = some principal → principal.canonicalID = id ∧
    ∃ approval ∈ records, Vote crypto deps envelope requester approval .approved principal
  complete : ∀ approval ∈ records, ∀ principal, Vote crypto deps envelope requester approval .approved principal →
    ∃ known, tally.valid.get? principal.canonicalID = some known

theorem Vote.principal_unique {approval : Approval} {decision decision' : ApprovalDecision} {principal other : Principal}
    (h : Vote crypto deps envelope requester approval decision principal)
    (h' : Vote crypto deps envelope requester approval decision' other) : other = principal :=
  Option.some.inj (h'.resolved.symm.trans h.resolved)

variable {records : List Approval} {tally : Tally}

theorem Counted.turn {tally' : Tally} {approval : Approval} (h : Counted crypto deps envelope requester records tally)
    (hTurn : Turn crypto deps envelope requester approval tally tally') :
    Counted crypto deps envelope requester (records ++ [approval]) tally' := by
  have hRejectedOld : (∀ principal, ¬Vote crypto deps envelope requester approval .rejected principal) →
      tally'.rejected = tally.rejected → (tally'.rejected ↔ ∃ other ∈ records ++ [approval], ∃ principal,
        Vote crypto deps envelope requester other .rejected principal) := by
    intro hNone hSame
    rw [hSame, h.rejected]
    simp only [mem_append, mem_singleton]
    constructor
    · rintro ⟨other, hOther, hVote⟩
      exact ⟨other, .inl hOther, hVote⟩
    · rintro ⟨other, hOther | rfl, principal, hVote⟩
      · exact ⟨other, hOther, principal, hVote⟩
      · exact absurd hVote (hNone principal)
  have hValidOld : tally'.valid = tally.valid → ∀ id principal, tally'.valid.get? id = some principal →
      principal.canonicalID = id ∧ ∃ other ∈ records ++ [approval],
        Vote crypto deps envelope requester other .approved principal := by
    intro hSame id principal hPrincipal
    rw [hSame] at hPrincipal
    obtain ⟨hID, other, hOther, hVote⟩ := h.valid id principal hPrincipal
    exact ⟨hID, other, mem_append_left _ hOther, hVote⟩
  have hCompleteOld : tally'.valid = tally.valid → (∀ principal,
      Vote crypto deps envelope requester approval .approved principal →
        ∃ known, tally.valid.get? principal.canonicalID = some known) → ∀ other ∈ records ++ [approval], ∀ principal,
      Vote crypto deps envelope requester other .approved principal →
        ∃ known, tally'.valid.get? principal.canonicalID = some known := by
    intro hSame hLast other hOther principal hVote
    rw [hSame]
    rcases mem_append.mp hOther with hOther | hOther
    · exact h.complete other hOther principal hVote
    · rw [mem_singleton.mp hOther] at hVote
      exact hLast principal hVote
  cases hTurn with
  | rejection principal hVote hValid hRejected =>
    refine ⟨?_, hValidOld hValid, hCompleteOld hValid (fun other hOther => ?_)⟩
    · rw [hRejected]
      exact ⟨fun _ => ⟨approval, mem_append_right _ mem_cons_self, principal, hVote⟩, fun _ => rfl⟩
    · cases hVote.decision.symm.trans hOther.decision
  | repetition _ known hVote hKnown hValid hRejected =>
    refine ⟨hRejectedOld (fun other hOther => ?_) hRejected, hValidOld hValid,
      hCompleteOld hValid (fun other hOther => ⟨known, ?_⟩)⟩
    · cases hVote.decision.symm.trans hOther.decision
    · rw [hVote.principal_unique hOther]
      exact hKnown
  | reason hVote hValid hRejected =>
    exact ⟨hRejectedOld (fun other => hVote _ other (.inr rfl)) hRejected, hValidOld hValid,
      hCompleteOld hValid (fun other hOther => absurd hOther (hVote _ other (.inl rfl)))⟩
  | approval principal hVote _ hValid hRejected =>
    refine ⟨hRejectedOld (fun other hOther => ?_) hRejected, ?_, ?_⟩
    · cases hVote.decision.symm.trans hOther.decision
    · intro id found hFound
      rw [hValid] at hFound
      rcases GoMap.get?_insert_cases hFound with ⟨rfl, rfl⟩ | ⟨_, hBefore⟩
      · exact ⟨rfl, approval, mem_append_right _ mem_cons_self, hVote⟩
      · obtain ⟨hID, other, hOther, hOtherVote⟩ := h.valid id found hBefore
        exact ⟨hID, other, mem_append_left _ hOther, hOtherVote⟩
    · intro other hOther found hFound
      rw [hValid]
      by_cases hSame : found.canonicalID = principal.canonicalID
      · rw [hSame]
        exact ⟨principal, GoMap.get?_insert_self⟩
      · rw [GoMap.get?_insert_of_ne hSame]
        rcases mem_append.mp hOther with hOther | hOther
        · exact h.complete other hOther found hFound
        · rw [mem_singleton.mp hOther] at hFound
          rw [hVote.principal_unique hFound] at hSame
          exact absurd rfl hSame

theorem counted_foldl {seen : List Approval} (h : Counted crypto deps envelope requester seen tally)
    (records : List Approval) : Counted crypto deps envelope requester (seen ++ records)
      (records.foldl (countApproval deps envelope requester (bindingDigest crypto envelope)) tally) := by
  induction records generalizing seen tally with
  | nil => rwa [append_nil]
  | cons approval _ ih =>
    have hNext := ih (h.turn (countApproval_turn tally approval))
    rwa [append_assoc] at hNext

def RolesByIdentity (deps : Dependencies) (envelope : Envelope) : Prop :=
  ∀ subjectID otherID principal other, resolvePrincipal deps envelope subjectID = some principal →
    resolvePrincipal deps envelope otherID = some other → principal.canonicalID = other.canonicalID →
    principal.roles = other.roles

theorem counted_nil : Counted crypto deps envelope requester [] {} where
  rejected := by simp
  valid _ _ h := by cases h
  complete _ h := (not_mem_nil h).elim

theorem counted_records (records : List Approval) : Counted crypto deps envelope requester records
    (records.foldl (countApproval deps envelope requester (bindingDigest crypto envelope)) {}) :=
  counted_foldl counted_nil records

section

variable (h : Counted crypto deps envelope requester records tally)

include h

theorem Counted.size_iff : 1 ≤ tally.valid.size ↔ ∃ approval ∈ records, ∃ principal,
      Vote crypto deps envelope requester approval .approved principal := by
  rw [Nat.one_le_iff_ne_zero, Ne, GoMap.size_eq_zero_iff]
  constructor
  · intro hSome
    obtain ⟨id, hID⟩ := not_forall.mp hSome
    obtain ⟨principal, hPrincipal⟩ := Option.ne_none_iff_exists'.mp hID
    obtain ⟨_, approval, hApproval, hVote⟩ := h.valid id principal hPrincipal
    exact ⟨approval, hApproval, principal, hVote⟩
  · rintro ⟨approval, hApproval, principal, hVote⟩ hNone
    obtain ⟨_, hKnown⟩ := h.complete approval hApproval principal hVote
    cases (hNone _).symm.trans hKnown

theorem Counted.person (hRoles : RolesByIdentity deps envelope) {approval : Approval} (hApproval : approval ∈ records)
    {principal : Principal} (hVote : Vote crypto deps envelope requester approval .approved principal) :
    ∃ known, tally.valid.get? principal.canonicalID = some known ∧ known.roles = principal.roles := by
  obtain ⟨known, hKnown⟩ := h.complete approval hApproval principal hVote
  obtain ⟨hID, _, _, hOther⟩ := h.valid _ known hKnown
  exact ⟨known, hKnown, hRoles _ _ known principal hOther.resolved hVote.resolved hID⟩

theorem Counted.twoPeople_iff (hRoles : RolesByIdentity deps envelope) :
    twoPeople tally.valid ↔ ∃ first ∈ records, ∃ second ∈ records, ∃ sre owner,
      Vote crypto deps envelope requester first .approved sre ∧
        Vote crypto deps envelope requester second .approved owner ∧ sre.canonicalID ≠ owner.canonicalID ∧
        Role.sre ∈ sre.roles ∧ Role.serviceOwner ∈ owner.roles := by
  have hHas : ∀ {roles : List Role} {role : Role}, hasAnyRole roles [role] ↔ role ∈ roles := by
    intro roles role
    rw [hasAnyRole_iff]
    simp
  simp only [twoPeople, GoMap.anyEntry_iff, Bool.and_eq_true, bne_iff_ne, hHas]
  constructor
  · rintro ⟨sreID, sre, hSRE, hSRERole, ownerID, owner, hOwner, hDifferent, hOwnerRole⟩
    obtain ⟨rfl, first, hFirst, hFirstVote⟩ := h.valid sreID sre hSRE
    obtain ⟨rfl, second, hSecond, hSecondVote⟩ := h.valid ownerID owner hOwner
    exact ⟨first, hFirst, second, hSecond, sre, owner, hFirstVote, hSecondVote, hDifferent, hSRERole, hOwnerRole⟩
  · rintro ⟨first, hFirst, second, hSecond, sre, owner, hFirstVote, hSecondVote, hDifferent, hSRERole, hOwnerRole⟩
    obtain ⟨known, hKnown, hKnownRoles⟩ := h.person hRoles hFirst hFirstVote
    obtain ⟨other, hOther, hOtherRoles⟩ := h.person hRoles hSecond hSecondVote
    exact ⟨sre.canonicalID, known, hKnown, hKnownRoles ▸ hSRERole, owner.canonicalID, other, hOther, hDifferent,
      hOtherRoles ▸ hOwnerRole⟩

end

structure Readable (deps : Dependencies) (envelope : Envelope) (records : List Approval) (requester : Principal) :
    Prop where
  list : deps.approvals envelope.workspaceID envelope.actionID envelope.planHash = some records
  resolved : resolvePrincipal deps envelope envelope.requestedBy = some requester
  active : requester.active = true
  named : requester.canonicalID ≠ []

theorem settled_iff (h : Counted crypto deps envelope requester records tally)
    (hRoles : RolesByIdentity deps envelope) : let result : ApprovalEvaluation :=
      if tally.rejected then { rejected := true, reasons := tally.reasons }
      else if envelope.actionType ≠ .gitOpsRevert then { satisfied := 1 ≤ tally.valid.size, reasons := tally.reasons }
      else { satisfied := twoPeople tally.valid, reasons := tally.reasons }
    (result.rejected ↔ tally.rejected) ∧
      (result.satisfied ↔ Approved crypto deps envelope requester records) := by
  cases hRejected : tally.rejected with
  | true =>
    refine ⟨Iff.rfl, nofun, fun hApproved => ?_⟩
    obtain ⟨approval, hApproval, principal, hVote⟩ := h.rejected.mp hRejected
    exact absurd hVote (hApproved.unopposed approval hApproval principal)
  | false =>
    have hUnopposed : ∀ approval ∈ records, ∀ principal,
        ¬Vote crypto deps envelope requester approval .rejected principal := by
      intro approval hApproval principal hVote
      cases hRejected.symm.trans (h.rejected.mpr ⟨approval, hApproval, principal, hVote⟩)
    by_cases hType : envelope.actionType ≠ .gitOpsRevert
    · simp only [Bool.false_eq_true, if_false, if_pos hType, decide_eq_true_eq, h.size_iff, iff_self, true_and]
      constructor
      · intro hOne
        exact ⟨hUnopposed, fun _ => hOne, fun hRevert => absurd hRevert hType⟩
      · intro hApproved
        exact hApproved.one hType
    · simp only [Bool.false_eq_true, if_false, if_neg hType, h.twoPeople_iff hRoles, iff_self, true_and]
      constructor
      · intro hTwo
        exact ⟨hUnopposed, fun hOther => absurd hOther hType, fun _ => hTwo⟩
      · intro hApproved
        exact hApproved.two (not_not.mp hType)

theorem evaluateApprovals_spec (hRoles : RolesByIdentity deps envelope)
    (hDigest : targetDigest crypto envelope = .ok (bindingDigest crypto envelope)) :
    ((evaluateApprovals crypto deps envelope).rejected ↔ ∃ records requester,
      Readable deps envelope records requester ∧ ∃ approval ∈ records, ∃ principal,
        Vote crypto deps envelope requester approval .rejected principal) ∧
    ((evaluateApprovals crypto deps envelope).satisfied ↔ ∃ records requester,
      Readable deps envelope records requester ∧ Approved crypto deps envelope requester records) := by
  have hUnreadable : (∀ records requester, ¬Readable deps envelope records requester) →
      ∀ P Q : List Approval → Principal → Prop,
        (false ↔ ∃ records requester, Readable deps envelope records requester ∧ P records requester) ∧
        (false ↔ ∃ records requester, Readable deps envelope records requester ∧ Q records requester) := by
    intro hNone P Q
    simp [hNone]
  unfold evaluateApprovals
  rw [hDigest]
  dsimp only
  split
  · rename_i hNone
    exact hUnreadable (fun records requester hReadable => by cases hNone.symm.trans hReadable.list) _ _
  · rename_i records hRecords
    split
    · rename_i hNone
      exact hUnreadable (fun records requester hReadable => by cases hNone.symm.trans hReadable.resolved) _ _
    · rename_i requester hRequester
      split
      · rename_i hInactive
        refine hUnreadable (fun records' requester' hReadable => ?_) _ _
        have hSame := Option.some.inj (hRequester.symm.trans hReadable.resolved)
        subst hSame
        rcases hInactive with hInactive | hUnnamed
        · cases hInactive.symm.trans hReadable.active
        · exact hReadable.named hUnnamed
      · rename_i hActive
        simp only [not_or, Bool.not_eq_false] at hActive
        have hReadable : Readable deps envelope records requester := ⟨hRecords, hRequester, hActive.1, hActive.2⟩
        have hOnly : ∀ {P : List Approval → Principal → Prop},
            (∃ records' requester', Readable deps envelope records' requester' ∧ P records' requester') ↔
              P records requester := by
          intro P
          constructor
          · rintro ⟨records', requester', hReadable', hP⟩
            have hSameRecords := Option.some.inj (hRecords.symm.trans hReadable'.list)
            have hSameRequester := Option.some.inj (hRequester.symm.trans hReadable'.resolved)
            subst hSameRecords hSameRequester
            exact hP
          · intro hP
            exact ⟨records, requester, hReadable, hP⟩
        rw [hOnly, hOnly]
        have hCounted : Counted crypto deps envelope requester records _ := counted_records records
        rw [← hCounted.rejected]
        exact settled_iff hCounted hRoles

end Approvals

/-! ## The other gates -/

def NeverAllows {α : Type} (body : Except (Decision × Option EvaluateError) α) : Prop :=
  ∀ refused, body = .error refused → refused.1.outcome ≠ .allow

section NeverAllows

variable {α β : Type}

theorem NeverAllows.pure (a : α) : NeverAllows (Pure.pure a) := nofun

variable {refused : Decision × Option EvaluateError}

theorem NeverAllows.require {condition : Prop} [Decidable condition]
    (h : refused.1.outcome ≠ .allow) : NeverAllows (Go.require condition refused) := by
  intro _ hOther
  unfold Go.require at hOther
  split at hOther
  · cases hOther
  · cases hOther
    exact h

theorem NeverAllows.orFail {value : Option α}
    (h : refused.1.outcome ≠ .allow) : NeverAllows (Go.orFail value refused) := by
  intro _ hOther
  cases value with
  | some => cases hOther
  | none =>
    cases hOther
    exact h

theorem NeverAllows.bind {body : Except (Decision × Option EvaluateError) α}
    {next : α → Except (Decision × Option EvaluateError) β} (h : NeverAllows body) (hNext : ∀ a, NeverAllows (next a)) :
    NeverAllows (body >>= next) := by
  intro refused hRefused
  cases hBody : body with
  | error =>
    rw [hBody] at hRefused
    cases hRefused
    exact h _ hBody
  | ok a =>
    rw [hBody] at hRefused
    exact hNext a refused hRefused

theorem refuse_not_allow (decision : Decision) (reason : GoString) : (refuse decision reason).1.outcome ≠ .allow := by
  rintro ⟨⟩

end NeverAllows

section Gates

variable {crypto : Cryptography} {deps : Dependencies} {envelope : Envelope} {engine : Engine} {contextDone : Bool}
  {stage : Stage}

theorem safetyGates_neverAllow : NeverAllows (safetyGates crypto deps envelope engine contextDone stage) := by
  unfold safetyGates
  refine .bind (.require nofun) fun _ => ?_
  refine .bind (.orFail (refuse_not_allow _ _)) fun _ => ?_
  iterate 4 refine .bind (.require (refuse_not_allow _ _)) fun _ => ?_
  refine .bind (.orFail (refuse_not_allow _ _)) fun _ => ?_
  refine .bind (.require (refuse_not_allow _ _)) fun _ => ?_
  refine .bind (.require (refuse_not_allow _ _)) fun _ => ?_
  exact .bind (.require (refuse_not_allow _ _)) fun _ => .pure _

theorem targetGates_neverAllow (decision : Decision) : NeverAllows (targetGates deps envelope decision) := by
  unfold targetGates
  refine .bind (.orFail (refuse_not_allow _ _)) fun _ => ?_
  iterate 4 refine .bind (.require (refuse_not_allow _ _)) fun _ => ?_
  exact .bind (.require (refuse_not_allow _ _)) fun _ => .pure _

theorem assessmentGates_neverAllow (decision : Decision) (target : TargetSnapshot) :
    NeverAllows (assessmentGates crypto deps envelope engine stage decision target) := by
  unfold assessmentGates
  refine .bind (.orFail (refuse_not_allow _ _)) fun _ => ?_
  refine .bind (.require (refuse_not_allow _ _)) fun _ => ?_
  refine .bind (.orFail (refuse_not_allow _ _)) fun _ => ?_
  refine .bind (.require (refuse_not_allow _ _)) fun _ => ?_
  refine .bind (.orFail nofun) fun _ => ?_
  exact .bind (.require (refuse_not_allow _ _)) fun _ => .pure _

theorem gates_neverAllow : NeverAllows (gates crypto deps envelope engine contextDone stage) :=
  .bind safetyGates_neverAllow fun decision => .bind (targetGates_neverAllow decision) fun passed =>
    assessmentGates_neverAllow passed.1 passed.2

theorem targetDigest_of_verify (h : verify crypto Envelope.TokenField.all envelope (some deps.keys) deps.now = .ok ()) :
    targetDigest crypto envelope = .ok (bindingDigest crypto envelope) := by
  unfold targetDigest
  rw [validate_of_verify h]
  rfl

theorem filter_revision {α : Type} {value : Option α} {revision : α → GoString} {a : α} :
    value.filter (fun a => revision a ≠ []) = some a ↔ value = some a ∧ revision a ≠ [] := by
  rw [Option.filter_eq_some_iff]
  simp

variable {target : TargetSnapshot}

theorem safetyGates_eq_ok_iff :
    (∃ decision, safetyGates crypto deps envelope engine contextDone stage = .ok decision) ↔ contextDone = false ∧
    (∃ global, deps.global = some global ∧ global.revision ≠ [] ∧
      Recent deps.now global.observedAt maxSafetySnapshotAge ∧ global.enabled) ∧
    envelope.policyVersion = engine.version ∧
    verify crypto Envelope.TokenField.all envelope (some deps.keys) deps.now = .ok () ∧
    ∃ switches, deps.switches envelope = some switches ∧ switches.revision ≠ [] ∧
      Recent deps.now switches.observedAt maxSafetySnapshotAge ∧
      (switches.workspaceID = envelope.workspaceID ∧ switches.environmentID = envelope.target.environmentID ∧
        switches.connectorID = envelope.credentialScope.connectorID ∧ switches.actionType = envelope.actionType) ∧
      switches.environmentEnabled ∧ switches.connectorEnabled ∧ switches.actionEnabled := by
  simp only [safetyGates, bind_eq_ok, orFail_eq_ok, require_eq_ok, filter_revision, fresh_safety]
  constructor
  · rintro ⟨_, _, hLive, global, ⟨hGlobal, hGlobalRevision⟩, _, hGlobalFresh, _, hEnabled, _, hVersion, _, hVerified,
      switches, ⟨hSwitches, hRevision⟩, _, hFresh, _, hBound, _, hSwitchedOn, _⟩
    exact ⟨hLive, ⟨global, hGlobal, hGlobalRevision, hGlobalFresh, hEnabled⟩, hVersion, hVerified, switches, hSwitches,
      hRevision, hFresh, hBound, hSwitchedOn⟩
  · rintro ⟨hLive, ⟨global, hGlobal, hGlobalRevision, hGlobalFresh, hEnabled⟩, hVersion, hVerified, switches, hSwitches,
      hRevision, hFresh, hBound, hSwitchedOn⟩
    exact ⟨_, (), hLive, global, ⟨hGlobal, hGlobalRevision⟩, (), hGlobalFresh, (), hEnabled, (), hVersion, (), hVerified,
      switches, ⟨hSwitches, hRevision⟩, (), hFresh, (), hBound, (), hSwitchedOn, rfl⟩

theorem targetGates_eq_ok_iff {decision : Decision} :
    (∃ next, targetGates deps envelope decision = .ok (next, target)) ↔ deps.targets envelope = some target ∧
    target.revision ≠ [] ∧ Recent deps.now target.observedAt maxTargetSnapshotAge ∧
    (target.workspaceID = envelope.workspaceID ∧ target.serviceID = envelope.target.serviceID ∧
      target.environmentID = envelope.target.environmentID ∧
      target.connectorID = envelope.credentialScope.connectorID ∧ target.actionType = envelope.actionType) ∧
    target.mappingResult = ascii "EXACT" ∧ target.whitelisted ∧ ∃ version,
      Claims envelope target.kubernetes target.gitOps target.awx version ∧
        ∀ text, version = some text → target.targetVersion = text := by
  simp only [targetGates, bind_eq_ok, orFail_eq_ok, require_eq_ok, filter_revision, fresh_target,
    targetMatchesEnvelope_iff]
  constructor
  · rintro ⟨_, _, ⟨hTarget, hRevision⟩, _, hFresh, _, hBound, _, hMapping, _, hWhitelisted, _, hClaims, hReturn⟩
    cases hReturn
    exact ⟨hTarget, hRevision, hFresh, hBound, hMapping, hWhitelisted, hClaims⟩
  · rintro ⟨hTarget, hRevision, hFresh, hBound, hMapping, hWhitelisted, hClaims⟩
    exact ⟨_, target, ⟨hTarget, hRevision⟩, (), hFresh, (), hBound, (), hMapping, (), hWhitelisted, (), hClaims, rfl⟩

section Bound

variable (hTarget : target.workspaceID = envelope.workspaceID ∧ target.serviceID = envelope.target.serviceID ∧
    target.environmentID = envelope.target.environmentID ∧
    target.connectorID = envelope.credentialScope.connectorID ∧ target.actionType = envelope.actionType)
  (hMapping : target.mappingResult = ascii "EXACT") (hWhitelisted : target.whitelisted = true)

include hTarget hMapping hWhitelisted

theorem activation_eq {risk : RiskSnapshot} (hRisk : risk.level = envelope.risk.level) :
    activation envelope stage target risk = claimedActivation stage envelope := by
  obtain ⟨hWorkspace, hService, hEnvironment, hConnector, _⟩ := hTarget
  simp [activation, claimedActivation, hWorkspace, hService, hEnvironment, hConnector, hMapping, hWhitelisted, hRisk]

theorem assessmentGates_eq_ok_iff {decision : Decision}
    (hDigest : targetDigest crypto envelope = .ok (bindingDigest crypto envelope)) :
    (∃ next, assessmentGates crypto deps envelope engine stage decision target = .ok next) ↔
    (∃ risk, deps.risk envelope = some risk ∧ risk.revision ≠ [] ∧
      Recent deps.now risk.observedAt maxTargetSnapshotAge ∧ risk.workspaceID = envelope.workspaceID ∧
      risk.actionID = envelope.actionID ∧ risk.planHash = envelope.planHash ∧
      risk.targetDigest = bindingDigest crypto envelope ∧ risk.policyVersion = envelope.policyVersion ∧
      risk.level = envelope.risk.level ∧ risk.reasonCodes = envelope.risk.reasonCodes) ∧
    (∃ limits, deps.limits envelope = some limits ∧ limits.revision ≠ [] ∧
      Recent deps.now limits.observedAt maxTargetSnapshotAge ∧ limits.workspaceID = envelope.workspaceID ∧
      limits.serviceID = envelope.target.serviceID ∧ limits.environmentID = envelope.target.environmentID ∧
      limits.actionType = envelope.actionType ∧ Limits envelope limits) ∧
    engine.program (claimedActivation stage envelope) = some (.bool true) := by
  simp only [assessmentGates, bind_eq_ok, orFail_eq_ok, require_eq_ok, filter_revision, fresh_target,
    limitsMatchEnvelope_iff, hDigest, Except.ok.injEq]
  constructor
  · rintro ⟨_, risk, ⟨hRisk, hRevision⟩, _, ⟨hFresh, hBinding, hWorkspace, hAction, hPlan, hPolicy, hLevel, hCodes⟩,
      limits, ⟨hLimits, hLimitsRevision⟩, _, hLimitsBound, _, hResult, _, rfl, _⟩
    rw [activation_eq hTarget hMapping hWhitelisted hLevel] at hResult
    exact ⟨⟨risk, hRisk, hRevision, hFresh, hWorkspace, hAction, hPlan, hBinding.symm, hPolicy, hLevel, hCodes⟩,
      ⟨limits, hLimits, hLimitsRevision, hLimitsBound⟩, hResult⟩
  · rintro ⟨⟨risk, hRisk, hRevision, hFresh, hWorkspace, hAction, hPlan, hBinding, hPolicy, hLevel, hCodes⟩,
      ⟨limits, hLimits, hLimitsRevision, hLimitsBound⟩, hResult⟩
    rw [← activation_eq hTarget hMapping hWhitelisted hLevel] at hResult
    exact ⟨_, risk, ⟨hRisk, hRevision⟩, (), ⟨hFresh, hBinding.symm, hWorkspace, hAction, hPlan, hPolicy, hLevel, hCodes⟩,
      limits, ⟨hLimits, hLimitsRevision⟩, (), hLimitsBound, _, hResult, (), rfl, rfl⟩

end Bound

theorem gates_eq_ok_iff : (∃ decision, gates crypto deps envelope engine contextDone stage = .ok decision) ↔
    Passed crypto deps engine contextDone stage envelope := by
  simp only [gates, bind_eq_ok]
  constructor
  · rintro ⟨next, decision, hSafety, ⟨between, target⟩, hTargetGates, hAssessment⟩
    obtain ⟨hLive, hGlobal, hVersion, hVerified, hSwitches⟩ := safetyGates_eq_ok_iff.mp ⟨decision, hSafety⟩
    obtain ⟨hTarget, hRevision, hFresh, hBound, hMapping, hWhitelisted, version, hClaims, hTargetVersion⟩ :=
      targetGates_eq_ok_iff.mp ⟨between, hTargetGates⟩
    obtain ⟨hRisk, hLimits, hExpression⟩ :=
      (assessmentGates_eq_ok_iff hBound hMapping hWhitelisted (targetDigest_of_verify hVerified)).mp ⟨next, hAssessment⟩
    exact ⟨hLive, hGlobal, hSwitches, hVersion, hVerified,
      ⟨target, version, hTarget, hRevision, hFresh, hBound, hMapping, hWhitelisted, hClaims, hTargetVersion⟩, hRisk,
      hLimits, hExpression⟩
  · rintro ⟨hLive, hGlobal, hSwitches, hVersion, hVerified,
      ⟨target, version, hTarget, hRevision, hFresh, hBound, hMapping, hWhitelisted, hClaims, hTargetVersion⟩, hRisk,
      hLimits, hExpression⟩
    obtain ⟨decision, hSafety⟩ := safetyGates_eq_ok_iff.mpr ⟨hLive, hGlobal, hVersion, hVerified, hSwitches⟩
    obtain ⟨between, hTargetGates⟩ := targetGates_eq_ok_iff.mpr
      ⟨hTarget, hRevision, hFresh, hBound, hMapping, hWhitelisted, version, hClaims, hTargetVersion⟩
    obtain ⟨next, hAssessment⟩ := (assessmentGates_eq_ok_iff hBound hMapping hWhitelisted
      (targetDigest_of_verify hVerified)).mpr ⟨hRisk, hLimits, hExpression⟩
    exact ⟨next, decision, hSafety, (between, target), hTargetGates, hAssessment⟩

theorem conclude_outcome (decision : Decision) (approvals : ApprovalEvaluation) :
    (conclude deps envelope stage decision approvals).outcome =
      if approvals.rejected then .deny
      else if approvals.satisfied then .allow
      else if stage = .planSubmission then .requireApproval else .deny := by
  unfold conclude
  cases approvals.rejected with
  | true => rfl
  | false =>
    cases approvals.satisfied with
    | false => rfl
    | true => by_cases hStage : stage = .credentialIssue <;> simp [hStage]

theorem evaluate_allow_iff (hRoles : RolesByIdentity deps envelope) :
    (evaluate crypto deps envelope engine contextDone stage).1.outcome = .allow ↔
      Allowed crypto deps engine contextDone stage envelope := by
  unfold evaluate
  cases hGates : gates crypto deps envelope engine contextDone stage with
  | error refused =>
    refine ⟨fun hAllow => absurd hAllow (gates_neverAllow refused hGates), fun hAllowed => ?_⟩
    obtain ⟨decision, hDecision⟩ := gates_eq_ok_iff.mpr hAllowed.toPassed
    cases hGates.symm.trans hDecision
  | ok decision =>
    have hPassed := gates_eq_ok_iff.mp ⟨decision, hGates⟩
    obtain ⟨hRejected, hSatisfied⟩ := evaluateApprovals_spec hRoles (targetDigest_of_verify hPassed.verified)
    rw [show (conclude deps envelope stage decision (evaluateApprovals crypto deps envelope), none).1.outcome = _ from
      conclude_outcome decision _]
    constructor
    · intro hAllow
      split at hAllow
      · cases hAllow
      · split at hAllow
        · rename_i hEnough
          obtain ⟨records, requester, hReadable, hApproved⟩ := hSatisfied.mp hEnough
          exact { hPassed with
            approvals := ⟨records, requester, hReadable.list, hReadable.resolved, hReadable.active, hReadable.named,
              hApproved⟩ }
        · split at hAllow <;> cases hAllow
    · rintro ⟨_, records, requester, hList, hResolved, hActive, hNamed, hApproved⟩
      have hEnough := hSatisfied.mpr ⟨records, requester, ⟨hList, hResolved, hActive, hNamed⟩, hApproved⟩
      have hUnopposed : (evaluateApprovals crypto deps envelope).rejected ≠ true := by
        intro hOpposed
        obtain ⟨records', requester', hReadable, approval, hApproval, principal, hVote⟩ := hRejected.mp hOpposed
        have hSameRecords := Option.some.inj (hList.symm.trans hReadable.list)
        have hSameRequester := Option.some.inj (hResolved.symm.trans hReadable.resolved)
        subst hSameRecords hSameRequester
        exact hApproved.unopposed approval hApproval principal hVote
      rw [if_neg hUnopposed, if_pos hEnough]

end Gates

/-! ## Order and repetition of the approvals -/

section Members

variable {crypto : Cryptography} {deps : Dependencies} {envelope : Envelope}

def SameApprovals (first second : GoString → GoString → GoString → Option (List Approval)) : Prop :=
  ∀ workspaceID actionID planHash,
    (first workspaceID actionID planHash).map (fun records => { approval | approval ∈ records }) =
      (second workspaceID actionID planHash).map (fun records => { approval | approval ∈ records })

theorem SameApprovals.symm {first second : GoString → GoString → GoString → Option (List Approval)}
    (h : SameApprovals first second) : SameApprovals second first :=
  fun workspaceID actionID planHash => (h workspaceID actionID planHash).symm

variable {approvals : GoString → GoString → GoString → Option (List Approval)}

variable {requester : Principal}

theorem SameApprovals.readable (h : SameApprovals deps.approvals approvals) {records : List Approval}
    (hReadable : Readable deps envelope records requester) : ∃ records',
      Readable { deps with approvals := approvals } envelope records' requester ∧
        ∀ approval, approval ∈ records ↔ approval ∈ records' := by
  have hSame := h envelope.workspaceID envelope.actionID envelope.planHash
  rw [hReadable.list] at hSame
  obtain ⟨records', hRecords', hMembers⟩ := Option.map_eq_some_iff.mp hSame.symm
  exact ⟨records', ⟨hRecords', hReadable.resolved, hReadable.active, hReadable.named⟩,
    fun approval => (Set.ext_iff.mp hMembers approval).symm⟩

theorem Vote.reader {approval : Approval} {decision : ApprovalDecision}
    {principal : Principal} (h : Vote crypto deps envelope requester approval decision principal) :
    Vote crypto { deps with approvals := approvals } envelope requester approval decision principal :=
  ⟨h.binding, h.decision, h.resolved, h.eligible, h.separate⟩

theorem Approved.members {records records' : List Approval} (h : Approved crypto deps envelope requester records)
    (hMembers : ∀ approval, approval ∈ records ↔ approval ∈ records') :
    Approved crypto { deps with approvals := approvals } envelope requester records' where
  unopposed approval hApproval principal hVote :=
    h.unopposed approval ((hMembers approval).mpr hApproval) principal hVote.reader
  one hType := by
    obtain ⟨approval, hApproval, principal, hVote⟩ := h.one hType
    exact ⟨approval, (hMembers approval).mp hApproval, principal, hVote.reader⟩
  two hType := by
    obtain ⟨first, hFirst, second, hSecond, sre, owner, hFirstVote, hSecondVote, hPeople⟩ := h.two hType
    exact ⟨first, (hMembers first).mp hFirst, second, (hMembers second).mp hSecond, sre, owner, hFirstVote.reader,
      hSecondVote.reader, hPeople⟩

theorem evaluateApprovals_members (h : SameApprovals deps.approvals approvals) (hRoles : RolesByIdentity deps envelope)
    (hDigest : targetDigest crypto envelope = .ok (bindingDigest crypto envelope)) :
    ((evaluateApprovals crypto deps envelope).rejected →
      (evaluateApprovals crypto { deps with approvals := approvals } envelope).rejected) ∧
    ((evaluateApprovals crypto deps envelope).satisfied →
      (evaluateApprovals crypto { deps with approvals := approvals } envelope).satisfied) := by
  have hRoles' : RolesByIdentity { deps with approvals := approvals } envelope := hRoles
  obtain ⟨hRejected, hSatisfied⟩ := evaluateApprovals_spec hRoles hDigest
  obtain ⟨hRejected', hSatisfied'⟩ := evaluateApprovals_spec hRoles' hDigest
  rw [hRejected, hRejected', hSatisfied, hSatisfied']
  constructor
  · rintro ⟨records, requester, hReadable, approval, hApproval, principal, hVote⟩
    obtain ⟨records', hReadable', hMembers⟩ := h.readable hReadable
    exact ⟨records', requester, hReadable', approval, (hMembers approval).mp hApproval, principal, hVote.reader⟩
  · rintro ⟨records, requester, hReadable, hApproved⟩
    obtain ⟨records', hReadable', hMembers⟩ := h.readable hReadable
    exact ⟨records', requester, hReadable', hApproved.members hMembers⟩

end Members

/-- The engine allows an action exactly under the rule, and its outcome depends on the set of approvals only. -/
theorem policy_allows_exactly_under_the_rule (crypto : Cryptography) (deps : Dependencies) (engine : Engine)
    (contextDone : Bool) (stage : Stage) (envelope : Envelope) (hRoles : RolesByIdentity deps envelope) :
    ((evaluate crypto deps envelope engine contextDone stage).1.outcome = .allow ↔
      Allowed crypto deps engine contextDone stage envelope) ∧
    ∀ approvals, SameApprovals deps.approvals approvals →
      (evaluate crypto { deps with approvals := approvals } envelope engine contextDone stage).1.outcome =
        (evaluate crypto deps envelope engine contextDone stage).1.outcome := by
  refine ⟨evaluate_allow_iff hRoles, fun approvals hSame => ?_⟩
  have hGates : gates crypto { deps with approvals := approvals } envelope engine contextDone stage =
    gates crypto deps envelope engine contextDone stage := rfl
  unfold evaluate
  rw [hGates]
  cases hDecision : gates crypto deps envelope engine contextDone stage with
  | error => rfl
  | ok decision =>
    have hDigest := targetDigest_of_verify (gates_eq_ok_iff.mp ⟨decision, hDecision⟩).verified
    have hRoles' : RolesByIdentity { deps with approvals := approvals } envelope := hRoles
    obtain ⟨hRejected, hSatisfied⟩ := evaluateApprovals_members hSame hRoles hDigest
    obtain ⟨hRejected', hSatisfied'⟩ := evaluateApprovals_members hSame.symm hRoles' hDigest
    have hSameRejected := Bool.eq_iff_iff.mpr ⟨hRejected', hRejected⟩
    have hSameSatisfied := Bool.eq_iff_iff.mpr ⟨hSatisfied', hSatisfied⟩
    dsimp only
    rw [conclude_outcome, conclude_outcome, hSameRejected, hSameSatisfied]

namespace Sample

def headCommit : GoString := ascii "1a954628a960aaef81d7b2d4521929579f3541e6"

def policyVersion : GoString := ascii "policy-1"

def notBefore : Int := unixEpoch + 1783000000 * second

def expiresAt : Int := unixEpoch + 1783001200 * second

def application : GitOpsTarget where
  repositoryID := ascii "repository-1"
  application := ascii "payments"
  path := ascii "deploy/payments"

def revert : GitOpsRevertParameters where
  provider := ascii "GITLAB"
  baseCommit := ascii "1405df66cbe219b0bf6355bc3d60361a8376b6b4"
  headCommit := headCommit
  revertCommit := ascii "486766b6ea4c4039937db945d26b80c982a4cc26"
  diffSHA256 := ascii "df087996d45b03e7eb8c133c0298fd98d35113fca26aaba58612fef3cc212cad"
  treeSHA256 := ascii "dc9c5edb8b2d479e697b4b0b8ab874f32b325138598ce9e7b759eb8292110622"

def state : GitOpsObservedState where
  liveRevision := headCommit
  desiredRevision := headCommit
  headTreeSHA256 := ascii "f67c11f82bba831f4199c965c9d15ab98b2379977876648682863a6a0272ab4b"
  syncStatus := ascii "SYNCED"
  healthStatus := ascii "DEGRADED"

def envelope : Envelope where
  schemaVersion := schemaVersionV1
  actionID := ascii "action-1"
  workspaceID := ascii "workspace-1"
  incidentID := ascii "incident-1"
  requestedBy := ascii "operator-1"
  actionType := .gitOpsRevert
  target := {
    serviceID := ascii "payments"
    environmentID := ascii "production"
    kubernetesDeployment := none
    gitOpsApplication := some application
    awxHosts := none }
  parameters := {
    kubernetesRolloutRestart := none
    kubernetesScale := none
    gitOpsRevert := some revert
    awxServiceRestart := none }
  observedState := {
    kubernetesDeployment := none
    gitOpsApplication := some state
    awxService := none }
  preconditions := {
    mappingResult := ascii "EXACT"
    expectedResourceVersion := []
    expectedGitHeadCommit := headCommit
    requireWhitelist := true }
  verification := { mode := ascii "ARGO_CD_HEALTH", timeoutSeconds := 300 }
  compensation := { mode := ascii "MANUAL_ONLY", summary := ascii "apply the release again" }
  risk := { level := ascii "HIGH", reasonCodes := [ascii "PRODUCTION"] }
  policyVersion := policyVersion
  planHash := ascii "35041324c13932221bdf726600b3273261d1f3eb55e650b98f4566f67eea36a4"
  credentialScope := {
    connectorID := ascii "gitlab", permission := ascii "CREATE_REVERT_MR", resource := ascii "repository-1"
    ttlSeconds := 300 }
  idempotencyKey := ascii "revert-1"
  notBefore := { instant := notBefore, offset := 0 }
  expiresAt := { instant := expiresAt, offset := 0 }
  traceID := List.replicate 32 98
  signature := {
    algorithm := signatureEd25519
    keyID := ascii "key-1"
    value := ascii "slNx_w4ihEuqyXgcH8IFUD7qp1qgVd9KLFI-P3fqVmRkleq5q1LYKLq_k5Meovj5CyFC13reaalXJ8UOH1suDQ" }

def publicKey : GoString :=
  [112, 112, 152, 158, 82, 19, 175, 98, 72, 77, 14, 106, 224, 15, 185, 110, 42, 81, 142, 67, 70, 76, 148, 185, 64, 71,
    212, 76, 122, 35, 28, 158]

def digest : GoString := ascii "eb538b376929a81847821f31b821470d78dc9b76aab8f5f31202e9d3aca4fa4a"

def canonical (document : Json) : Option GoString := some document.canonicalForm

def plan : GoString := (canonicalJSON canonical { envelope with planHash := [], signature := {} }).getD []

def digests : List (GoString × GoString) :=
  [(Json.encode (bindingDocument envelope), digest),
    (plan, envelope.planHash)]

def crypto : Cryptography where
  sha256Hex := digestTable digests
  ed25519Verify key message signature :=
    key == publicKey && canonicalSigningMessage canonical envelope == some message &&
      rawURLDecode envelope.signature.value == some signature
  canonical := canonical

def now : Int := notBefore + minute

def approval (subjectID : GoString) : Approval where
  subjectID := subjectID
  decision := .approved
  workspaceID := envelope.workspaceID
  actionID := envelope.actionID
  planHash := envelope.planHash
  policyVersion := policyVersion
  targetDigest := digest
  decidedAt := notBefore + second
  expiresAt := expiresAt

def person (subjectID : GoString) : Principal where
  canonicalID := subjectID
  active := true
  roles := if subjectID = ascii "sre-1" then [.sre] else [.serviceOwner]

def deps : Dependencies where
  keys _ := some { publicKey := publicKey, revoked := false, activeAt := 0, retireAt := 0 }
  approvals _ _ _ := some [approval (ascii "sre-1"), approval (ascii "owner-1")]
  principals subjectID _ _ _ := some (person subjectID)
  global := some { enabled := true, revision := ascii "1", observedAt := now }
  switches _ := some {
    workspaceID := envelope.workspaceID, environmentID := ascii "production", connectorID := ascii "gitlab"
    actionType := .gitOpsRevert, environmentEnabled := true, connectorEnabled := true, actionEnabled := true
    revision := ascii "2", observedAt := now }
  targets _ := some {
    workspaceID := envelope.workspaceID, serviceID := ascii "payments", environmentID := ascii "production"
    connectorID := ascii "gitlab", actionType := .gitOpsRevert, mappingResult := ascii "EXACT", whitelisted := true
    targetVersion := [], kubernetes := none, awx := none, revision := ascii "3", observedAt := now
    gitOps := some {
      provider := revert.provider, repositoryID := application.repositoryID, application := application.application
      path := application.path, baseCommit := revert.baseCommit, headCommit := revert.headCommit
      revertCommit := revert.revertCommit, diffSHA256 := revert.diffSHA256, resultTreeSHA256 := revert.treeSHA256
      headTreeSHA256 := state.headTreeSHA256, liveRevision := state.liveRevision
      desiredRevision := state.desiredRevision, syncStatus := state.syncStatus, healthStatus := state.healthStatus } }
  risk _ := some {
    workspaceID := envelope.workspaceID, actionID := envelope.actionID, planHash := envelope.planHash
    targetDigest := digest
    policyVersion := policyVersion, level := ascii "HIGH", reasonCodes := [ascii "PRODUCTION"], revision := ascii "4"
    observedAt := now }
  limits _ := some {
    workspaceID := envelope.workspaceID, serviceID := ascii "payments", environmentID := ascii "production"
    actionType := .gitOpsRevert, minimumReplicas := 0, maximumReplicas := 0, maxAWXHosts := 0, revision := ascii "5"
    observedAt := now }
  now := now

def engine : Engine where
  version := policyVersion
  program activation := some (.bool (activation.mappingExact && activation.whitelisted))

end Sample

theorem sample_sha256Hex : Sample.crypto.sha256Hex = digestTable Sample.digests := rfl

theorem sample_bindingDigest : bindingDigest Sample.crypto Sample.envelope = Sample.digest := by
  unfold bindingDigest
  rw [sample_sha256Hex]
  unfold Sample.digests
  exact digestTable_self _ _ _

theorem sample_documents : (Sample.plan == Json.encode (bindingDocument Sample.envelope)) = false := by
  decide +kernel

theorem sample_valid : Sample.envelope.validate Envelope.TokenField.all = .ok () := by
  decide +kernel

theorem sample_planHash : calculatePlanHash Sample.crypto Sample.envelope = some Sample.envelope.planHash := by
  have hSome : (canonicalJSON Sample.crypto.canonical { Sample.envelope with planHash := [], signature := {} }).isSome :=
    by decide
  obtain ⟨text, hText⟩ := Option.isSome_iff_exists.mp hSome
  have hPlan : Sample.plan = text := congrArg (Option.getD · []) hText
  unfold calculatePlanHash
  rw [hText, Option.map_some, sample_sha256Hex, ← hPlan]
  unfold Sample.digests
  rw [digestTable_of_ne sample_documents, digestTable_self]

theorem sample_verified : verify Sample.crypto Envelope.TokenField.all Sample.envelope (some Sample.deps.keys)
    Sample.deps.now = .ok () := by
  have hMessage : (canonicalSigningMessage Sample.canonical Sample.envelope).isSome := by
    decide
  have hSignature : (rawURLDecode Sample.envelope.signature.value).isSome := by
    decide
  obtain ⟨message, hMessage⟩ := Option.isSome_iff_exists.mp hMessage
  obtain ⟨signature, hSignature⟩ := Option.isSome_iff_exists.mp hSignature
  have hSigned : Sample.crypto.ed25519Verify Sample.publicKey message signature := by
    unfold Sample.crypto
    dsimp only
    rw [hMessage, hSignature]
    simp
  have hHash : equalFold Sample.envelope.planHash Sample.envelope.planHash := by
    simp [equalFold]
  simp only [verify, bind_eq_ok, orFail_eq_ok, require_eq_ok, mapError_eq_ok]
  exact ⟨_, rfl, (), sample_valid, (), by decide, (), by decide, (), by decide, (),
    by decide +kernel, _, sample_planHash, (), hHash, ⟨Sample.publicKey, false, 0, 0⟩, rfl, (), rfl, (),
    by decide, (), by decide +kernel, message, hMessage, signature, hSignature, hSigned⟩

theorem sample_vote (subjectID : GoString) (hNamed : subjectID ≠ []) (hSeparate : subjectID ≠ ascii "operator-1") :
    Vote Sample.crypto Sample.deps Sample.envelope (Sample.person (ascii "operator-1")) (Sample.approval subjectID)
      .approved (Sample.person subjectID) := by
  have hDecided : Sample.notBefore ≤ Sample.notBefore + second ∧ Sample.notBefore + second ≤ Sample.now := by
    decide
  have hUnexpired : Sample.now < Sample.expiresAt ∧ Sample.expiresAt ≤ Sample.expiresAt := by
    decide
  refine ⟨⟨rfl, rfl, rfl, rfl, sample_bindingDigest.symm, hDecided, hUnexpired⟩, rfl, rfl, ⟨rfl, hNamed, ?_, ?_⟩, hSeparate⟩
  all_goals by_cases h : subjectID = ascii "sre-1" <;> simp [Sample.person, h]

theorem policy_allows_exactly_under_the_rule_sample :
    RolesByIdentity Sample.deps Sample.envelope ∧
      (evaluate Sample.crypto Sample.deps Sample.envelope Sample.engine false .preExecution).1.outcome = .allow := by
  have hRoles : RolesByIdentity Sample.deps Sample.envelope := by
    intro subjectID otherID principal _ hPrincipal hOther hSame
    cases hPrincipal
    cases hOther
    have hSubject : subjectID = otherID := hSame
    rw [hSubject]
  have hNow : Recent Sample.deps.now Sample.now maxSafetySnapshotAge ∧
      Recent Sample.deps.now Sample.now maxTargetSnapshotAge := by
    constructor <;> exact ⟨by decide, by decide, by decide⟩
  refine ⟨hRoles, (policy_allows_exactly_under_the_rule Sample.crypto Sample.deps Sample.engine false .preExecution
    Sample.envelope hRoles).1.mpr ?_⟩
  exact {
    live := rfl
    global := ⟨_, rfl, by decide, hNow.1, rfl⟩
    switches := ⟨_, rfl, by decide, hNow.1, ⟨rfl, rfl, rfl, rfl⟩, rfl, rfl, rfl⟩
    version := rfl
    verified := sample_verified
    target := ⟨_, none, rfl, by decide, hNow.2, ⟨rfl, rfl, rfl, rfl, rfl⟩, rfl, rfl,
      .revert Sample.application Sample.state Sample.revert rfl rfl rfl rfl, nofun⟩
    risk := ⟨_, rfl, by decide, hNow.2, rfl, rfl, rfl, sample_bindingDigest.symm, rfl, rfl, rfl⟩
    limits := ⟨_, rfl, by decide, hNow.2, rfl, rfl, rfl, rfl, .none (by decide) ⟨rfl, rfl, rfl⟩⟩
    expression := rfl
    approvals := by
      refine ⟨_, _, rfl, rfl, rfl, by decide, ?_, fun h => absurd rfl h, fun _ => ?_⟩
      · intro approval hApproval principal hVote
        have hDecision : approval.decision = .approved := by
          simp only [List.mem_cons, List.not_mem_nil, or_false] at hApproval
          rcases hApproval with rfl | rfl <;> rfl
        cases hVote.decision.symm.trans hDecision
      · exact ⟨_, List.mem_cons_self, _, List.mem_cons_of_mem _ List.mem_cons_self, _, _,
          sample_vote (ascii "sre-1") (by decide) (by decide), sample_vote (ascii "owner-1") (by decide) (by decide),
          by decide, by decide, by decide⟩ }

end AiopsSystem.Policy
