import ClusterOperator.Proofs.Request.Asking

namespace ClusterOperator

section Checks

variable {α β : Type}

@[simp] theorem bind_eq_panicked {x : Except Violation α} {f : α → Except Violation β} :
    (x >>= f) = .error .panicked ↔ x = .error .panicked ∨ ∃ a, x = .ok a ∧ f a = .error .panicked := by
  cases x with
  | error v => simp [bind, Except.bind]
  | ok a => simp [bind, Except.bind]

@[simp] theorem discard_eq_panicked {x : Except Violation α} :
    discard x = .error .panicked ↔ x = .error .panicked := by
  cases x with
  | error v => simp [discard, Functor.mapConst, Except.map]
  | ok a => simp [discard, Functor.mapConst, Except.map]

theorem ite_check_eq_panicked {c : Prop} [Decidable c] {check rest : Verdict} :
    (if c then check >>= fun _ => rest else rest) = .error .panicked ↔
      c ∧ check = .error .panicked ∨ (c → check = .ok ()) ∧ rest = .error .panicked := by
  by_cases hc : c
  · simp only [hc, if_true, bind_eq_panicked, true_and, true_implies, exists_unit_eq_ok]
  · simp [hc]

theorem ite_pure_eq_panicked {c : Prop} [Decidable c] {check : Verdict} :
    (if c then check else pure ()) = .error .panicked ↔ c ∧ check = .error .panicked := by
  by_cases hc : c <;> simp [hc, pure, Except.pure]

@[simp] theorem checkLength_ne_panicked (limit : Limit) (value : String) :
    limit.checkLength value ≠ .error .panicked := by
  unfold Limit.checkLength
  split
  · split <;> simp
  · simp

@[simp] theorem checkOptionalName_ne_panicked (limit : Limit) (value : String) :
    limit.checkOptionalName value ≠ .error .panicked := by
  unfold Limit.checkOptionalName
  split
  · simp
  · simp only [ne_eq, bind_eq_panicked, checkLength_ne_panicked, false_or, not_exists, not_and]
    intro _ _
    split <;> simp [Limit.malformed]

@[simp] theorem checkDnsName_ne_panicked (limit : Limit) (value : String) :
    limit.checkDnsName value ≠ .error .panicked := by
  simp only [Limit.checkDnsName, ne_eq, bind_eq_panicked, checkLength_ne_panicked, false_or,
    not_exists, not_and]
  intro _ _
  split <;> simp [Limit.malformed]

@[simp] theorem checkOptionalAddress_ne_panicked (limit : Limit) (value : String) :
    limit.checkOptionalAddress value ≠ .error .panicked := by
  unfold Limit.checkOptionalAddress
  split <;> simp [Limit.malformed]

@[simp] theorem checkOptionalPort_ne_panicked (limit : Limit) (port : Option Int) :
    limit.checkOptionalPort port ≠ .error .panicked := by
  cases port with
  | none => simp [Limit.checkOptionalPort]
  | some n =>
      simp only [Limit.checkOptionalPort]
      split <;> simp

@[simp] theorem checkCron_ne_panicked [Cron.Library] (limit : Limit) (value : String) :
    limit.checkCron value ≠ .error .panicked := by
  simp only [Limit.checkCron]
  split
  · simp
  · split <;> simp

theorem checkNamespacesAfter_ne_panicked (field : String) (names seen : List String) :
    checkNamespacesAfter field seen names ≠ .error .panicked := by
  induction names generalizing seen with
  | nil => simp [checkNamespacesAfter]
  | cons name rest ih =>
      rw [checkNamespacesAfter]
      split
      · simp
      · split
        · simp
        · exact ih (name :: seen)

@[simp] theorem checkNamespaceRange_ne_panicked (included excluded : Option (List String)) :
    checkNamespaceRange included excluded ≠ .error .panicked := by
  have hnames := checkNamespacesAfter_ne_panicked
  simp only [checkNamespaceRange, checkNamespaces, ne_eq, bind_eq_panicked, hnames, false_or,
    not_exists, not_and]
  intro _ _ _ _
  split <;> simp

@[simp] theorem distinctLocations_ne_panicked (needed : Bool) (locations : Option (List String)) :
    distinctLocations needed locations ≠ .error .panicked := by
  have hcollect : ∀ (rest kept : List String), collectLocations kept rest ≠ .error .panicked := by
    intro rest
    induction rest with
    | nil => simp [collectLocations]
    | cons location rest ih =>
        intro kept
        rw [collectLocations]
        split
        · simp
        · split
          · exact ih kept
          · exact ih (location :: kept)
  simp only [distinctLocations]
  split
  · simp
  · exact hcollect _ []

end Checks

section Lifetimes

variable {limit : Limit} {text : String} {p : BackupPatch}

theorem parse_of_readTtl_panicked (h : limit.readTtl text = .error .panicked) :
    Duration.parse text = .error .panicked := by
  unfold Limit.readTtl at h
  split at h
  · cases h
  · split at h
    · cases h
    · cases h
    · assumption

theorem BackupRequest.parse_of_validateTerms_panicked (h : validateTerms p = .error .panicked) :
    Duration.parse p.ttl = .error .panicked := by
  simp only [validateTerms, bind_eq_panicked, checkDnsName_ne_panicked, discard_eq_panicked,
    checkNamespaceRange_ne_panicked, distinctLocations_ne_panicked, and_false, exists_false,
    or_false, false_or] at h
  obtain ⟨-, -, hread⟩ := h
  exact parse_of_readTtl_panicked hread

theorem BackupRequest.parse_of_validate_panicked {r : BackupRequest} {topLevel : Bool}
    (h : r.validate topLevel = .error .panicked) :
    Duration.parse r.fields.ttl = .error .panicked := by
  cases topLevel with
  | false => exact parse_of_validateTerms_panicked h
  | true =>
      simp only [validate, if_true, bind_eq_panicked, checkDnsName_ne_panicked, false_or] at h
      obtain ⟨-, -, h⟩ := h
      rcases ite_check_eq_panicked.mp h with ⟨-, hunset⟩ | ⟨-, hterms⟩
      · cases hunset
      · exact parse_of_validateTerms_panicked hterms

theorem BackupPatch.parse_of_validate_panicked (h : p.validate = .error .panicked) :
    Duration.parse p.ttl = .error .panicked := by
  simp only [validate, ite_check_eq_panicked, checkDnsName_ne_panicked, and_false, false_or,
    discard_eq_panicked, bind_eq_panicked, checkNamespaceRange_ne_panicked, ite_pure_eq_panicked,
    distinctLocations_ne_panicked, exists_false, or_false] at h
  obtain ⟨-, -, hread⟩ := h
  exact parse_of_readTtl_panicked hread

theorem SchedulePatch.parse_of_validate_panicked [Cron.Library] {p : SchedulePatch}
    (h : p.validate = .error .panicked) :
    ∃ template, p.template = some template ∧ Duration.parse template.ttl = .error .panicked := by
  simp only [validate, ite_check_eq_panicked, checkCron_ne_panicked, and_false, false_or] at h
  obtain ⟨-, htemplate⟩ := h
  cases hpatch : p.template with
  | none =>
      rw [hpatch] at htemplate
      cases htemplate
  | some template =>
      rw [hpatch] at htemplate
      rcases ite_check_eq_panicked.mp htemplate with ⟨-, hthrown⟩ | ⟨-, hvalidate⟩
      · cases hthrown
      · exact ⟨template, rfl, BackupPatch.parse_of_validate_panicked hvalidate⟩

theorem BackupPatch.parse_of_applyToTerms_panicked {t : BackupTerms}
    (h : (p.applyToTerms t).2 = .error .panicked) : Duration.parse p.ttl = .error .panicked := by
  have hsettle : ∀ t : BackupTerms, (settle t).2 ≠ .error .panicked := by
    intro t
    unfold settle
    split
    · rename_i v hrange
      simp only [ne_eq, Except.error.injEq]
      rintro rfl
      exact checkNamespaceRange_ne_panicked _ _ hrange
    · split
      · rename_i v hlocations
        simp only [ne_eq, Except.error.injEq]
        rintro rfl
        exact distinctLocations_ne_panicked _ _ hlocations
      · simp
  unfold applyToTerms at h
  split at h
  · rename_i v hread
    cases h
    split at hread
    · cases hread
    · exact parse_of_readTtl_panicked hread
  · exact absurd h (hsettle _)

end Lifetimes

namespace Kind

/-- The text of the lifetime in a request. -/
def lifetime? : (k : Kind) → k.Request → Option String
  | backup, r => some (BackupRequest.fields r).ttl
  | schedule, r => some (ScheduleRequest.template r).fields.ttl
  | _, _ => none

/-- The text of the lifetime in a patch. -/
def patchLifetime? : (k : Kind) → k.Patch → Option String
  | backup, p => some (BackupPatch.ttl p)
  | schedule, p => (SchedulePatch.template p).map BackupPatch.ttl
  | _, _ => none

theorem parse_of_change_panicked {k : Kind} {p : k.Patch} {e : k.Entry}
    (h : k.change p e = .error .panicked) :
    ∃ text, k.patchLifetime? p = some text ∧ Duration.parse text = .error .panicked := by
  have happly : (k.applyPatch p e).2 = .error .panicked := by
    rw [change] at h
    split at h
    · cases h
    · rename_i v happly
      rw [happly]
      cases v <;> cases h
      rfl
  cases k with
  | storage => cases happly
  | backup => exact ⟨_, rfl, BackupPatch.parse_of_applyToTerms_panicked happly⟩
  | restore => exact absurd happly (checkNamespaceRange_ne_panicked _ _)
  | schedule =>
      cases hpatch : SchedulePatch.template p with
      | none =>
          simp only [applyPatch, SchedulePatch.apply, hpatch] at happly
          cases happly
      | some template =>
          simp only [applyPatch, SchedulePatch.apply, hpatch] at happly
          exact ⟨template.ttl, congrArg (Option.map BackupPatch.ttl) hpatch,
            BackupPatch.parse_of_applyToTerms_panicked happly⟩

variable [Cron.Library] {k : Kind}

/-- The check of a request panics over nothing but its lifetime. -/
theorem parse_of_validateRequest_panicked {r : k.Request}
    (h : k.validateRequest r = .error .panicked) :
    ∃ text, k.lifetime? r = some text ∧ Duration.parse text = .error .panicked := by
  cases k with
  | storage =>
      simp [validateRequest, StorageRequest.validate, StoragePatch.validate] at h
  | backup =>
      have hfields : BackupRequest.validate r true = .error .panicked := h
      exact ⟨_, rfl, BackupRequest.parse_of_validate_panicked hfields⟩
  | restore => simp [validateRequest, RestoreRequest.validate] at h
  | schedule =>
      simp only [validateRequest, ScheduleRequest.validate, bind_eq_panicked,
        checkDnsName_ne_panicked, checkCron_ne_panicked, false_or] at h
      obtain ⟨-, -, -, -, htemplate⟩ := h
      exact ⟨_, rfl, BackupRequest.parse_of_validate_panicked htemplate⟩

theorem parse_of_validatePatch_panicked {p : k.Patch} (h : k.validatePatch p = .error .panicked) :
    ∃ text, k.patchLifetime? p = some text ∧ Duration.parse text = .error .panicked := by
  cases k with
  | storage => simp [validatePatch, StoragePatch.validate] at h
  | backup => exact ⟨_, rfl, BackupPatch.parse_of_validate_panicked h⟩
  | restore =>
      simp only [validatePatch, RestorePatch.validate, ite_check_eq_panicked,
        checkDnsName_ne_panicked, checkNamespaceRange_ne_panicked, and_false, or_false] at h
  | schedule =>
      obtain ⟨template, htemplate, hparse⟩ := SchedulePatch.parse_of_validate_panicked h
      exact ⟨template.ttl, congrArg (Option.map BackupPatch.ttl) htemplate, hparse⟩

end Kind

end ClusterOperator
