import BeanContainer.Proofs.Context.Carrying

/-!
# Names given for good

A context registers beans by the last hook of each configuration that it loads, and its caller may
register some in between. A run tells all these attempts, in order. Whatever the hooks do and however
they end, the registry at the end of a run is accounted for by the attempts: a name belongs to the
first attempt for it, for good.
-/

namespace BeanContainer

variable {σ : Type}

open Registry

/-- The attempts at registering that are made to load a queued configuration. -/
def Queued.filings (queued : Queued σ) (registry : Registry) : List Filing :=
  filingsIn (queued.moments registry)

/-- The attempts at registering that are made in operations that come to their end. -/
def Journal.filings (journal : Journal σ) : List Filing :=
  filingsIn journal.moments

/-- Reports are no attempts, and procedures are accounted for by theirs. -/
theorem carries_accounts : Carries fun before moments after =>
    before.Accounts (filingsIn moments) after where
  refl registry := persists_accounts.refl registry
  append left right := by
    rw [filingsIn_append]
    exact left.trans right
  report _ _ := accounts_nil rfl fun _ _ => id
  read ran := recounts_accounts.read ran
  perform ran := Procedure.perform_accounts ran

/-- What hooks do that complete is accounted for by the attempts made in them. -/
theorem Queued.CompletesWith.accounts {queued : Queued σ} {registry provided : Registry} {final : σ}
    (completes : queued.CompletesWith registry final provided)
    (satisfied : (queued.pruned registry).missing = []) :
    registry.Accounts (queued.filings registry) provided := by
  rw [filings, moments, Context.hookCalls_of_satisfied satisfied]
  exact carries_accounts.completes completes

namespace Journal

/--
Each way of registering comes down to an attempt, or else does nothing. In every run, which comes to
the same with its record and without, an attempt is accepted exactly if its name is free and not
empty. Then the strategy is put behind all others and this is reported, and the name keeps it
whatever is done later. An attempt that is refused fails by what is wrong with the name, and leaves
the registry as it is. The registry never loses a bean or an object made for one, and it has as many
beans more as attempts were accepted.
-/
theorem run_accounts_for_filings (all : List (Configuration σ)) (initial : Registry)
    (operations : List (Operation σ)) :
    let beginning : Journal σ := start initial
    let journal := beginning.run all operations
    (∀ registration registry filing, Registration.filing? registry registration = some filing →
      registration.apply registry = (filing.outcome, filing.after) ∧
        filing.registry.beans = registry.beans ∧ filing.registry.kept = registry.kept) ∧
    (∀ registration registry, Registration.filing? registry registration = none →
      registration.apply registry = (.ok (), registry)) ∧
    Context.run all { registry := initial } operations =
      (if journal.hung then none else some journal.context) ∧
    (∀ filing ∈ journal.filings,
      (filing.isAccepted = true ↔
        filing.name ≠ "" ∧ filing.registry.contains filing.name = false) ∧
      (filing.isAccepted = true →
        filing.after = { filing.registry with
          beans := filing.registry.beans ++ [(filing.name, filing.strategy)] }.report
            (.registered filing.name filing.strategy.handover filing.strategy.kind) ∧
        ∀ later, (journal.run all later).context.registry.find? filing.name =
          some filing.strategy) ∧
      (filing.isAccepted = false →
        filing.outcome = .error (.invalidName filing.name
          (if filing.name = "" then .empty else .duplicated)) ∧
        filing.after = filing.registry) ∧
      initial.Retains filing.registry ∧
      ∀ later, filing.after.Retains (journal.run all later).context.registry) ∧
    (∀ later, journal.context.registry.Retains (journal.run all later).context.registry) ∧
    journal.context.registry.size =
      initial.size + journal.filings.countP (·.isAccepted) := by
  intro beginning journal
  have accounts : initial.Accounts journal.filings journal.context.registry :=
    carries_accounts.run_start all initial operations
  have retains : ∀ later,
      journal.context.registry.Retains (journal.run all later).context.registry := by
    intro later
    rcases carries_accounts.run all journal later with ⟨_, _, accounts⟩
    exact accounts.retains
  refine ⟨fun _ _ _ => Registration.apply_of_filing, fun _ _ => Registration.apply_of_no_filing,
    (valid_start initial).run_context rfl operations, ?_, retains, accounts.size⟩
  intro filing filing_mem
  rcases accounts.between filing filing_mem with ⟨retainsBefore, retainsAfter⟩
  have retainsLater := fun later => retainsAfter.trans (retains later)
  refine ⟨Filing.isAccepted_iff, ?_, Filing.of_refused, retainsBefore, retainsLater⟩
  intro accepted
  refine ⟨(Filing.after_of_accepted accepted).2, fun later => ?_⟩
  exact find?_of_grown (retainsLater later).beans (Filing.find?_after accepted)

end Journal

end BeanContainer
