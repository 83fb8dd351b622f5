import BeanContainer.Proofs.Context.Loading

/-!
# Passes over the queue

A pass takes the waiting configurations in order. The registry may change while it does so, but the
beans in it only grow, and so every configuration that stays behind keeps track of its resources. A
pass that loads nothing leaves the context as it is, with the registered resources struck out
everywhere, and the assembly ends with such a pass: each other one shortens the queue.
-/

namespace BeanContainer.Context

variable {σ : Type}

theorem pass_cons_of_missing {queued : Queued σ} {rest still : List (Queued σ)} {progressed : Bool}
    {context : Context σ} (missing : (queued.pruned context.registry).missing ≠ []) :
    pass (queued :: rest) still progressed context =
      pass rest (still ++ [queued.pruned context.registry]) progressed context := by
  simp [pass, load_of_missing missing]

theorem pass_cons_of_completed {queued : Queued σ} {rest still : List (Queued σ)}
    {progressed : Bool} {context after : Context σ} {pruned : Queued σ}
    (loaded : context.load queued = some (.ok true, pruned, after)) :
    pass (queued :: rest) still progressed context = pass rest still true after := by
  simp [pass, loaded]

theorem pass_cons_of_failed {queued : Queued σ} {rest still : List (Queued σ)} {progressed : Bool}
    {context after : Context σ} {error : ConfigurationError} {pruned : Queued σ}
    (loaded : context.load queued = some (.error error, pruned, after)) :
    pass (queued :: rest) still progressed context =
      some (.error error, { after with waiting := still ++ pruned :: rest }) := by
  simp [pass, loaded]

theorem pass_cons_of_hung {queued : Queued σ} {rest still : List (Queued σ)} {progressed : Bool}
    {context : Context σ} (loaded : context.load queued = none) :
    pass (queued :: rest) still progressed context = none := by
  simp [pass, loaded]

/--
How a pass over a queue begins that comes to an end: the first configuration goes on waiting, or it
is loaded, or it fails and ends the pass.
-/
inductive PassBegins (queued : Queued σ) (rest still : List (Queued σ)) (progressed : Bool)
    (context after : Context σ) : Except ConfigurationError Bool → Prop
  | waits {outcome : Except ConfigurationError Bool}
      (missing : (queued.pruned context.registry).missing ≠ [])
      (passed : pass rest (still ++ [queued.pruned context.registry]) progressed context =
        some (outcome, after)) :
      PassBegins queued rest still progressed context after outcome
  | loads {outcome : Except ConfigurationError Bool} {loaded : Context σ}
      (passed : pass rest still true loaded = some (outcome, after)) :
      PassBegins queued rest still progressed context after outcome
  | fails {error : ConfigurationError} :
      PassBegins queued rest still progressed context after (.error error)

theorem passBegins {queued : Queued σ} {rest still : List (Queued σ)} {progressed : Bool}
    {context after : Context σ} {outcome : Except ConfigurationError Bool}
    (passed : pass (queued :: rest) still progressed context = some (outcome, after)) :
    PassBegins queued rest still progressed context after outcome := by
  cases loadEnds queued context with
  | missing missing =>
      rw [pass_cons_of_missing missing] at passed
      exact .waits missing passed
  | hung _ _ loaded =>
      rw [pass_cons_of_hung loaded] at passed
      cases passed
  | failed _ _ _ loaded =>
      rw [pass_cons_of_failed loaded] at passed
      cases passed
      exact .fails
  | completed _ _ _ loaded =>
      rw [pass_cons_of_completed loaded] at passed
      exact .loads passed

/-- Nothing that waits can be loaded, and all that is registered is struck out. -/
def Settled (context : Context σ) : Prop :=
  ∀ queued ∈ context.waiting, queued.pruned context.registry = queued ∧ queued.missing ≠ []

theorem settled_of_no_beans {context : Context σ} (empty : context.registry.beans = [])
    (missing : ∀ queued ∈ context.waiting, queued.missing ≠ []) : context.Settled :=
  fun queued queued_mem =>
    ⟨by simp [Queued.pruned, Registry.contains, Registry.find?, empty], missing queued queued_mem⟩

theorem pass_progressed {rest still : List (Queued σ)} {context after : Context σ}
    {progressed : Bool} (passed : pass rest still true context = some (.ok progressed, after)) :
    progressed = true := by
  induction rest generalizing still context with
  | nil =>
      cases passed
      rfl
  | cons queued rest ih =>
      cases passBegins passed with
      | waits _ passed => exact ih passed
      | loads passed => exact ih passed

/-- A pass that loads nothing only strikes out what is registered. -/
theorem pass_of_no_progress {rest still : List (Queued σ)} {context after : Context σ}
    (passed : pass rest still false context = some (.ok false, after)) :
    after = { context with waiting := still ++ rest.map (·.pruned context.registry) } ∧
      ∀ queued ∈ rest, (queued.pruned context.registry).missing ≠ [] := by
  induction rest generalizing still with
  | nil =>
      cases passed
      simp
  | cons queued rest ih =>
      cases passBegins passed with
      | waits missing passed =>
          rcases ih passed with ⟨after_eq, missingRest⟩
          exact ⟨by simp [after_eq], List.forall_mem_cons.mpr ⟨missing, missingRest⟩⟩
      | loads passed =>
          have := pass_progressed passed
          contradiction

/-- The queue does not grow in a pass, and it shrinks in one that loads something. -/
theorem length_waiting_of_pass {rest still : List (Queued σ)} {progressed result : Bool}
    {context after : Context σ}
    (passed : pass rest still progressed context = some (.ok result, after)) :
    after.waiting.length ≤ still.length + rest.length ∧
      (progressed = false → result = true →
        after.waiting.length < still.length + rest.length) := by
  induction rest generalizing still progressed context with
  | nil =>
      cases passed
      simp
  | cons queued rest ih =>
      rw [List.length_cons]
      cases passBegins passed with
      | waits missing passed =>
          have shorter := ih passed
          rw [List.length_append, List.length_singleton] at shorter
          refine ⟨by omega, ?_⟩
          intro fresh loaded
          have := shorter.2 fresh loaded
          omega
      | loads passed =>
          have shorter := (ih passed).1
          exact ⟨by omega, fun _ _ => by omega⟩

theorem settled_of_no_progress {context after : Context σ}
    (passed : pass context.waiting [] false context = some (.ok false, after)) : after.Settled := by
  rcases pass_of_no_progress passed with ⟨rfl, missing⟩
  intro queued queued_mem
  simp only [List.nil_append, List.mem_map] at queued_mem
  rcases queued_mem with ⟨original, original_mem, rfl⟩
  exact ⟨Queued.pruned_pruned _ _, missing original original_mem⟩

theorem pass_of_settled {context : Context σ} (settled : context.Settled) :
    pass context.waiting [] false context = some (.ok false, context) := by
  have unchanged : ∀ rest still : List (Queued σ),
      (∀ queued ∈ rest, queued.pruned context.registry = queued ∧ queued.missing ≠ []) →
      pass rest still false context =
        some (.ok false, { context with waiting := still ++ rest }) := by
    intro rest
    induction rest with
    | nil =>
        intro still _
        simp [pass]
    | cons queued rest ih =>
        intro still settled
        rcases settled queued List.mem_cons_self with ⟨same, missing⟩
        rw [pass_cons_of_missing (by rwa [same]), same,
          ih _ fun other other_mem => settled other (List.mem_cons_of_mem _ other_mem)]
        simp
  exact unchanged context.waiting [] settled

/-- Either the first pass loads nothing or fails, or no pass may follow it. -/
def PassesOnce (more : Nat) (context : Context σ) : Prop :=
  ∀ next, pass context.waiting [] false context = some (.ok true, next) → more = 0

theorem passes_of_once {more : Nat} {context : Context σ} (once : PassesOnce more context) :
    context.passes more = (pass context.waiting [] false context).map
      fun answer => (answer.1.map fun _ => (), answer.2) := by
  unfold passes
  cases first : pass context.waiting [] false context with
  | none => rfl
  | some answer =>
      rcases answer with ⟨error | progressed, next⟩
      · rfl
      · cases progressed with
        | false => rfl
        | true =>
            rw [once next first]
            rfl

theorem passes_succ {more : Nat} {context next : Context σ}
    (first : pass context.waiting [] false context = some (.ok true, next)) :
    context.passes (more + 1) = next.passes more := by
  rw [passes, first]

/-- What holds when one pass is made holds for the passes that load something before it. -/
theorem passes_induction {motive : Nat → Context σ → Prop}
    (once : ∀ more context, PassesOnce more context → motive more context)
    (again : ∀ more context next,
      pass context.waiting [] false context = some (.ok true, next) → motive more next →
        motive (more + 1) context) (more : Nat) (context : Context σ) : motive more context := by
  induction more generalizing context with
  | zero => exact once 0 context fun _ _ => rfl
  | succ more ih =>
      by_cases progress : ∃ next, pass context.waiting [] false context = some (.ok true, next)
      · rcases progress with ⟨next, first⟩
        exact again more context next first (ih next)
      · exact once (more + 1) context fun next first => absurd ⟨next, first⟩ progress

theorem pass_of_once {more : Nat} {context after : Context σ}
    {outcome : Except ConfigurationError Unit} (once : PassesOnce more context)
    (passed : context.passes more = some (outcome, after)) :
    ∃ result, pass context.waiting [] false context = some (result, after) ∧
      result.map (fun _ => ()) = outcome := by
  rw [passes_of_once once, Option.map_eq_some_iff] at passed
  rcases passed with ⟨⟨result, next⟩, first, same⟩
  cases same
  exact ⟨result, first, rfl⟩

/-- As many further passes as configurations wait are enough to settle the context. -/
theorem settled_of_passes {more : Nat} {context after : Context σ}
    (passed : context.passes more = some (.ok (), after))
    (enough : context.waiting.length ≤ more) : after.Settled := by
  induction more, context using passes_induction with
  | once more context once =>
      rcases pass_of_once once passed with ⟨error | progressed, first, same⟩
      · cases same
      · cases progressed with
        | false => exact settled_of_no_progress first
        | true =>
            -- Nothing can have been loaded if no further pass is left, since nothing waited.
            have shorter := (length_waiting_of_pass first).2 rfl rfl
            have none := once after first
            rw [List.length_nil] at shorter
            omega
  | again more context next first ih =>
      rw [passes_succ first] at passed
      have shorter := (length_waiting_of_pass first).2 rfl rfl
      rw [List.length_nil] at shorter
      exact ih passed (by omega)

theorem passes_of_settled {context : Context σ} (settled : context.Settled) (more : Nat) :
    context.passes more = some (.ok (), context) := by
  unfold passes
  rw [pass_of_settled settled]

theorem assemble_of_settled {context : Context σ} (settled : context.Settled) :
    context.assemble = some context.conclude := by
  simp [assemble, passes_of_settled settled]

theorem conclude_of_trace {context : Context σ} {trace : List String}
    (waits : context.waiting ≠ []) (found : Node.cycleTrace? context.nodes = some trace) :
    context.conclude = (.error (.cycle trace), context) := by
  rw [conclude, if_neg (by simpa using waits), found]

theorem conclude_of_no_trace {context : Context σ} (waits : context.waiting ≠ [])
    (noTrace : Node.cycleTrace? context.nodes = none) :
    context.conclude = (.error (.initialization context.pending), context) := by
  rw [conclude, if_neg (by simpa using waits), noTrace]

/-- What the last pass leaves behind decides whether the assembly ends with a cycle. -/
theorem assemble_of_trace {context : Context σ} {nodes : List Node} {trace : List String}
    (passed : (context.passes context.waiting.length).map
      (fun ended => (ended.1.isOk, ended.2.nodes)) = some (true, nodes))
    (nonempty : nodes ≠ []) (found : Node.cycleTrace? nodes = some trace) :
    ∃ settled, settled.nodes = nodes ∧
      context.assemble = some (.error (.cycle trace), settled) := by
  rcases Option.map_eq_some_iff.mp passed with ⟨⟨_ | ⟨⟨⟩⟩, settled⟩, passes, told⟩
  · cases told
  · have nodes_eq : settled.nodes = nodes := (Prod.ext_iff.mp told).2
    have waits : settled.waiting ≠ [] := by
      rintro empty
      simp [← nodes_eq, Context.nodes, empty] at nonempty
    rw [← nodes_eq] at found
    refine ⟨settled, nodes_eq, ?_⟩
    simp only [assemble, passes, conclude_of_trace waits found]

theorem conclude_waiting (context : Context σ) : context.conclude.2.waiting = context.waiting := by
  unfold conclude
  split
  · rfl
  · split <;> rfl

theorem conclude_active (context : Context σ) : context.conclude.2.active = context.active := by
  unfold conclude
  split
  · rfl
  · split <;> rfl

theorem conclude_beans (context : Context σ) :
    context.conclude.2.registry.beans = context.registry.beans := by
  unfold conclude
  split
  · rfl
  · split <;> rfl

theorem conclude_grows (context : Context σ) : context.Grows context.conclude.2 := by
  unfold conclude
  split
  · exact ⟨List.prefix_rfl, rfl, fun _ => rfl, rfl⟩
  · split <;> exact .of_registry_eq rfl

theorem assemble_cases {context after : Context σ} {outcome : Except ConfigurationError Unit}
    (assembled : context.assemble = some (outcome, after)) :
    (∃ error, outcome = .error error ∧
      context.passes context.waiting.length = some (.error error, after)) ∨
    ∃ settled, context.passes context.waiting.length = some (.ok (), settled) ∧
      settled.conclude = (outcome, after) := by
  unfold assemble at assembled
  split at assembled
  · cases assembled
  · next error failed passed =>
      cases assembled
      exact Or.inl ⟨error, rfl, passed⟩
  · next settled passed => exact Or.inr ⟨settled, passed, Option.some.inj assembled⟩

end BeanContainer.Context
