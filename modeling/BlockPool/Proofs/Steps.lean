import BlockPool.Word

set_option autoImplicit false

namespace BlockPool

-- How steps and checks run, so that a proof goes through an operation statement by statement.

theorem step_bind {σ α β : Type} (step : Step σ α) (next : α → Step σ β) (before : σ) :
    (step >>= next) before =
      EStateM.bind step next before := rfl

theorem step_bind_ok {σ α β : Type} (step : Step σ α) (next : α → Step σ β) (before after : σ) (value : α)
    (first : step before = .ok value after) : (step >>= next) before = next value after := by
  simp only [step_bind, EStateM.bind, first]

theorem step_bind_error {σ α β : Type} (step : Step σ α) (next : α → Step σ β) (before after : σ) (reason : Abort)
    (first : step before = .error reason after) : (step >>= next) before = .error reason after := by
  simp only [step_bind, EStateM.bind, first]

@[simp] theorem step_pure {σ α : Type} (value : α) (state : σ) :
    (pure value : Step σ α) state = .ok value state := rfl

@[simp] theorem step_get_bind {σ β : Type} (next : σ → Step σ β) (state : σ) :
    ((get : Step σ σ) >>= next) state = next state state := rfl

@[simp] theorem step_lift_bind {σ α β : Type} (value : α) (next : α → Step σ β) (state : σ) :
    ((liftM (Except.ok value : Except Abort α) : Step σ α) >>= next) state = next value state := rfl

theorem step_bind_ran {σ α β : Type} (step : Step σ α) (next : α → Step σ β) (before after : σ) (value : β)
    (ran : (step >>= next) before = .ok value after) :
    ∃ middle between, step before = .ok middle between ∧ next middle between = .ok value after := by
  cases first : step before with
  | ok middle between =>
      rw [step_bind_ok step next before between middle first] at ran
      exact ⟨middle, between, rfl, ran⟩
  | error reason between =>
      rw [step_bind_error step next before between reason first] at ran
      cases ran

theorem lift_ran {σ α : Type} (result : Except Abort α) (state after : σ) (value : α)
    (ran : (liftM result : Step σ α) state = .ok value after) : after = state := by
  cases result with
  | error reason => cases ran
  | ok _ =>
      cases ran
      rfl

theorem query_ok {σ α : Type} (question : σ → Except Abort α) (state : σ) (value : α)
    (answer : question state = .ok value) : Step.query question state = .ok value state := by
  simp only [Step.query, answer]

theorem query_ran {σ α : Type} (question : σ → Except Abort α) (state after : σ) (value : α)
    (ran : Step.query question state = .ok value after) : question state = .ok value ∧ after = state := by
  rw [Step.query] at ran
  cases answer : question state with
  | error reason => simp [answer] at ran
  | ok other =>
      rw [answer] at ran
      cases ran
      exact ⟨rfl, rfl⟩

theorem query_bind {σ α β : Type} (question : σ → Except Abort α) (next : α → Step σ β) (state : σ) (value : α)
    (answer : question state = .ok value) : (Step.query question >>= next) state = next value state :=
  step_bind_ok _ next state state value (query_ok question state value answer)

theorem attempt_ok {σ α : Type} (step : Step σ α) (state after : σ) (value : α) (ran : step state = .ok value after) :
    step.attempt state = (.ok value, after) := by
  simp only [Step.attempt, ran]

theorem attempt_error {σ α : Type} (step : Step σ α) (state after : σ) (reason : Abort)
    (ran : step state = .error reason after) :
    step.attempt state = (.error reason, after) := by
  simp only [Step.attempt, ran]

theorem attempt_ran {σ α : Type} (step : Step σ α) (state : σ) (value : α) (answered : (step.attempt state).1 = .ok value) :
    step state = .ok value (step.attempt state).2 := by
  cases ran : step state with
  | ok other after =>
      rw [attempt_ok step state after other ran] at answered ⊢
      cases answered
      rfl
  | error reason after =>
      rw [attempt_error step state after reason ran] at answered
      cases answered

theorem attempt_found {σ α β : Type} (step : Step σ α) (look : α → β) (state : σ) (seen : β)
    (found : (step.attempt state).1.map look = .ok seen) :
    ∃ value, step state = .ok value (step.attempt state).2 ∧ look value = seen := by
  cases answered : (step.attempt state).1 with
  | error reason =>
      rw [answered] at found
      cases found
  | ok value =>
      rw [answered] at found
      cases found
      exact ⟨value, attempt_ran step state value answered, rfl⟩

theorem attempt_stopped {σ α : Type} (step : Step σ α) (state : σ) (reason : Abort)
    (stopped : (step.attempt state).1 = .error reason) :
    step state = .error reason (step.attempt state).2 := by
  cases ran : step state with
  | ok value after =>
      rw [attempt_ok step state after value ran] at stopped
      cases stopped
  | error other after =>
      rw [attempt_error step state after other ran] at stopped ⊢
      cases stopped
      rfl

theorem attempt_answer {σ α β : Type} (step : Step σ α) (answer : β) (state : σ) :
    (step >>= fun _ => pure answer).attempt state = ((step.attempt state).1.map fun _ => answer, (step.attempt state).2) := by
  cases ran : step state with
  | ok value after =>
      have answered := step_bind_ok step (fun _ => pure answer : α → Step σ β) state after value ran
      rw [attempt_ok step state after value ran, attempt_ok _ state after answer answered]
      rfl
  | error reason after =>
      have stopped := step_bind_error step (fun _ => pure answer : α → Step σ β) state after reason ran
      rw [attempt_error step state after reason ran, attempt_error _ state after reason stopped]
      rfl

theorem word_add_ok (a b : Nat) (word : a + b < Word.bound) : Word.add a b = .ok (a + b) := if_pos word

theorem word_add_some (a b sum : Nat) (added : Word.add a b = .ok sum) : a + b < Word.bound ∧ sum = a + b := by
  unfold Word.add at added
  split at added
  · rename_i word
    cases added
    exact ⟨word, rfl⟩
  · cases added

theorem word_sub_ok (a b : Nat) (enough : b ≤ a) : Word.sub a b = .ok (a - b) := if_pos enough

@[simp] theorem check_throw_bind {ε α β : Type} (e : ε) (next : α → ExceptT ε (Except Abort) β) :
    ((throw e : ExceptT ε (Except Abort) α) >>= next) = throw e := rfl

@[simp] theorem check_lift_bind {ε α β : Type} (value : α) (next : α → ExceptT ε (Except Abort) β) :
    ((liftM (Except.ok value : Except Abort α) : ExceptT ε (Except Abort) α) >>= next) = next value := rfl

@[simp] theorem check_abort_bind {ε α β : Type} (reason : Abort) (next : α → ExceptT ε (Except Abort) β) :
    ((liftM (Except.error reason : Except Abort α) : ExceptT ε (Except Abort) α) >>= next) = ExceptT.mk (.error reason) := rfl

theorem check_lift_run {ε α β : Type} (question : Except Abort α) (next : α → ExceptT ε (Except Abort) β) :
    ((liftM question : ExceptT ε (Except Abort) α) >>= next).run = question >>= fun value => (next value).run := by
  cases question <;> rfl

theorem check_bind_ok {ε α β : Type} (check : ExceptT ε (Except Abort) α)
    (next : α → ExceptT ε (Except Abort) β) (value : α) (first : check.run = .ok (.ok value)) :
    (check >>= next).run = (next value).run := by
  rw [ExceptT.run_bind, first]
  rfl

theorem check_bind_error {ε α β : Type} (check : ExceptT ε (Except Abort) α)
    (next : α → ExceptT ε (Except Abort) β) (e : ε) (first : check.run = .ok (.error e)) :
    (check >>= next).run = .ok (.error e) := by
  rw [ExceptT.run_bind, first]
  rfl

theorem except_bind_ok {α β : Type} (first : Except Abort α) (next : α → Except Abort β) (value : β)
    (ran : (first >>= next) = .ok value) : ∃ middle, first = .ok middle ∧ next middle = .ok value := by
  cases first with
  | error reason => cases ran
  | ok middle => exact ⟨middle, rfl, ran⟩

theorem check_lift_passed {ε α : Type} (question : Except Abort α) (value : α)
    (passed : (liftM question : ExceptT ε (Except Abort) α).run = .ok (.ok value)) : question = .ok value := by
  cases question with
  | error reason => cases passed
  | ok other =>
      cases passed
      rfl

theorem check_guard_passed {ε α : Type} (violated : Prop) [Decidable violated]
    (refused rest : ExceptT ε (Except Abort) α) (value : α)
    (passed : (if violated then refused else rest).run = .ok (.ok value)) (refuses : ∃ e, refused.run = .ok (.error e)) :
    ¬ violated ∧ rest.run = .ok (.ok value) := by
  obtain ⟨e, stops⟩ := refuses
  by_cases known : violated
  · rw [if_pos known, stops] at passed
    cases passed
  · rw [if_neg known] at passed
    exact ⟨known, passed⟩

theorem check_bind_passed {ε α β : Type} (check : ExceptT ε (Except Abort) α)
    (next : α → ExceptT ε (Except Abort) β) (value : β) (passed : (check >>= next).run = .ok (.ok value)) :
    ∃ middle, check.run = .ok (.ok middle) ∧ (next middle).run = .ok (.ok value) := by
  rw [ExceptT.run_bind] at passed
  cases first : check.run with
  | error reason =>
      rw [first] at passed
      cases passed
  | ok result =>
      rw [first] at passed
      cases result with
      | error e => cases passed
      | ok middle => exact ⟨middle, rfl, passed⟩

end BlockPool
