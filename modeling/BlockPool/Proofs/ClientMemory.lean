import BlockPool.Proofs.Refusals

set_option autoImplicit false

namespace BlockPool

-- What clients see of a memory who know no other handles than those that they were given.
def Memory.within (memory : Memory) (given : List Handle) : Memory := fun h => if h ∈ given then memory h else none

def answeredHandle : Except Abort (Option Handle) → Option Handle
  | .ok answer => answer
  | .error _ => none

def PoolCall.granted {α : Type} : (call : PoolCall α) → Except Abort call.Answer → Option Handle
  | .alloc _, outcome => answeredHandle outcome
  | .resize _ _, outcome => answeredHandle outcome
  | _, _ => none

def PoolCall.handle {α : Type} (call : PoolCall α) : Option Handle := (PoolRequest.act call).handle

theorem subject_handle {α : Type} (call : PoolCall α) (h : Handle) (named : call.subject = some h) : call.handle = some h := by
  cases call with
  | alloc size => cases named
  | read k offset len => cases named
  | withPayload k look => cases named
  | usableSize k => cases named
  | deinit => cases named
  | _ => exact named

theorem within_given (memory : Memory) (given : List Handle) (h : Handle) (own : h ∈ given) :
    memory.within given h = memory h := if_pos own

theorem within_vacant (memory : Memory) (given : List Handle) (h : Handle) (vacant : memory h = none) :
    memory.within given h = none := by
  rw [Memory.within, vacant, ite_self]

theorem within_keeps (memory memory' : Memory) (given : List Handle)
    (keeps : ∀ h bytes, memory h = some bytes → memory' h = some bytes) (h : Handle) (bytes : List UInt8)
    (held : memory.within given h = some bytes) : memory'.within given h = some bytes := by
  by_cases own : h ∈ given
  · rw [within_given memory given h own] at held
    rw [within_given memory' given h own]
    exact keeps h bytes held
  · rw [Memory.within, if_neg own] at held
    cases held

theorem within_put (memory : Memory) (given : List Handle) (h : Handle) (content : Option (List UInt8)) (own : h ∈ given) :
    (memory.put h content).within given = (memory.within given).put h content := by
  funext k
  by_cases same : k = h
  · subst same
    rw [within_given _ given k own, put_same, put_same]
  · simp only [Memory.within, put_other _ h k content same]

theorem within_grown (memory : Memory) (given : List Handle) (h : Handle) (content : Option (List UInt8)) :
    (memory.put h content).within (h :: given) = (memory.within given).put h content := by
  funext k
  by_cases same : k = h
  · subst same
    rw [within_given _ _ k List.mem_cons_self, put_same, put_same]
  · simp only [Memory.within, put_other _ h k content same, List.mem_cons, same, false_or]

theorem within_again (memory : Memory) (given : List Handle) (h : Handle) (own : h ∈ given) :
    memory.within (h :: given) = memory.within given := by
  funext k
  by_cases same : k = h
  · subst same
    rw [within_given memory given k own, within_given memory _ k List.mem_cons_self]
  · simp only [Memory.within, List.mem_cons, same, false_or]

theorem stopped_within (made : Nat) (memory memory' : Memory) (reason : Abort) (given : List Handle)
    (stopped : Stopped made memory reason memory') :
    Stopped made (memory.within given) reason (memory'.within given) :=
  ⟨stopped.1, stopped.2.1, within_keeps memory memory' given stopped.2.2⟩

theorem alloc_within (config : PoolConfig) (made : Nat) (memory memory' : Memory) (size : Nat)
    (outcome : Except Abort (Option Handle)) (given : List Handle)
    (agrees : AllocAgrees config made memory size outcome memory') :
    AllocAgrees config made (memory.within given) size outcome
      (memory'.within ((answeredHandle outcome).toList ++ given)) := by
  match outcome, agrees with
  | .error reason, stopped => exact stopped_within made memory memory' reason given stopped
  | .ok none, same => exact congrArg (fun memory : Memory => memory.within given) same
  | .ok (some h), ⟨positive, vacant, bytes, enough, cleared, same⟩ =>
      refine ⟨positive, within_vacant memory given h vacant, bytes, enough, cleared, ?_⟩
      rw [same]
      exact within_grown memory given h (some bytes)

theorem free_within (made : Nat) (memory memory' : Memory) (h : Option Handle) (outcome : Except Abort Unit) (given : List Handle)
    (agrees : FreeAgrees made memory h outcome memory') (own : ∀ k, h = some k → k ∈ given) :
    FreeAgrees made (memory.within given) h outcome (memory'.within given) := by
  match outcome, h, agrees with
  | .error reason, _, stopped => exact stopped_within made memory memory' reason given stopped
  | .ok _, none, same => exact congrArg (fun memory : Memory => memory.within given) same
  | .ok _, some h, same =>
      rw [show memory' = memory.put h none from same]
      exact within_put memory given h none (own h rfl)

theorem resize_within (config : PoolConfig) (made : Nat) (memory memory' : Memory) (h : Option Handle) (size : Nat)
    (outcome : Except Abort (Option Handle)) (given : List Handle) (agrees : ResizeAgrees config made memory h size outcome memory')
    (own : ∀ k, h = some k → k ∈ given) :
    ResizeAgrees config made (memory.within given) h size outcome
      (memory'.within ((answeredHandle outcome).toList ++ given)) := by
  cases h with
  | none => exact alloc_within config made memory memory' size outcome given agrees
  | some h =>
      have here := own h rfl
      cases outcome with
      | error reason => exact stopped_within made memory memory' reason given agrees
      | ok answer =>
          simp only [ResizeAgrees, within_given memory given h here] at agrees ⊢
          by_cases zero : size = 0
          · simp only [if_pos zero] at agrees ⊢
            obtain ⟨rfl, rfl⟩ := agrees
            exact ⟨rfl, within_put memory given h none here⟩
          · simp only [if_neg zero] at agrees ⊢
            cases held : memory h with
            | none =>
                rw [held] at agrees
                obtain ⟨rfl, rfl⟩ := agrees
                exact ⟨rfl, rfl⟩
            | some bytes =>
                simp only [held] at agrees ⊢
                by_cases fits : size ≤ bytes.length
                · simp only [if_pos fits] at agrees ⊢
                  obtain ⟨rfl, rfl⟩ := agrees
                  exact ⟨rfl, within_again _ given h here⟩
                · simp only [if_neg fits] at agrees ⊢
                  cases answer with
                  | none => exact congrArg (fun memory : Memory => memory.within given) agrees
                  | some n =>
                      obtain ⟨vacant, rest, enough, cleared, rfl⟩ := agrees
                      refine ⟨within_vacant memory given n vacant, rest, enough, cleared, ?_⟩
                      rw [← within_put memory given h none here]
                      exact within_grown (memory.put h none) given n _

theorem reach_within (memory : Memory) (given : List Handle) (h : Handle) (offset len : Nat) (own : h ∈ given) :
    reach (memory.within given) h offset len = reach memory h offset len := by rw [reach, reach, within_given memory given h own]

theorem write_within (memory memory' : Memory) (h : Handle) (offset : Nat) (data : List UInt8)
    (outcome : Except Abort (Except AccessError Unit)) (given : List Handle) (own : h ∈ given)
    (agrees : WriteAgrees memory h offset data outcome memory') :
    WriteAgrees (memory.within given) h offset data outcome (memory'.within given) := by
  simp only [WriteAgrees, reach_within memory given h offset data.length own] at agrees ⊢
  cases reached : reach memory h offset data.length with
  | error e =>
      simp only [reached] at agrees ⊢
      exact ⟨agrees.1, congrArg (fun memory : Memory => memory.within given) agrees.2⟩
  | ok bytes =>
      simp only [reached] at agrees ⊢
      obtain ⟨answered, rfl⟩ := agrees
      exact ⟨answered, within_put memory given h _ own⟩

theorem edit_within {α : Type} (memory memory' : Memory) (h : Handle) (edit : PayloadEdit α)
    (outcome : Except Abort (Except AccessError α)) (given : List Handle) (own : h ∈ given)
    (agrees : EditAgrees memory h edit outcome memory') :
    EditAgrees (memory.within given) h edit outcome (memory'.within given) := by
  simp only [EditAgrees, within_given memory given h own] at agrees ⊢
  cases held : memory h with
  | none =>
      simp only [held] at agrees ⊢
      exact ⟨agrees.1, congrArg (fun memory : Memory => memory.within given) agrees.2⟩
  | some bytes =>
      simp only [held] at agrees ⊢
      cases edited : edit bytes.length (lend bytes) with
      | ok value changed =>
          simp only [edited] at agrees ⊢
          obtain ⟨answered, rfl⟩ := agrees
          exact ⟨answered, within_put memory given h _ own⟩
      | error reason changed =>
          simp only [edited] at agrees ⊢
          obtain ⟨answered, rfl⟩ := agrees
          exact ⟨answered, within_put memory given h _ own⟩

-- What clients see of a call that they make with their own handles is what the call does to the whole memory.
theorem agrees_within {α : Type} (config : PoolConfig) (made : Nat) (call : PoolCall α) (memory memory' : Memory)
    (outcome : Except Abort call.Answer) (given : List Handle) (going : call ≠ .deinit)
    (own : ∀ h, call.handle = some h → h ∈ given)
    (agrees : Agrees config made (some memory) call outcome (some memory')) :
    Agrees config made (some (memory.within given)) call outcome
      (some (memory'.within ((call.granted outcome).toList ++ given))) := by
  cases call with
  | deinit => exact absurd rfl going
  | alloc size =>
      obtain ⟨_, ⟨⟩, agrees⟩ := agrees
      exact ⟨_, rfl, alloc_within config made memory memory' size outcome given agrees⟩
  | free h =>
      obtain ⟨_, ⟨⟩, agrees⟩ := agrees
      exact ⟨_, rfl, free_within made memory memory' h outcome given agrees own⟩
  | resize h size =>
      obtain ⟨_, ⟨⟩, agrees⟩ := agrees
      exact ⟨_, rfl, resize_within config made memory memory' h size outcome given agrees own⟩
  | read h offset len =>
      obtain ⟨_, ⟨⟩, rfl, answered⟩ := agrees
      rw [← reach_within memory' given h offset len (own h rfl)] at answered
      exact ⟨_, rfl, rfl, answered⟩
  | write h offset data =>
      obtain ⟨_, ⟨⟩, agrees⟩ := agrees
      exact ⟨_, rfl, write_within memory memory' h offset data outcome given (own h rfl) agrees⟩
  | withPayload h look =>
      obtain ⟨_, ⟨⟩, rfl, answered⟩ := agrees
      rw [← within_given memory' given h (own h rfl)] at answered
      exact ⟨_, rfl, rfl, answered⟩
  | editPayload h edit =>
      obtain ⟨_, ⟨⟩, agrees⟩ := agrees
      exact ⟨_, rfl, edit_within memory memory' h edit outcome given (own h rfl) agrees⟩
  | usableSize h =>
      obtain ⟨⟨⟩, answered⟩ := agrees
      rw [← within_given memory given h (own h rfl)] at answered
      exact ⟨rfl, answered⟩

theorem answered_handle (outcome : Except Abort (Option Handle)) (h : Handle) (answered : answeredHandle outcome = some h) :
    outcome = .ok (some h) := by
  cases outcome with
  | error reason => cases answered
  | ok answer => exact congrArg Except.ok answered

theorem resize_granted (config : PoolConfig) (made : Nat) (memory memory' : Memory) (h : Option Handle) (size : Nat) (n : Handle)
    (agrees : ResizeAgrees config made memory h size (.ok (some n)) memory') : h = some n ∨ memory n = none := by
  cases h with
  | none => exact .inr agrees.2.1
  | some h =>
      simp only [ResizeAgrees] at agrees
      by_cases zero : size = 0
      · rw [if_pos zero] at agrees
        cases agrees.1
      · rw [if_neg zero] at agrees
        cases held : memory h with
        | none =>
            rw [held] at agrees
            cases agrees.1
        | some bytes =>
            simp only [held] at agrees
            by_cases fits : size ≤ bytes.length
            · rw [if_pos fits] at agrees
              exact .inl agrees.1.symm
            · rw [if_neg fits] at agrees
              exact .inr agrees.1

theorem granted_cases {α : Type} (config : PoolConfig) (made : Nat) (call : PoolCall α) (memory memory' : Memory)
    (outcome : Except Abort call.Answer) (h : Handle)
    (agrees : Agrees config made (some memory) call outcome (some memory')) (granted : call.granted outcome = some h) :
    (∃ bytes, memory' h = some bytes) ∧ (call.handle = some h ∨ memory h = none) := by
  cases call with
  | alloc size =>
      cases answered_handle outcome h granted
      obtain ⟨_, ⟨⟩, _, vacant, bytes, _, _, rfl⟩ := agrees
      exact ⟨⟨bytes, put_same memory h _⟩, .inr vacant⟩
  | resize k size =>
      cases answered_handle outcome h granted
      obtain ⟨_, ⟨⟩, agrees⟩ := agrees
      exact ⟨moved_entry config made memory memory' k size h agrees, resize_granted config made memory memory' k size h agrees⟩
  | _ => cases granted

end BlockPool
