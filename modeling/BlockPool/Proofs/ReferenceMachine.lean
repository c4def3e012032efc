import BlockPool.Proofs.HeapContents
import BlockPool.Proofs.PoolCalls

set_option autoImplicit false

namespace BlockPool

-- A call that stops because a counter is full, which takes as many calls before it, loses nothing.
def Stopped (made : Nat) (memory : Memory) (reason : Abort) (memory' : Memory) : Prop :=
  reason = .overflow ∧ Word.greatest ≤ made ∧ ∀ h bytes, memory h = some bytes → memory' h = some bytes

def AllocAgrees (config : PoolConfig) (made : Nat) (memory : Memory) (size : Nat) :
    Except Abort (Option Handle) → Memory → Prop
  | .error reason, memory' => Stopped made memory reason memory'
  | .ok none, memory' => memory' = memory
  | .ok (some h), memory' =>
    0 < size ∧ memory h = none ∧
      ∃ bytes, size ≤ bytes.length ∧ (config.zeroOnAlloc = true → ∀ b ∈ bytes, b = 0) ∧
        memory' = memory.put h (some bytes)

def FreeAgrees (made : Nat) (memory : Memory) (h : Option Handle) : Except Abort Unit → Memory → Prop
  | .error reason, memory' => Stopped made memory reason memory'
  | .ok _, memory' =>
    match h with
    | none => memory' = memory
    | some h => memory' = memory.put h none

-- The bytes of a live handle that grows are kept ahead of the new ones.
def ResizeAgrees (config : PoolConfig) (made : Nat) (memory : Memory) (h : Option Handle) (size : Nat)
    (outcome : Except Abort (Option Handle)) (memory' : Memory) : Prop :=
  match h with
  | none => AllocAgrees config made memory size outcome memory'
  | some h =>
    match outcome with
    | .error reason => Stopped made memory reason memory'
    | .ok answer =>
      if size = 0 then answer = none ∧ memory' = memory.put h none
      else
        match memory h with
        | none => answer = none ∧ memory' = memory
        | some bytes =>
          if size ≤ bytes.length then answer = some h ∧ memory' = memory
          else
            match answer with
            | none => memory' = memory
            | some n =>
              memory n = none ∧
                ∃ rest, size ≤ bytes.length + rest.length ∧ (config.zeroOnAlloc = true → ∀ b ∈ rest, b = 0) ∧
                  memory' = (memory.put h none).put n (some (bytes ++ rest))

def reach (memory : Memory) (h : Handle) (offset len : Nat) : Except AccessError (List UInt8) :=
  match memory h with
  | none => .error (.staleHandle h)
  | some bytes => if offset + len ≤ bytes.length then .ok bytes else .error (.outOfBounds offset len bytes.length)

def ReadAgrees (memory : Memory) (h : Handle) (offset len : Nat) (outcome : Except Abort (Except AccessError (Vector UInt8 len)))
    (memory' : Memory) : Prop :=
  memory' = memory ∧
    match reach memory h offset len with
    | .error e => outcome = .ok (.error e)
    | .ok bytes => ∃ found : Vector UInt8 len, outcome = .ok (.ok found) ∧ found.toList = (bytes.drop offset).take len

def WriteAgrees (memory : Memory) (h : Handle) (offset : Nat) (data : List UInt8) (outcome : Except Abort (Except AccessError Unit))
    (memory' : Memory) : Prop :=
  match reach memory h offset data.length with
  | .error e => outcome = .ok (.error e) ∧ memory' = memory
  | .ok bytes => outcome = .ok (.ok ()) ∧ memory' = memory.put h (some (splice bytes offset data))

def lend (bytes : List UInt8) : Vector UInt8 bytes.length := ⟨bytes.toArray, List.size_toArray⟩

def LookAgrees {α : Type} (memory : Memory) (h : Handle) (look : (len : Nat) → Vector UInt8 len → α)
    (outcome : Except Abort (Except AccessError α)) (memory' : Memory) : Prop :=
  memory' = memory ∧
    match memory h with
    | none => outcome = .ok (.error (.staleHandle h))
    | some bytes => outcome = .ok (.ok (look bytes.length (lend bytes)))

-- What a closure wrote stays, whether it answers or gives up.
def EditAgrees {α : Type} (memory : Memory) (h : Handle) (edit : PayloadEdit α) (outcome : Except Abort (Except AccessError α))
    (memory' : Memory) : Prop :=
  match memory h with
  | none => outcome = .ok (.error (.staleHandle h)) ∧ memory' = memory
  | some bytes =>
    match edit bytes.length (lend bytes) with
    | .ok value changed => outcome = .ok (.ok value) ∧ memory' = memory.put h (some changed.toList)
    | .error reason changed => outcome = .error reason ∧ memory' = memory.put h (some changed.toList)

-- One call on the reference machine, after `made` calls. Without a memory the pool is closed.
def Agrees {α : Type} (config : PoolConfig) (made : Nat) :
    Option Memory → (call : PoolCall α) → Except Abort call.Answer → Option Memory → Prop
  | none, call, outcome, memory' => outcome = .ok call.absent ∧ memory' = none
  | some _, .deinit, outcome, memory' => outcome = .ok () ∧ memory' = none
  | some memory, .alloc size, outcome, memory' => ∃ next, memory' = some next ∧ AllocAgrees config made memory size outcome next
  | some memory, .free h, outcome, memory' => ∃ next, memory' = some next ∧ FreeAgrees made memory h outcome next
  | some memory, .resize h size, outcome, memory' => ∃ next, memory' = some next ∧
      ResizeAgrees config made memory h size outcome next
  | some memory, .read h offset len, outcome, memory' => ∃ next, memory' = some next ∧
      ReadAgrees memory h offset len outcome next
  | some memory, .write h offset data, outcome, memory' => ∃ next, memory' = some next ∧
      WriteAgrees memory h offset data outcome next
  | some memory, .withPayload h look, outcome, memory' => ∃ next, memory' = some next ∧ LookAgrees memory h look outcome next
  | some memory, .editPayload h edit, outcome, memory' => ∃ next, memory' = some next ∧ EditAgrees memory h edit outcome next
  | some memory, .usableSize h, outcome, memory' => memory' = some memory ∧ outcome = .ok ((memory h).map List.length)

def PoolCall.subject {α : Type} : PoolCall α → Option Handle
  | .free h => h
  | .resize h _ => h
  | .write h _ _ => some h
  | .editPayload h _ => some h
  | _ => none

def SparesOthers {α : Type} (call : PoolCall α) : Option Memory → Option Memory → Prop
  | some memory, some memory' => ∀ k bytes, memory k = some bytes → call.subject ≠ some k → memory' k = some bytes
  | _, _ => True

theorem put_spares (memory : Memory) (h k : Handle) (entry : Option (List UInt8)) (bytes : List UInt8)
    (held : memory k = some bytes) (other : some h ≠ some k) : memory.put h entry k = some bytes := by
  rw [put_other _ _ _ _ (fun same => other (congrArg some same.symm)), held]

theorem vacant_differs (memory : Memory) (h k : Handle) (bytes : List UInt8) (vacant : memory h = none)
    (held : memory k = some bytes) :
    some h ≠ some k := by
  rintro same
  cases same
  rw [vacant] at held
  cases held

theorem alloc_spares (config : PoolConfig) (made : Nat) (memory memory' : Memory) (size : Nat)
    (outcome : Except Abort (Option Handle)) (agrees : AllocAgrees config made memory size outcome memory') (k : Handle)
    (bytes : List UInt8) (held : memory k = some bytes) : memory' k = some bytes := by
  match outcome, agrees with
  | .error _, ⟨_, _, keeps⟩ => exact keeps k bytes held
  | .ok none, same =>
      rw [show memory' = memory from same]
      exact held
  | .ok (some h), ⟨_, vacant, _, _, _, same⟩ =>
      rw [same]
      exact put_spares memory h k _ bytes held (vacant_differs memory h k bytes vacant held)

theorem free_spares (made : Nat) (memory memory' : Memory) (h : Option Handle) (outcome : Except Abort Unit)
    (agrees : FreeAgrees made memory h outcome memory') (k : Handle) (bytes : List UInt8) (held : memory k = some bytes)
    (other : h ≠ some k) : memory' k = some bytes := by
  match outcome, h, agrees with
  | .error _, _, ⟨_, _, keeps⟩ => exact keeps k bytes held
  | .ok _, none, same =>
      rw [show memory' = memory from same]
      exact held
  | .ok _, some h, same =>
      rw [show memory' = memory.put h none from same]
      exact put_spares memory h k none bytes held other

theorem resize_spares (config : PoolConfig) (made : Nat) (memory memory' : Memory) (h : Option Handle) (size : Nat)
    (outcome : Except Abort (Option Handle)) (agrees : ResizeAgrees config made memory h size outcome memory') (k : Handle)
    (bytes : List UInt8) (held : memory k = some bytes) (other : h ≠ some k) : memory' k = some bytes := by
  cases h with
  | none => exact alloc_spares config made memory memory' size outcome agrees k bytes held
  | some h =>
      cases outcome with
      | error reason => exact agrees.2.2 k bytes held
      | ok answer =>
          simp only [ResizeAgrees] at agrees
          split at agrees
          · rw [agrees.2]
            exact put_spares memory h k none bytes held other
          · split at agrees
            · rw [agrees.2, held]
            · split at agrees
              · rw [agrees.2, held]
              · split at agrees
                · rw [agrees, held]
                · rename_i n
                  obtain ⟨vacant, rest, _, _, same⟩ := agrees
                  rw [same]
                  exact put_spares _ n k _ bytes (put_spares memory h k none bytes held other)
                    (vacant_differs memory n k bytes vacant held)

theorem write_spares (memory memory' : Memory) (h : Handle) (offset : Nat) (data : List UInt8)
    (outcome : Except Abort (Except AccessError Unit)) (agrees : WriteAgrees memory h offset data outcome memory') (k : Handle)
    (bytes : List UInt8) (held : memory k = some bytes) (other : some h ≠ some k) : memory' k = some bytes := by
  simp only [WriteAgrees] at agrees
  split at agrees
  · rw [agrees.2, held]
  · rw [agrees.2]
    exact put_spares memory h k _ bytes held other

theorem edit_spares {α : Type} (memory memory' : Memory) (h : Handle) (edit : PayloadEdit α)
    (outcome : Except Abort (Except AccessError α)) (agrees : EditAgrees memory h edit outcome memory') (k : Handle)
    (bytes : List UInt8) (held : memory k = some bytes) (other : some h ≠ some k) : memory' k = some bytes := by
  simp only [EditAgrees] at agrees
  split at agrees
  · rw [agrees.2, held]
  · split at agrees
    · rw [agrees.2]
      exact put_spares memory h k _ bytes held other
    · rw [agrees.2]
      exact put_spares memory h k _ bytes held other

theorem agrees_spares_others {α : Type} (config : PoolConfig) (made : Nat) (call : PoolCall α)
    (memory memory' : Option Memory) (outcome : Except Abort call.Answer)
    (agrees : Agrees config made memory call outcome memory') : SparesOthers call memory memory' := by
  cases memory with
  | none => trivial
  | some memory =>
      cases call with
      | deinit =>
          cases agrees.2
          trivial
      | usableSize h =>
          cases agrees.1
          exact fun k bytes held _ => held
      | alloc size =>
          obtain ⟨next, rfl, agrees⟩ := agrees
          exact fun k bytes held _ => alloc_spares config made memory next size outcome agrees k bytes held
      | free h =>
          obtain ⟨next, rfl, agrees⟩ := agrees
          exact free_spares made memory next h outcome agrees
      | resize h size =>
          obtain ⟨next, rfl, agrees⟩ := agrees
          exact resize_spares config made memory next h size outcome agrees
      | read h offset len =>
          obtain ⟨_, rfl, rfl, _⟩ := agrees
          exact fun k bytes held _ => held
      | withPayload h look =>
          obtain ⟨_, rfl, rfl, _⟩ := agrees
          exact fun k bytes held _ => held
      | write h offset data =>
          obtain ⟨next, rfl, agrees⟩ := agrees
          exact write_spares memory next h offset data outcome agrees
      | editPayload h edit =>
          obtain ⟨next, rfl, agrees⟩ := agrees
          exact edit_spares memory next h edit outcome agrees

end BlockPool
