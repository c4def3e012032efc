import BlockPool.Proofs.HeapViews

set_option autoImplicit false

namespace BlockPool

open Registry

-- A walk along `next` links that comes to an end, with the headers it meets. The links may be any.
inductive Walk (headers : Array Header) : Option BlockId → List (BlockId × Header) → Prop where
  | ends : Walk headers none []
  | meets (id : BlockId) (h : Header) (rest : List (BlockId × Header)) (read : headers[id]? = some h)
      (walk : Walk headers h.next rest) : Walk headers (some id) ((id, h) :: rest)

def Registry.stop (r : Registry) (block : BlockId × Header) : Nat := block.2.offset + r.headerOverhead + block.2.size

structure Adjoins (r : Registry) (first second : BlockId × Header) : Prop where
  offset : second.2.offset = r.stop first
  prev : second.2.prev = some first.1
  apart : (first.2.free && second.2.free) = false

-- Everything the check is there to see.
structure Coherent (r : Registry) (blocks : List (BlockId × Header)) : Prop where
  walk : Walk r.headers (some 0) blocks
  starts : ∃ first, blocks.head? = some first ∧ first.2.offset = 0 ∧ first.2.prev = none
  joined : blocks.IsChain (Adjoins r)
  ends : ∃ last, blocks.getLast? = some last ∧ r.stop last = r.capacity
  counted : blocks.length + r.vacant.length = r.headers.size

-- Any header pool, whether or not a pool can come to it, as long as links and sums stay in range.
structure Addressed (r : Registry) : Prop where
  headed : 0 < r.headers.size
  links : ∀ h ∈ r.headers, ∀ next ∈ h.next, next < r.headers.size
  words : ∀ h ∈ r.headers, h.offset + r.headerOverhead + h.size < Word.bound

-- The check from `cursor` on, with nothing to bound its steps: it comes to `result` after so many visits.
inductive Patrolled (r : Registry) : Patrol → Option BlockId → Nat → Except Violation Patrol → Prop where
  | ends (patrol : Patrol) : Patrolled r patrol none 0 (.ok patrol)
  | stops (patrol : Patrol) (id : BlockId) (h : Header) (violation : Violation) (read : r.headers[id]? = some h)
      (seen : (r.inspect patrol (id, h)).run = .ok (.error violation)) : Patrolled r patrol (some id) 1 (.error violation)
  | goes (patrol next : Patrol) (id : BlockId) (h : Header) (visits : Nat) (result : Except Violation Patrol)
      (read : r.headers[id]? = some h) (seen : (r.inspect patrol (id, h)).run = .ok (.ok next))
      (rest : Patrolled r next h.next visits result) : Patrolled r patrol (some id) (visits + 1) result

def Registry.verdict (r : Registry) (patrol : Patrol) : Except Violation Unit :=
  if patrol.expected ≠ r.capacity then .error (.spanMismatch patrol.expected r.capacity)
  else if patrol.linked + r.vacant.length ≠ r.headers.size then
    .error (.leakedHeaders patrol.linked r.vacant.length r.headers.size)
  else .ok ()

def Registry.objection (r : Registry) (patrol : Patrol) (block : BlockId × Header) : Option Violation :=
  if r.headers.size < patrol.linked + 1 then some (.leakedHeaders (patrol.linked + 1) r.vacant.length r.headers.size)
  else if block.2.offset ≠ patrol.expected then some (.gap patrol.expected block.2.offset)
  else if block.2.prev ≠ patrol.last.map Prod.fst then some (.brokenLink block.2.offset)
  else patrol.last.bind fun last =>
    if last.2.free && block.2.free then some (.adjacentFree last.2.offset block.2.offset) else none

def Registry.passed (r : Registry) (linked : Nat) (block : BlockId × Header) : Patrol := ⟨linked, r.stop block, some block⟩

theorem inspect_eq (r : Registry) (patrol : Patrol) (block : BlockId × Header) :
    (r.inspect patrol block).run =
      match r.objection patrol block with
      | some violation => .ok (.error violation)
      | none => do
        let payload ← Word.add block.2.offset r.headerOverhead
        let expected ← Word.add payload block.2.size
        return .ok ⟨patrol.linked + 1, expected, some block⟩ := by
  obtain ⟨id, h⟩ := block
  obtain ⟨linked, expected, last⟩ := patrol
  unfold Registry.inspect Registry.objection
  simp only
  by_cases long : r.headers.size < linked + 1
  · rw [if_pos long, if_pos long]
    rfl
  rw [if_neg long, if_neg long]
  by_cases gap : h.offset ≠ expected
  · rw [if_pos gap, if_pos gap]
    rfl
  rw [if_neg gap, if_neg gap]
  by_cases broken : h.prev ≠ last.map Prod.fst
  · rw [if_pos broken, if_pos broken]
    rfl
  rw [if_neg broken, if_neg broken]
  cases last with
  | none =>
      simp only [check_lift_run]
      rfl
  | some last =>
      simp only [Option.bind_some]
      by_cases touching : (last.2.free && h.free) = true
      · rw [if_pos touching, if_pos touching]
        rfl
      · rw [if_neg touching, if_neg touching]
        simp only [check_lift_run]
        rfl

structure Admits (r : Registry) (patrol : Patrol) (block : BlockId × Header) : Prop where
  room : patrol.linked < r.headers.size
  offset : block.2.offset = patrol.expected
  prev : block.2.prev = patrol.last.map Prod.fst
  apart : ∀ last ∈ patrol.last, (last.2.free && block.2.free) = false

theorem objection_none (r : Registry) (patrol : Patrol) (block : BlockId × Header) :
    r.objection patrol block = none ↔ Admits r patrol block := by
  unfold Registry.objection
  constructor
  · intro nothing
    split at nothing
    · cases nothing
    rename_i short
    split at nothing
    · cases nothing
    rename_i offset
    split at nothing
    · cases nothing
    rename_i prev
    refine ⟨Nat.lt_of_succ_le (Nat.not_lt.mp short), not_not.mp offset, not_not.mp prev, fun last ahead => ?_⟩
    rw [Option.mem_def.mp ahead, Option.bind_some] at nothing
    cases touching : last.2.free && block.2.free with
    | false => rfl
    | true =>
        rw [if_pos touching] at nothing
        cases nothing
  · rintro ⟨room, offset, prev, apart⟩
    rw [if_neg (Nat.not_lt.mpr room), if_neg (not_not.mpr offset), if_neg (not_not.mpr prev)]
    refine Option.bind_eq_none_iff.mpr fun last ahead => ?_
    simp only [apart last ahead, Bool.false_eq_true, if_false]

theorem inspect_admitted (r : Registry) (patrol : Patrol) (block : BlockId × Header) (admits : Admits r patrol block)
    (word : r.stop block < Word.bound) :
    (r.inspect patrol block).run = .ok (.ok (r.passed (patrol.linked + 1) block)) := by
  rw [inspect_ok r patrol block.1 block.2 admits.room admits.offset admits.prev admits.apart word]
  rfl

theorem inspect_passed (r : Registry) (patrol next : Patrol) (block : BlockId × Header)
    (seen : (r.inspect patrol block).run = .ok (.ok next)) : Admits r patrol block ∧ r.stop block < Word.bound := by
  rw [inspect_eq] at seen
  cases objection : r.objection patrol block with
  | some violation =>
      rw [objection] at seen
      cases seen
  | none =>
      rw [objection] at seen
      obtain ⟨start, payload, seen⟩ := except_bind_ok _ _ _ seen
      obtain ⟨_, rfl⟩ := word_add_some _ _ _ payload
      obtain ⟨expected, stop, _⟩ := except_bind_ok _ _ _ seen
      exact ⟨(objection_none r patrol block).mp objection, (word_add_some _ _ _ stop).1⟩

theorem inspect_answers (r : Registry) (patrol : Patrol) (block : BlockId × Header) (word : r.stop block < Word.bound) :
    ∃ result, (r.inspect patrol block).run = .ok result := by
  cases objection : r.objection patrol block with
  | some violation => exact ⟨.error violation, by rw [inspect_eq, objection]⟩
  | none => exact ⟨_, inspect_admitted r patrol block ((objection_none r patrol block).mp objection) word⟩

theorem admits_next (r : Registry) (linked : Nat) (block second : BlockId × Header) :
    Admits r (r.passed linked block) second ↔ linked < r.headers.size ∧ Adjoins r block second := by
  constructor
  · rintro ⟨room, offset, prev, apart⟩
    exact ⟨room, offset, prev, apart block rfl⟩
  · rintro ⟨room, offset, prev, apart⟩
    refine ⟨room, offset, prev, fun last ahead => ?_⟩
    cases Option.mem_some_iff.mp ahead
    exact apart

theorem follow_walk (headers : Array Header) (cursor : Option BlockId) (blocks : List (BlockId × Header)) (bound : Nat)
    (walk : Walk headers cursor blocks) (enough : blocks.length ≤ bound) :
    Chain.follow headers bound cursor = ⟨blocks, .complete⟩ := by
  induction walk generalizing bound with
  | ends => cases bound <;> rfl
  | meets id h rest read walk ih =>
      cases bound with
      | zero => cases enough
      | succ bound =>
          have later := ih bound (Nat.le_of_succ_le_succ enough)
          simp only [Chain.follow, read, later]

theorem walk_followed (headers : Array Header) (cursor : Option BlockId) (bound : Nat)
    (complete : (Chain.follow headers bound cursor).ending = .complete) :
    Walk headers cursor (Chain.follow headers bound cursor).blocks := by
  induction bound generalizing cursor with
  | zero =>
      cases cursor with
      | none => exact .ends
      | some id => cases complete
  | succ bound ih =>
      cases cursor with
      | none => exact .ends
      | some id =>
          cases read : headers[id]? with
          | none =>
              simp only [Chain.follow, read] at complete
              cases complete
          | some h =>
              simp only [Chain.follow, read] at complete ⊢
              exact .meets id h _ read (ih h.next complete)

-- The visits left are one more than the headers that may still pass, so the check objects to the last of them at the latest.
theorem patrol_ends (r : Registry) (addressed : Addressed r) (bound : Nat) (patrol : Patrol) (cursor : Option BlockId)
    (within : patrol.linked ≤ r.headers.size) (enough : r.headers.size < patrol.linked + bound)
    (inside : ∀ id ∈ cursor, id < r.headers.size) :
    ∃ visits result, visits ≤ bound ∧ Patrolled r patrol cursor visits result ∧
      ((Chain.follow r.headers bound cursor).blocks.foldlM r.inspect patrol).run = .ok result ∧
      ∀ final, result = .ok final → (Chain.follow r.headers bound cursor).ending = .complete := by
  induction bound generalizing patrol cursor with
  | zero => omega
  | succ bound ih =>
      cases cursor with
      | none => exact ⟨0, .ok patrol, Nat.zero_le _, .ends patrol, rfl, fun _ _ => rfl⟩
      | some id =>
          obtain ⟨h, read⟩ : ∃ h, r.headers[id]? = some h := ⟨_, Array.getElem?_eq_getElem (inside id rfl)⟩
          have member : h ∈ r.headers := Array.mem_of_getElem? read
          have word : r.stop (id, h) < Word.bound := addressed.words h member
          obtain ⟨result, seen⟩ := inspect_answers r patrol (id, h) word
          simp only [Chain.follow, read, List.foldlM_cons]
          cases result with
          | error violation =>
              refine ⟨1, .error violation, Nat.le_add_left 1 bound, .stops patrol id h violation read seen, ?_,
                fun _ absent => by cases absent⟩
              exact check_bind_error _ _ violation seen
          | ok next =>
              obtain ⟨admits, _⟩ := inspect_passed r patrol next (id, h) seen
              have after := inspect_admitted r patrol (id, h) admits word
              cases seen.symm.trans after
              obtain ⟨visits, result, few, loop, walked, complete⟩ :=
                ih (r.passed (patrol.linked + 1) (id, h)) h.next admits.room
                (by simp only [Registry.passed]; omega) (addressed.links h member)
              refine ⟨visits + 1, result, Nat.succ_le_succ few, .goes patrol _ id h visits result read seen loop, ?_, complete⟩
              exact (check_bind_ok _ _ _ seen).trans walked

theorem patrol_iff (r : Registry) (linked : Nat) (block : BlockId × Header) (rest : List (BlockId × Header)) (final : Patrol)
    (within : linked ≤ r.headers.size) :
    (rest.foldlM r.inspect (r.passed linked block)).run = .ok (.ok final) ↔
      (linked + rest.length ≤ r.headers.size ∧ ∀ other ∈ rest, r.stop other < Word.bound) ∧
        (block :: rest).IsChain (Adjoins r) ∧
        final = r.passed (linked + rest.length) (rest.getLastD block) := by
  induction rest generalizing linked block with
  | nil =>
      constructor
      · intro walked
        cases walked
        exact ⟨⟨within, fun other member => absurd member List.not_mem_nil⟩, List.isChain_singleton _, rfl⟩
      · rintro ⟨_, _, rfl⟩
        rfl
  | cons second rest ih =>
      rw [List.foldlM_cons, List.length_cons, List.getLastD_cons, List.isChain_cons_cons, List.forall_mem_cons]
      have count : linked + (rest.length + 1) = linked + 1 + rest.length := by omega
      rw [count]
      constructor
      · intro walked
        obtain ⟨middle, seen, later⟩ := check_bind_passed _ _ _ walked
        obtain ⟨admits, word⟩ := inspect_passed r _ _ second seen
        cases seen.symm.trans (inspect_admitted r _ second admits word)
        obtain ⟨room, adjoins⟩ := (admits_next r linked block second).mp admits
        obtain ⟨⟨few, words⟩, joined, same⟩ := (ih (linked + 1) second room).mp later
        exact ⟨⟨few, word, words⟩, ⟨adjoins, joined⟩, same⟩
      · rintro ⟨⟨few, word, words⟩, ⟨adjoins, joined⟩, same⟩
        have room : linked < r.headers.size := by omega
        have seen := inspect_admitted r _ second ((admits_next r linked block second).mpr ⟨room, adjoins⟩) word
        exact (check_bind_ok _ _ _ seen).trans ((ih (linked + 1) second room).mpr ⟨⟨few, words⟩, joined, same⟩)

theorem check_settles (r : Registry) (result : Except Violation Patrol)
    (walked : (r.chain.blocks.foldlM r.inspect {}).run = .ok result)
    (complete : ∀ final, result = .ok final → r.chain.ending = .complete) :
    r.check.run = .ok (result.bind r.verdict) := by
  unfold Registry.check
  cases result with
  | error violation => exact check_bind_error _ _ violation walked
  | ok final =>
      refine (check_bind_ok _ _ final walked).trans ?_
      simp only [Chain.finish, complete final rfl, check_lift_bind, Except.bind, Registry.verdict]
      by_cases short : final.expected ≠ r.capacity
      · rw [if_pos short, if_pos short]
        rfl
      rw [if_neg short, if_neg short]
      by_cases lost : final.linked + r.vacant.length ≠ r.headers.size
      · rw [if_pos lost, if_pos lost]
        rfl
      · rw [if_neg lost, if_neg lost]
        rfl

theorem check_walks (r : Registry) (passed : r.check.run = .ok (.ok ())) :
    ∃ final, (r.chain.blocks.foldlM r.inspect {}).run = .ok (.ok final) ∧ r.chain.ending = .complete ∧
      r.verdict final = .ok () := by
  obtain ⟨final, walked, rest⟩ := check_bind_passed _ _ _ passed
  have complete : r.chain.ending = .complete := by
    cases ending : r.chain.ending with
    | complete => rfl
    | dangling =>
        simp only [Chain.finish, ending, check_abort_bind] at rest
        cases rest
    | cyclic =>
        simp only [Chain.finish, ending, check_abort_bind] at rest
        cases rest
  have settled := check_settles r (.ok final) walked fun _ _ => complete
  exact ⟨final, walked, complete, Except.ok.inj (settled.symm.trans passed)⟩

theorem verdict_ok (r : Registry) (linked : Nat) (last : BlockId × Header) :
    r.verdict (r.passed linked last) = .ok () ↔ r.stop last = r.capacity ∧ linked + r.vacant.length = r.headers.size := by
  unfold Registry.verdict Registry.passed
  simp only
  split
  · rename_i short
    exact iff_of_false (by simp) fun both => short both.1
  split
  · rename_i lost
    exact iff_of_false (by simp) fun both => lost both.2
  · rename_i covers counted
    exact iff_of_true rfl ⟨not_not.mp covers, not_not.mp counted⟩

theorem coherent_chain (r : Registry) (blocks : List (BlockId × Header)) (coherent : Coherent r blocks) :
    r.chain = ⟨blocks, .complete⟩ := by
  have counted := coherent.counted
  exact follow_walk r.headers (some 0) blocks _ coherent.walk (by omega)

theorem check_passes_iff (r : Registry) :
    r.check.run = .ok (.ok ()) ↔ ∃ blocks, Coherent r blocks ∧ ∀ block ∈ blocks, r.stop block < Word.bound := by
  constructor
  · intro passed
    obtain ⟨final, walked, complete, settled⟩ := check_walks r passed
    have walk : Walk r.headers (some 0) r.chain.blocks := walk_followed r.headers (some 0) _ complete
    refine ⟨r.chain.blocks, ?_⟩
    generalize r.chain.blocks = blocks at walked walk
    cases walk with
    | meets id h rest read walk =>
        obtain ⟨middle, seen, later⟩ := check_bind_passed _ _ _ walked
        obtain ⟨admits, word⟩ := inspect_passed r {} middle (0, h) seen
        cases seen.symm.trans (inspect_admitted r {} (0, h) admits word)
        obtain ⟨⟨_, words⟩, joined, rfl⟩ := (patrol_iff r 1 (0, h) rest final admits.room).mp later
        obtain ⟨ends, counted⟩ := (verdict_ok r _ _).mp settled
        have finishes : ((0, h) :: rest).getLast? = some (rest.getLastD (0, h)) := by
          rw [List.getLast?_cons, List.getLastD_eq_getLast?]
        rw [Nat.add_comm 1] at counted
        exact ⟨⟨.meets 0 h rest read walk, ⟨(0, h), rfl, admits.offset, admits.prev⟩, joined,
          ⟨_, finishes, ends⟩, counted⟩,
          List.forall_mem_cons.mpr ⟨word, words⟩⟩
  · rintro ⟨blocks, coherent, words⟩
    have chain := coherent_chain r blocks coherent
    obtain ⟨walk, ⟨first, begins, offset, prev⟩, joined, ⟨last, finishes, ends⟩, counted⟩ := coherent
    cases walk with
    | meets id h rest read walk =>
        cases begins
        rw [List.getLast?_cons, ← List.getLastD_eq_getLast?] at finishes
        cases finishes
        obtain ⟨word, words⟩ := List.forall_mem_cons.mp words
        rw [List.length_cons, Nat.add_comm rest.length] at counted
        have room : 1 ≤ r.headers.size := by omega
        have few : 1 + rest.length ≤ r.headers.size := by omega
        have seen := inspect_admitted r {} (0, h) ⟨room, offset, prev, fun last absent => absurd absent (by simp)⟩ word
        have later := (patrol_iff r 1 (0, h) rest _ room).mpr ⟨⟨few, words⟩, joined, rfl⟩
        have walked : (r.chain.blocks.foldlM r.inspect {}).run = .ok (.ok (r.passed (1 + rest.length) (rest.getLastD (0, h)))) := by
          rw [chain]
          exact (check_bind_ok _ _ _ seen).trans later
        have settled := check_settles r _ walked fun _ _ => by rw [chain]
        rw [settled]
        exact congrArg Except.ok ((verdict_ok r _ _).mpr ⟨ends, counted⟩)

theorem walk_reads (headers : Array Header) (cursor : Option BlockId) (blocks : List (BlockId × Header))
    (walk : Walk headers cursor blocks) :
    Laid headers blocks := by
  induction walk with
  | ends => exact laid_nil headers
  | meets id h rest read walk ih => exact (laid_cons headers id h rest).mpr ⟨read, ih⟩

theorem check_is_exact (r : Registry) (addressed : Addressed r) :
    (∃ visits result, Patrolled r {} (some 0) visits result ∧ visits ≤ r.headers.size + 1 ∧
      r.check.run = .ok (result.bind r.verdict)) ∧
      (r.check.run = .ok (.ok ()) ↔ ∃ blocks, Coherent r blocks) := by
  have inside : ∀ id ∈ some 0, id < r.headers.size := fun id member => Option.mem_some_iff.mp member ▸ addressed.headed
  obtain ⟨visits, result, few, loop, walked, complete⟩ :=
    patrol_ends r addressed (r.headers.size + 1) {} (some 0) (Nat.zero_le _)
    (by simp only; omega) inside
  refine ⟨⟨visits, result, loop, few, check_settles r result walked complete⟩, (check_passes_iff r).trans ?_⟩
  constructor
  · rintro ⟨blocks, coherent, _⟩
    exact ⟨blocks, coherent⟩
  · rintro ⟨blocks, coherent⟩
    refine ⟨blocks, coherent, fun block member => ?_⟩
    exact addressed.words block.2 (Array.mem_of_getElem? (walk_reads r.headers _ blocks coherent.walk block member))

-- Two used blocks in order, but for the last link, which leads back to the first one.
def turningRegistry : Registry where
  headers := #[⟨0, 8, false, none, some 1⟩, ⟨24, 24, false, some 0, some 0⟩]
  vacant := []
  capacity := 64
  headerOverhead := 16
  fit := .bestFit

theorem check_is_exact_turning :
    Addressed turningRegistry ∧
      (∃ visits result, Patrolled turningRegistry {} (some 0) visits result ∧ visits ≤ 3 ∧
        turningRegistry.check.run = .ok (result.bind turningRegistry.verdict)) ∧
      turningRegistry.check.run = .ok (.error (.leakedHeaders 3 0 2)) ∧ ¬ ∃ blocks, Coherent turningRegistry blocks := by
  have addressed : Addressed turningRegistry := by
    refine ⟨by decide, ?_, ?_⟩ <;> simp [turningRegistry, Word.bound, UInt64.size]
  obtain ⟨ended, passes⟩ := check_is_exact turningRegistry addressed
  have caught : turningRegistry.check.run = .ok (.error (.leakedHeaders 3 0 2)) := by rfl
  exact ⟨addressed, ended, caught, fun coherent => by rw [passes.mpr coherent] at caught; cases caught⟩

end BlockPool
