import BlockPool.Proofs.ListAtomicity
import BlockPool.Proofs.PoolViews
import BlockPool.Proofs.SharedPool

set_option autoImplicit false

namespace BlockPool

open LinkedList

def surrenders (handles : List Handle) : List (PoolCall Unit) := handles.map fun h => .free (some h)

-- What `pool` has become by the release of these nodes, which were all the nodes of one list.
structure Released (config : PoolConfig) (pool pool' : Pool) (lists : Nat → LinkedList) (which : Nat)
    (nodes : List Handle) : Prop where
  -- each node is freed once, and that is all that happens
  frees : pool'.heap = (afterCalls (surrenders nodes) pool).heap
  once : nodes.Nodup
  live : ∀ h, Live pool' h ↔ Live pool h ∧ h ∉ nodes
  counted : ∃ metrics metrics', (Pool.metrics.attempt pool).1 = .ok (some metrics) ∧
    (Pool.metrics.attempt pool').1 = .ok (some metrics') ∧
    metrics'.freeCalls = metrics.freeCalls + nodes.length ∧ metrics'.ignoredFrees = metrics.ignoredFrees
  lists : ∀ i, i ≠ which → ∃ seq, ((lists i).entries.attempt pool).1 = .ok seq ∧
    ((lists i).entries.attempt pool').1 = .ok seq
  reads : ∀ h offset len, h ∉ nodes → ((Pool.read h offset len).attempt pool').1 = ((Pool.read h offset len).attempt pool).1
  vacant : (∀ h, Live pool h → h ∈ nodes) → (Pool.blocks.attempt pool').1 = .ok [config.vacantBlock]

-- There has to be room to count the releases.
def ClearsOut (config : PoolConfig) (pool : Pool) (lists : Nat → LinkedList) : Prop :=
  ∀ which, ∃ nodes metrics, ((lists which).entries.attempt pool).1 = .ok nodes ∧
    (Pool.metrics.attempt pool).1 = .ok (some metrics) ∧
    (metrics.freeCalls + nodes.length < Word.bound →
      ∃ pool', (lists which).clear pool = .ok {} pool' ∧ Released config pool pool' lists which (handlesOf nodes))

def FreesCounted (count : Nat) (m m' : PoolMetrics) : Prop :=
  m'.freeCalls = m.freeCalls + count ∧ m'.ignoredFrees = m.ignoredFrees

theorem held_freed (config : PoolConfig) (geometry : Geometry config) (heap : Heap) (acc : Account) (h : Handle)
    (bytes : List UInt8) (inventory : Inventory config heap acc) (held : acc.memory h = some bytes)
    (room : heap.metrics.freeCalls + 1 < Word.bound) :
    ∃ live next, Heap.free (some h) heap = .ok () next ∧ acc.live = live + 1 ∧ FreesCounted 1 heap.metrics next.metrics ∧
      Inventory config next { acc with memory := acc.memory.put h none, live, calls := acc.calls + 1 } := by
  obtain ⟨blocks, sound⟩ := inventory.kept
  have stock := heap_frees config geometry heap acc h bytes inventory held
  rcases free_cases config geometry heap blocks (some h) sound with
    ⟨full, _⟩ | ⟨unknown, _, _⟩ | ⟨handle, _, _, _, _, _, _, _, _, _, freed, named, _, frees⟩
  · exact absurd room (Nat.not_lt.mpr full)
  · rw [inventory.memory, contents_none heap h unknown] at held
    cases held
  · cases named
    rw [frees.ran] at stock
    obtain ⟨stopped, _⟩ | ⟨live, next, ran, counted, stocked⟩ := stock
    · cases stopped
    · cases ran
      exact ⟨live, freed, frees.ran, counted, by rw [frees.metrics]; exact ⟨rfl, rfl⟩, stocked⟩

theorem after_calls_heap {α : Type} (calls : List (PoolCall α)) (going : ∀ call ∈ calls, call ≠ .deinit) (a b : Pool)
    (same : a.heap = b.heap) : (afterCalls calls a).heap = (afterCalls calls b).heap := by
  induction calls generalizing a b with
  | nil => exact same
  | cons call rest ih =>
      refine ih (fun other member => going other (List.mem_cons_of_mem _ member)) _ _ ?_
      simp only [PoolCall.after, PoolCall.perform_works call (going call List.mem_cons_self)]
      cases opened : b.heap with
      | none => rw [(on_heap_closed _ _ b opened).2, (on_heap_closed _ _ a (same.trans opened)).2]
      | some heap => rw [(on_heap_open _ _ b heap opened).2, (on_heap_open _ _ a heap (same.trans opened)).2]

theorem surrenders_going (handles : List Handle) : ∀ call ∈ surrenders handles, call ≠ .deinit := by
  intro call member
  obtain ⟨h, _, rfl⟩ := List.mem_map.mp member
  exact nofun

-- Node after node is given back, and each link is read in time; what is left is what the frees alone would leave.
theorem release_from_frees (config : PoolConfig) (geometry : Geometry config) (limit : Nat) (seq : Sequence) (pool : Pool)
    (heap : Heap) (acc : Account) (opened : pool.heap = some heap) (inventory : Inventory config heap acc)
    (distinct : (handlesOf seq).Nodup)
    (inscribed : ∀ record ∈ records seq none, Inscribed acc.memory record.1 record.2) (short : seq.length ≤ limit)
    (room : heap.metrics.freeCalls + seq.length < Word.bound) :
    ∃ pool' next acc', releaseFrom limit (firstOf seq none) pool = .ok () pool' ∧ pool'.heap = some next ∧
      (afterCalls (surrenders (handlesOf seq)) pool).heap = some next ∧ FreesCounted seq.length heap.metrics next.metrics ∧
      Inventory config next acc' ∧ Updated acc acc' seq [] := by
  induction seq generalizing limit pool heap acc with
  | nil =>
      refine ⟨pool, heap, acc, ?_, opened, opened, ⟨rfl, rfl⟩, inventory, unmoved_updated acc acc [] (unmoved_same acc)⟩
      cases limit <;> rfl
  | cons entry rest ih =>
      cases limit with
      | zero => exact absurd short (Nat.not_succ_le_zero _)
      | succ limit =>
          have written := inscribed _ List.mem_cons_self
          have stocked : Stocked config pool acc := ⟨heap, opened, inventory⟩
          obtain ⟨seen, loaded, _, still⟩ := load_inscribed (pool_store config geometry) pool acc entry.1.handle
            ⟨entry.2, firstOf rest none⟩ stocked written
          obtain ⟨bytes, held, _⟩ := written
          obtain ⟨new, distinct'⟩ := List.nodup_cons.mp distinct
          rw [List.length_cons] at room
          obtain ⟨live, middle, ran, counted, ⟨frees, ignored⟩, stock⟩ :=
            held_freed config geometry heap acc entry.1.handle bytes inventory held (by omega)
          obtain ⟨freed, gave, opened'⟩ := on_heap_ran () _ _ seen heap middle (still.trans opened) ran
          have left := records_elsewhere acc.memory entry.1.handle none rest none new fun record member =>
            inscribed record (List.mem_cons_of_mem _ member)
          obtain ⟨pool', next, acc', released, opened'', alone, ⟨frees', ignored'⟩, stock', updated⟩ :=
            ih limit freed middle _ opened' stock distinct' left (Nat.le_of_succ_le_succ short) (by omega)
          refine ⟨pool', next, acc', ?_, opened'', ?_, ⟨?_, ignored'.trans ignored⟩, stock',
            cleared_updated acc acc' entry rest live new counted updated⟩
          · rw [first_of_cons, releaseFrom, step_bind_ok _ _ pool seen _ loaded]
            have gave' : BlockAllocator.free (some entry.1.handle) seen = .ok () freed := gave
            rw [step_bind_ok _ _ seen freed _ gave', Option.bind_some]
            exact released
          · -- the frees alone do without the read, which does not touch the heap
            rw [← alone]
            refine after_calls_heap (surrenders (handlesOf rest)) (surrenders_going _) _ _ ?_
            rw [opened']
            have first := (on_heap_open () (Heap.free (some entry.1.handle)) pool heap opened).2
            rw [attempt_ok _ heap middle () ran] at first
            exact first
          · rw [List.length_cons]
            omega

theorem harmony_clears (config : PoolConfig) (geometry : Geometry config) (pool : Pool) (lists : Nat → LinkedList)
    (known : Understanding) (acc : Account) (harmony : Harmony config pool lists known acc) :
    ClearsOut config pool lists := by
  have store := pool_store config geometry
  have telling := stocked_telling config geometry
  intro which
  obtain ⟨heap, opened, inventory⟩ := harmony.stocked
  have counts := metrics_shown pool heap opened
  have entries := harmony_found config geometry pool lists known acc harmony
  refine ⟨known.sequences which, heap.metrics, entries which, counts, fun room => ?_⟩
  have spells := harmony.spells which
  have bound := distinct_handles_bound (handlesOf (known.sequences which)) spells.distinct
  rw [handlesOf, List.length_map] at bound
  obtain ⟨pool', next, acc', ran, opened', alone, counted, inventory', updated⟩ := release_from_frees config geometry walkLimit
    (known.sequences which) pool heap acc opened inventory spells.distinct spells.inscribed bound room
  have stocked' : Stocked config pool' acc' := ⟨next, opened', inventory'⟩
  rw [← spells.head] at ran
  refine ⟨pool', step_bind_ok _ _ pool pool' _ ran, ?_⟩
  have elsewhere (h : Handle) (other : h ∉ handlesOf (known.sequences which)) : acc'.memory h = acc.memory h :=
    updated.elsewhere h other List.not_mem_nil
  have live (h : Handle) : Live pool' h ↔ Live pool h ∧ h ∉ handlesOf (known.sequences which) := by
    rw [telling.live pool' acc' h stocked', telling.live pool acc h harmony.stocked,
      updated_live acc acc' {} _ [] (spells_nothing acc'.memory) updated h]
    simp [handlesOf]
  exact {
    frees := opened'.trans alone.symm
    once := spells.distinct
    live := live
    counted := ⟨heap.metrics, next.metrics, counts, metrics_shown pool' next opened',
      by rw [handlesOf, List.length_map]; exact counted.1, counted.2⟩
    lists := by
      intro i different
      refine ⟨known.sequences i, entries i, entries_spelled store pool' acc' (lists i) _ stocked' ?_⟩
      exact spells_elsewhere acc.memory acc'.memory (lists i) _ (harmony.spells i) fun h member =>
        elsewhere h (harmony.apart i which different h member)
    reads := by
      intro h offset len other
      exact stocked_reads_same config geometry pool pool' acc acc' h offset len harmony.stocked stocked' (elsewhere h other)
    vacant := by
      intro owned
      have nothing (h : Handle) : acc'.memory h = none := by
        cases found : acc'.memory h with
        | none => rfl
        | some bytes =>
            have stays := (live h).mp ((telling.live pool' acc' h stocked').mpr ⟨bytes, found⟩)
            exact absurd (owned h stays.1) stays.2
      exact emptied_blocks config geometry pool' acc' stocked' nothing }

theorem clearing_releases_the_list {α : Type} (config : PoolConfig) (valid : config.Valid) (counter : PoolCounter) :
    ∃ pool next, Pool.init config counter = .ok (.ok pool) next ∧
      ∀ deeds : List (Deed α), Afterwards (ClearsOut config) pool (fun _ => {}) [] deeds := by
  have geometry := valid_geometry config valid
  obtain ⟨pool, next, made, stocked⟩ := init_stocked config valid counter
  have harmony := start_harmony config pool stocked
  exact ⟨pool, next, made, fun deeds =>
    deeds_lead config geometry (ClearsOut config) (harmony_clears config geometry) deeds pool _ Understanding.start _ harmony⟩

theorem clearing_releases_the_list_between_others :
    (PoolConfig.mk 200 8 8 .bestFit true).Valid ∧
      ∃ pool next reached lists, Pool.init (PoolConfig.mk 200 8 8 .bestFit true) ⟨3⟩ = .ok (.ok pool) next ∧
        carriedOut [] (fun _ => {})
          ([.list 0 (.pushBack 7), .call (.alloc 5), .list 1 (.pushBack 9), .list 0 (.pushBack 8),
            .call (.write ⟨⟨3⟩, 1, 0⟩ 2 [1, 2]), .list 0 (.remove 7)] : List (Deed Unit)) pool = some (reached, lists) ∧
        ClearsOut (PoolConfig.mk 200 8 8 .bestFit true) reached lists := by
  have valid : (PoolConfig.mk 200 8 8 .bestFit true).Valid := by rfl
  obtain ⟨pool, next, made, clears⟩ := @clearing_releases_the_list Unit (PoolConfig.mk 200 8 8 .bestFit true) valid ⟨3⟩
  generalize sofar : ([.list 0 (.pushBack 7), .call (.alloc 5), .list 1 (.pushBack 9), .list 0 (.pushBack 8),
    .call (.write ⟨⟨3⟩, 1, 0⟩ 2 [1, 2]), .list 0 (.remove 7)] : List (Deed Unit)) = deeds
  have allowed : (carriedOut [] (fun _ => {}) deeds pool).isSome = true := by
    cases made
    cases sofar
    decide +kernel
  have going : ∀ call, Deed.call call ∈ deeds → call ≠ .deinit := by simp [← sofar]
  obtain ⟨⟨reached, lists⟩, carried⟩ := Option.isSome_iff_exists.mp allowed
  exact ⟨valid, pool, next, reached, lists, made, carried,
    afterwards_reached _ deeds [] pool reached _ lists going (clears deeds) carried⟩

end BlockPool
