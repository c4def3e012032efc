import BlockPool.Proofs.Chart
import BlockPool.Proofs.Steps

set_option autoImplicit false

namespace BlockPool

open Registry

theorem adjust_run (r : Registry) (id : BlockId) (change : Header → Header) (bound : id < r.headers.size) :
    adjust id change r = .ok () { r with headers := r.headers.modify id change } := by
  cases r
  exact if_pos bound

def relinked (headers : Array Header) (target : Option BlockId) (prev : BlockId) : Array Header :=
  match target with
  | none => headers
  | some id => headers.modify id fun h => { h with prev := some prev }

@[simp] theorem relinked_size (headers : Array Header) (target : Option BlockId) (prev : BlockId) :
    (relinked headers target prev).size = headers.size := by
  cases target <;> simp [relinked]

theorem relinked_read (headers : Array Header) (target : Option BlockId) (prev id : BlockId) :
    (relinked headers target prev)[id]? =
      if target = some id then headers[id]?.map fun h => { h with prev := some prev } else headers[id]? := by
  cases target with
  | none => simp [relinked]
  | some other => simp [relinked, Array.getElem?_modify]

theorem link_back_run (r : Registry) (target : Option BlockId) (prev : BlockId) (bound : ∀ id ∈ target, id < r.headers.size) :
    linkBack target prev r = .ok () { r with headers := relinked r.headers target prev } := by
  cases target with
  | none => rfl
  | some id => exact adjust_run r id _ (bound id rfl)

theorem relinked_elsewhere (headers : Array Header) (blocks : List LinkedSpan) (prev id : BlockId) (outside : id ∉ idsOf blocks) :
    (relinked headers (firstId blocks none) prev)[id]? = headers[id]? := by
  rw [relinked_read, if_neg]
  exact fun first => outside (first_id_member blocks id first)

theorem laid_relink (headers next : Array Header) (overhead offset : Nat) (old : Option BlockId) (prev : BlockId)
    (blocks : List LinkedSpan) (distinct : (idsOf blocks).Nodup) (laid : Laid headers (entries overhead old offset blocks none))
    (agree : ∀ id ∈ idsOf blocks, next[id]? = (relinked headers (firstId blocks none) prev)[id]?) :
    Laid next (entries overhead (some prev) offset blocks none) := by
  cases blocks with
  | nil => exact laid_nil next
  | cons block rest =>
      obtain ⟨id, span⟩ := block
      obtain ⟨read, tail⟩ := (laid_cons headers id _ _).mp laid
      obtain ⟨absent, _⟩ := List.nodup_cons.mp distinct
      refine (laid_cons next id _ _).mpr ⟨?_, ?_⟩
      · rw [agree id (by simp), relinked_read, first_id_cons, if_pos rfl, read]
        rfl
      · apply laid_frame headers next overhead (some id) none _ rest _ tail
        intro other member
        have different : id ≠ other := fun same => absent (same ▸ member)
        rw [agree other (by simp [member]), relinked_read, first_id_cons, if_neg (by simpa using different)]

theorem header_bind {β : Type} (r : Registry) (id : BlockId) (h : Header) (next : Header → Step Registry β)
    (read : r.header id = .ok h) : ((Step.query fun r => r.header id) >>= next) r = next h r :=
  query_bind (fun r => r.header id) next r h read

theorem header_read (r : Registry) (id : BlockId) (h : Header) (found : r.header id = .ok h) : r.headers[id]? = some h := by
  unfold Registry.header at found
  cases read : r.headers[id]? with
  | none =>
      rw [read] at found
      cases found
  | some other =>
      rw [read] at found
      cases found
      rfl

theorem mark_charted (config : PoolConfig) (r : Registry) (before after : List LinkedSpan) (id : BlockId) (size : Nat)
    (old value : Bool) (charted : Charted config r (before ++ (id, ⟨size, old⟩) :: after)) :
    ∃ next, adjust id (fun h => { h with free := value }) r = .ok () next ∧
      Charted config next (before ++ (id, ⟨size, value⟩) :: after) ∧
      next.headers.size = r.headers.size ∧ next.vacant = r.vacant := by
  have bound := charted_inside config r _ charted id (by simp)
  have read := charted_read config r before after id ⟨size, old⟩ charted
  obtain ⟨beforeOther, afterOther, vacantOther, _⟩ := charted_elsewhere config r before after id ⟨size, old⟩ charted
  have kept (other : BlockId) (different : other ≠ id) (change : Header → Header) :
      (r.headers.modify id change)[other]? = r.headers[other]? := by
    rw [Array.getElem?_modify, if_neg (Ne.symm different)]
  refine ⟨_, adjust_run r id _ bound, ?_, Array.size_modify, rfl⟩
  refine ⟨charted.capacity, charted.overhead, charted.fit, ?_, ?_, ?_, ?_, ?_⟩
  · have laid := charted.laid
    simp only [entries_append, entries, laid_append, laid_cons, first_id_cons] at laid ⊢
    refine ⟨laid_frame _ _ _ _ _ _ before (fun other member => kept other (beforeOther other member) _) laid.1, ?_, ?_⟩
    · rw [Array.getElem?_modify, if_pos rfl, read]
      simp
    · exact laid_frame _ _ _ _ _ _ after (fun other member => kept other (afterOther other member) _) laid.2.2
  · simpa using charted.ids
  · intro other member
    rw [kept other (vacantOther other member) _]
    exact charted.blank other member
  · simpa [first_id_append] using charted.first
  · simpa using charted.covers

theorem insert_run (config : PoolConfig) (r : Registry) (blocks : List LinkedSpan) (h : Header)
    (charted : Charted config r blocks) (few : r.headers.size < UInt32.size) :
    ∃ created headers vacant, Registry.insert h r = .ok created { r with headers, vacant } ∧
      headers[created]? = some h ∧ (∀ id, id ≠ created → headers[id]? = r.headers[id]?) ∧
      (created :: (idsOf blocks ++ vacant)).Perm (List.range headers.size) ∧
      (∀ id ∈ vacant, id ∈ r.vacant) ∧ (vacant = [] ∨ headers.size = r.headers.size) := by
  obtain ⟨headers, vacant, capacity, overhead, fit⟩ := r
  cases vacant with
  | nil =>
      refine ⟨headers.size, headers.push h, [], ?_, by simp, ?_, ?_, by simp, .inl rfl⟩
      · change EStateM.Result.ok (headers.size % UInt32.size) _ = _
        rw [Nat.mod_eq_of_lt few]
        rfl
      · intro id different
        rw [Array.getElem?_push, if_neg different]
      · rw [Array.size_push, List.range_succ]
        exact (List.perm_append_singleton _ _).symm.trans (charted.ids.append_right [headers.size])
  | cons id vacant =>
      have bound : id < headers.size := (charted_bound config _ blocks charted id).mp (by simp)
      refine ⟨id, headers.modify id (fun _ => h), vacant, ?_, ?_, ?_, ?_, fun other member => by simp [member],
        .inr Array.size_modify⟩
      · change (adjust id (fun _ => h) >>= fun _ => pure id) _ = _
        rw [step_bind_ok _ _ _ _ _ (adjust_run _ id _ bound), step_pure]
        rfl
      · rw [Array.getElem?_modify, if_pos rfl, Array.getElem?_eq_getElem bound]
        rfl
      · intro other different
        rw [Array.getElem?_modify, if_neg (Ne.symm different)]
      · rw [Array.size_modify]
        exact List.perm_middle.symm.trans charted.ids

def cutHeaders (headers : Array Header) (id created : BlockId) (size : Nat) (next : Option BlockId) : Array Header :=
  (relinked headers next created).modify id fun h => { h with size, next := some created }

theorem cut_headers_size (headers : Array Header) (id created : BlockId) (size : Nat) (next : Option BlockId) :
    (cutHeaders headers id created size next).size = headers.size := by
  rw [cutHeaders, Array.size_modify, relinked_size]

theorem cut_headers_elsewhere (headers : Array Header) (after : List LinkedSpan) (id created other : BlockId) (size : Nat)
    (notId : other ≠ id) (notAfter : other ∉ idsOf after) :
    (cutHeaders headers id created size (firstId after none))[other]? = headers[other]? := by
  rw [cutHeaders, Array.getElem?_modify, if_neg (Ne.symm notId), relinked_elsewhere headers after created other notAfter]

theorem cut_laid (config : PoolConfig) (r : Registry) (before after : List LinkedSpan) (id created : BlockId) (size whole : Nat)
    (free : Bool) (headers : Array Header) (charted : Charted config r (before ++ (id, ⟨whole, free⟩) :: after))
    (unused : created ∉ idsOf (before ++ (id, ⟨whole, free⟩) :: after))
    (kept : ∀ other, other ≠ created → headers[other]? = r.headers[other]?)
    (fresh : headers[created]? = some ⟨extent config.headerOverhead (spansOf before) + config.headerOverhead + size,
      whole - size - config.headerOverhead, true, some id, firstId after none⟩)
    (splits : size + config.headerOverhead < whole) :
    Laid (cutHeaders headers id created size (firstId after none)) (entries config.headerOverhead none 0
      (before ++ (id, ⟨size, free⟩) :: (created, ⟨whole - size - config.headerOverhead, true⟩) :: after) none) := by
  obtain ⟨beforeOther, afterOther, _, beforeAfter, _, afterDistinct⟩ :=
    charted_elsewhere config r before after id ⟨whole, free⟩ charted
  have idDifferent : id ≠ created := fun same => unused (by simp [← same])
  have afterDifferent : created ∉ idsOf after := fun member => unused (by simp [member])
  have laid := charted.laid
  simp only [entries_append, entries, laid_append, laid_cons, first_id_cons, Nat.zero_add] at laid ⊢
  refine ⟨?_, ?_, ?_, ?_⟩
  · refine laid_frame _ _ _ _ _ _ before (fun other member => ?_) laid.1
    rw [cut_headers_elsewhere headers after id created other size (beforeOther other member) (beforeAfter other member),
      kept other (fun same => unused (by simp [← same, member]))]
  · rw [cutHeaders, Array.getElem?_modify, if_pos rfl,
      relinked_elsewhere headers after created id (fun member => afterOther id member rfl),
      kept id idDifferent, laid.2.1]
    rfl
  · rw [cut_headers_elsewhere headers after id created created size (Ne.symm idDifferent) afterDifferent, fresh]
    simp only [Nat.add_assoc]
  · -- the blocks behind keep their offsets, only the first of them has a new neighbour
    have offsets : extent config.headerOverhead (spansOf before) + (config.headerOverhead + size) +
        (config.headerOverhead + (whole - size - config.headerOverhead)) =
          extent config.headerOverhead (spansOf before) + (config.headerOverhead + whole) := by omega
    rw [offsets]
    apply laid_relink headers _ config.headerOverhead _ (some id) created after afterDistinct
    · exact laid_frame _ _ _ _ _ _ after (fun other member => kept other (fun same => afterDifferent (same ▸ member))) laid.2.2
    · intro other member
      rw [cutHeaders, Array.getElem?_modify, if_neg (Ne.symm (afterOther other member))]

theorem split_run (config : PoolConfig) (geometry : Geometry config) (r : Registry) (before after : List LinkedSpan)
    (id created : BlockId) (size whole : Nat) (free : Bool) (headers : Array Header) (vacant : List BlockId)
    (charted : Charted config r (before ++ (id, ⟨whole, free⟩) :: after))
    (inserted : Registry.insert ⟨extent config.headerOverhead (spansOf before) + config.headerOverhead + size,
      whole - size - config.headerOverhead, true, some id, firstId after none⟩ r = .ok created { r with headers, vacant })
    (inside : ∀ other ∈ idsOf (before ++ (id, ⟨whole, free⟩) :: after), other < headers.size)
    (splits : size + config.headerOverhead < whole) :
    Registry.split id size r =
      .ok true { r with headers := cutHeaders headers id created size (firstId after none), vacant } := by
  have word := capacity_word config geometry
  have covers := charted.covers
  simp only [spans_of_append, spans_of_cons, extent_append, extent_cons] at covers
  have firstInside : ∀ other ∈ firstId after none, other < headers.size :=
    fun other first => inside other (by simp [first_id_member after other first])
  unfold Registry.split
  rw [header_bind r id _ _ (charted_header config r before after id _ charted), step_get_bind, charted.overhead,
    word_add_ok _ _ (by omega), step_lift_bind, if_neg (by simp only; omega)]
  simp only
  rw [word_add_ok _ _ (by omega), step_lift_bind, word_add_ok _ _ (by omega), step_lift_bind,
    step_bind_ok _ _ _ _ _ inserted, step_bind_ok _ _ _ _ _ (link_back_run _ _ created firstInside),
    step_bind_ok _ _ _ _ _ (adjust_run _ id _ (by simpa using inside id (by simp))), ← charted.overhead]
  rfl

-- Splitting puts a header for the rest behind the block, recycled or new.
theorem split_charted (config : PoolConfig) (geometry : Geometry config) (r : Registry) (before after : List LinkedSpan)
    (id : BlockId) (size whole : Nat) (free : Bool) (charted : Charted config r (before ++ (id, ⟨whole, free⟩) :: after))
    (few : r.headers.size < UInt32.size) (splits : size + config.headerOverhead < whole) :
    ∃ created next, Registry.split id size r = .ok true next ∧
      Charted config next (before ++ (id, ⟨size, free⟩) ::
        (created, ⟨whole - size - config.headerOverhead, true⟩) :: after) ∧
      (next.vacant = [] ∨ next.headers.size = r.headers.size) := by
  obtain ⟨_, _, vacantOther, _, vacantAfter, _⟩ := charted_elsewhere config r before after id ⟨whole, free⟩ charted
  obtain ⟨created, headers, vacant, inserted, fresh, kept, ids, recycled, grown⟩ := insert_run config r _
    ⟨extent config.headerOverhead (spansOf before) + config.headerOverhead + size, whole - size - config.headerOverhead,
      true, some id, firstId after none⟩ charted few
  have distinct := (List.nodup_cons.mp (ids.nodup_iff.mpr List.nodup_range)).1
  have unused : created ∉ idsOf (before ++ (id, ⟨whole, free⟩) :: after) :=
    fun member => distinct (List.mem_append_left _ member)
  have inside (other : BlockId) (member : other ∈ idsOf (before ++ (id, ⟨whole, free⟩) :: after)) : other < headers.size := by
    rw [← List.mem_range, ← ids.mem_iff]
    exact List.mem_cons_of_mem _ (List.mem_append_left _ member)
  refine ⟨created, { r with headers := cutHeaders headers id created size (firstId after none), vacant },
    split_run config geometry r before after id created size whole free headers vacant charted inserted inside splits, ?_, ?_⟩
  · refine ⟨charted.capacity, charted.overhead, charted.fit,
      cut_laid config r before after id created size whole free headers charted unused kept fresh splits, ?_, ?_, ?_, ?_⟩
    · rw [cut_headers_size]
      refine List.Perm.trans ?_ ids
      simpa using @List.perm_middle _ created (idsOf before ++ [id]) (idsOf after ++ vacant)
    · intro other member
      have waiting := recycled other member
      have notCreated : other ≠ created := fun same => distinct (same ▸ List.mem_append_right _ member)
      rw [cut_headers_elsewhere headers after id created other size (vacantOther other waiting) (vacantAfter other waiting),
        kept other notCreated]
      exact charted.blank other waiting
    · simpa [first_id_append] using charted.first
    · have covers := charted.covers
      simp only [spans_of_append, spans_of_cons, extent_append, extent_cons] at covers ⊢
      omega
  · rcases grown with empty | same
    · exact .inl empty
    · refine .inr ?_
      rw [← same, cut_headers_size]

theorem retire_run (r : Registry) (id : BlockId) (bound : id < r.headers.size) :
    retire id r = .ok () { r with
      headers := r.headers.modify id fun h => { h with size := 0, free := true, prev := none, next := none }
      vacant := id :: r.vacant } := by
  unfold retire
  rw [step_bind_ok _ _ _ _ _ (adjust_run r id _ bound)]
  rfl

def joinedHeaders (headers : Array Header) (id gone : BlockId) (size : Nat) (next : Option BlockId) : Array Header :=
  ((relinked headers next id).modify id fun h => { h with size, next }).modify gone
    fun h => { h with size := 0, free := true, prev := none, next := none }

theorem joined_headers_size (headers : Array Header) (id gone : BlockId) (size : Nat) (next : Option BlockId) :
    (joinedHeaders headers id gone size next).size = headers.size := by
  rw [joinedHeaders, Array.size_modify, Array.size_modify, relinked_size]

theorem joined_headers_elsewhere (headers : Array Header) (after : List LinkedSpan) (id gone other : BlockId) (size : Nat)
    (notId : other ≠ id) (notGone : other ≠ gone) (notAfter : other ∉ idsOf after) :
    (joinedHeaders headers id gone size (firstId after none))[other]? = headers[other]? := by
  rw [joinedHeaders, Array.getElem?_modify, if_neg (Ne.symm notGone), Array.getElem?_modify, if_neg (Ne.symm notId),
    relinked_elsewhere headers after id other notAfter]

theorem joined_laid (config : PoolConfig) (r : Registry) (before after : List LinkedSpan) (id gone : BlockId) (size more : Nat)
    (free taken : Bool) (charted : Charted config r (before ++ (id, ⟨size, free⟩) :: (gone, ⟨more, taken⟩) :: after))
    (different : id ≠ gone) (afterGone : ∀ other ∈ idsOf after, other ≠ gone) :
    Laid (joinedHeaders r.headers id gone (size + (config.headerOverhead + more)) (firstId after none))
      (entries config.headerOverhead none 0 (before ++ (id, ⟨size + config.headerOverhead + more, free⟩) :: after) none) := by
  obtain ⟨beforeOther, afterOther, _, beforeAfter, _, afterDistinct⟩ := charted_elsewhere config r before _ id _ charted
  have idAfter : id ∉ idsOf after := fun member => afterOther id (by simp [member]) rfl
  have laid := charted.laid
  simp only [entries_append, entries, laid_append, laid_cons, first_id_cons, Nat.zero_add] at laid ⊢
  refine ⟨?_, ?_, ?_⟩
  · refine laid_frame _ _ _ _ _ _ before (fun other member => ?_) laid.1
    have behind := beforeAfter other member
    simp only [ids_of_cons, List.mem_cons, not_or] at behind
    exact joined_headers_elsewhere r.headers after id gone other _ (beforeOther other member) behind.1 behind.2
  · rw [joinedHeaders, Array.getElem?_modify, if_neg (Ne.symm different), Array.getElem?_modify, if_pos rfl,
      relinked_elsewhere r.headers after id id idAfter, laid.2.1]
    simp only [Option.map_some, Nat.add_assoc]
  · have offsets :
      extent config.headerOverhead (spansOf before) + (config.headerOverhead + (size + config.headerOverhead + more)) =
        extent config.headerOverhead (spansOf before) + (config.headerOverhead + size) + (config.headerOverhead + more) := by omega
    rw [offsets]
    apply laid_relink r.headers _ config.headerOverhead _ (some gone) id after (List.nodup_cons.mp afterDistinct).2 laid.2.2.2
    intro other member
    rw [joinedHeaders, Array.getElem?_modify, if_neg (Ne.symm (afterGone other member)), Array.getElem?_modify,
      if_neg (Ne.symm (afterOther other (by simp [member])))]

theorem absorb_run (config : PoolConfig) (geometry : Geometry config) (r : Registry) (before after : List LinkedSpan)
    (id gone : BlockId) (size more : Nat) (free taken : Bool)
    (charted : Charted config r (before ++ (id, ⟨size, free⟩) :: (gone, ⟨more, taken⟩) :: after))
    (read : ∃ offset prev, r.header gone = .ok ⟨offset, more, taken, prev, firstId after none⟩) :
    absorbNext id r = .ok () { r with
      headers := joinedHeaders r.headers id gone (size + (config.headerOverhead + more)) (firstId after none)
      vacant := gone :: r.vacant } := by
  have word := capacity_word config geometry
  have covers := charted.covers
  simp only [spans_of_append, spans_of_cons, extent_append, extent_cons] at covers
  have inside (other : BlockId)
      (member : other ∈ idsOf (before ++ (id, ⟨size, free⟩) :: (gone, ⟨more, taken⟩) :: after)) :
      other < r.headers.size := charted_inside config r _ charted other member
  have firstInside : ∀ other ∈ firstId after none, other < r.headers.size :=
    fun other first => inside other (by simp [first_id_member after other first])
  obtain ⟨_, _, read⟩ := read
  unfold absorbNext
  rw [header_bind r id _ _ (charted_header config r before _ id _ charted)]
  simp only [first_id_cons]
  rw [header_bind r gone _ _ read, step_bind_ok _ _ _ _ _ (link_back_run r _ id firstInside), step_get_bind]
  simp only [charted.overhead]
  rw [word_add_ok _ _ (by omega), step_lift_bind, word_add_ok _ _ (by omega), step_lift_bind,
    step_bind_ok _ _ _ _ _ (adjust_run _ id _ (by simpa using inside id (by simp))),
    retire_run _ gone (by simpa using inside gone (by simp))]
  rfl

theorem absorb_charted (config : PoolConfig) (geometry : Geometry config) (r : Registry) (before after : List LinkedSpan)
    (id next : BlockId) (size more : Nat) (free taken : Bool)
    (charted : Charted config r (before ++ (id, ⟨size, free⟩) :: (next, ⟨more, taken⟩) :: after)) :
    ∃ final, absorbNext id r = .ok () final ∧
      Charted config final (before ++ (id, ⟨size + config.headerOverhead + more, free⟩) :: after) ∧
      final.headers.size = r.headers.size := by
  have regrouped : before ++ (id, ⟨size, free⟩) :: (next, ⟨more, taken⟩) :: after =
      (before ++ [(id, ⟨size, free⟩)]) ++ (next, ⟨more, taken⟩) :: after := by simp
  have charted' := regrouped ▸ charted
  obtain ⟨_, _, vacantOther, _, vacantAfter, _⟩ := charted_elsewhere config r before _ id _ charted
  obtain ⟨beforeNext, afterNext, vacantNext, _, _, _⟩ := charted_elsewhere config r _ after next _ charted'
  have different : id ≠ next := beforeNext id (by simp)
  have header := charted_header config r _ after next _ charted'
  refine ⟨_, absorb_run config geometry r before after id next size more free taken charted ⟨_, _, header⟩, ?_, ?_⟩
  · refine ⟨charted.capacity, charted.overhead, charted.fit,
      joined_laid config r before after id next size more free taken charted different afterNext, ?_, ?_, ?_, ?_⟩
    · rw [joined_headers_size]
      refine List.Perm.trans ?_ charted.ids
      simpa using (@List.perm_middle _ next (idsOf after) r.vacant).cons id |>.append_left (idsOf before)
    · intro other member
      rcases List.mem_cons.mp member with rfl | waiting
      · have nextAfter : other ∉ idsOf after := fun member => afterNext other member rfl
        refine ⟨extent config.headerOverhead (spansOf (before ++ [(id, ⟨size, free⟩)])), ?_⟩
        rw [joinedHeaders, Array.getElem?_modify, if_pos rfl, Array.getElem?_modify, if_neg different,
          relinked_elsewhere r.headers after id other nextAfter, charted_read config r _ after other _ charted']
        rfl
      · have behind := vacantAfter other waiting
        simp only [ids_of_cons, List.mem_cons, not_or] at behind
        rw [joined_headers_elsewhere r.headers after id next other _ (vacantOther other waiting)
          (vacantNext other waiting) behind.2]
        exact charted.blank other waiting
    · simpa [first_id_append] using charted.first
    · have covers := charted.covers
      simp only [spans_of_append, spans_of_cons, extent_append, extent_cons] at covers ⊢
      omega
  · rw [joined_headers_size]

end BlockPool
