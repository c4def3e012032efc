import BlockPool.Proofs.OneMemory
import BlockPool.Proofs.ShadowRuns
import Mathlib.Logic.Function.Basic

set_option autoImplicit false

namespace BlockPool

open ShadowHeap

def MemoryMap.Shows {σ : Type} (map : MemoryMap σ) (a : σ) (e : Handle × List UInt8) : Prop :=
  ∀ i position, i < e.2.length → map.position a e.1 i = some position → e.2[i]? = some (map.bytes a position)

-- Byte i of what one entry records and byte j of what the other records are the same byte of the memory.
structure Overlapping {σ : Type} (map : MemoryMap σ) (a : σ) (e f : Handle × List UInt8) (i j : Nat) : Prop where
  left : i < e.2.length
  right : j < f.2.length
  shared : ∃ position, map.position a e.1 i = some position ∧ map.position a f.1 j = some position

theorem difference_same (position : Nat) (expected found : List UInt8) (long : expected.length = found.length)
    (none : difference position expected found = none) : expected = found := by
  induction expected generalizing position found with
  | nil => exact (List.length_eq_zero_iff.mp long.symm).symm
  | cons e rest ih =>
      cases found with
      | nil => cases long
      | cons f others =>
          rw [difference] at none
          by_cases same : e = f
          · rw [if_pos same] at none
            rw [same, ih (position + 1) others (Nat.succ.inj long) none]
          · rw [if_neg same] at none
            cases none

theorem accessed_position {σ : Type} (map : MemoryMap σ) (a : σ) (h : Handle) (offset len start i : Nat)
    (there : accessed (map.range a h) offset len = some start) : map.position a h (offset + i) = some (start + i) := by
  obtain ⟨⟨origin, size⟩, ranged, placed⟩ := Option.bind_eq_some_iff.mp there
  simp only at placed
  split at placed
  · cases placed
    rw [MemoryMap.position, ranged, Option.map_some, Nat.add_assoc]
  · cases placed

theorem shows_same {σ : Type} (map : MemoryMap σ) (a b : σ) (e : Handle × List UInt8) (still : map.Same a b)
    (shows : map.Shows b e) :
    map.Shows a e := by
  intro i position inside there
  rw [← still.bytes]
  refine shows i position inside ?_
  rwa [MemoryMap.position, still.range]

section Checks

variable {σ : Type} [BlockAllocator σ] (map : MemoryMap σ) (memory : OneMemory map)

include memory

-- A check always ends, changes nothing, and passes only what is in the memory.
theorem check_shows (a : σ) (h : Handle) (expected : List UInt8) (sound : map.sound a) :
    ∃ verdict b, checkContents h expected a = .ok verdict b ∧ map.Same a b ∧
      (verdict = .ok () → map.Shows a (h, expected)) := by
  cases start : accessed (map.range a h) 0 expected.length with
  | none =>
      obtain ⟨e, b, read, still⟩ := memory.readsOutside a h 0 expected.length sound start
      exact ⟨.error _, b, step_bind_ok _ _ a b _ read, still, nofun⟩
  | some first =>
      obtain ⟨found, b, read, still, same⟩ := memory.readsInside a h 0 expected.length first sound start
      cases differs : difference 0 expected found.toList with
      | some b' =>
          refine ⟨.error (.of h b'), b, (step_bind_ok _ _ a b _ read).trans ?_, still, nofun⟩
          simp only [differs]
          rfl
      | none =>
          refine ⟨.ok (), b, (step_bind_ok _ _ a b _ read).trans ?_, still, fun _ i position inside there => ?_⟩
          · simp only [differs]
            rfl
          · have recorded : expected = (List.range expected.length).map fun i => map.bytes a (first + i) :=
              (difference_same 0 expected found.toList (by simp) differs).trans same
            have lies := accessed_position map a h 0 expected.length first i start
            rw [Nat.zero_add] at lies
            cases lies.symm.trans there
            show expected[i]? = some (map.bytes a (first + i))
            rw [recorded, List.getElem?_map, List.getElem?_range inside, Option.map_some]

theorem verify_shows (entries : List (Handle × List UInt8)) (a : σ) (sound : map.sound a) :
    ∃ verdict b, verifyAll entries a = .ok verdict b ∧ (verdict = .ok () → ∀ e ∈ entries, map.Shows a e) := by
  induction entries generalizing a with
  | nil => exact ⟨.ok (), a, rfl, fun _ e inside => absurd inside List.not_mem_nil⟩
  | cons entry rest ih =>
      obtain ⟨verdict, b, checked, still, shows⟩ := check_shows map memory a entry.1 entry.2 sound
      cases verdict with
      | error d => exact ⟨.error d, b, step_bind_ok _ _ a b _ checked, nofun⟩
      | ok passed =>
          obtain ⟨verdict', c, verified, others⟩ := ih b still.sound
          refine ⟨verdict', c, (step_bind_ok _ _ a b _ checked).trans verified, fun passed' e inside => ?_⟩
          cases List.mem_cons.mp inside with
          | inl first => exact first ▸ shows rfl
          | inr later => exact shows_same map a b e still (others passed' e later)

end Checks

-- The fill of the allocation with that number; zero is the fill of none.
def fillAt : Nat → UInt8
  | 0 => 0
  | n + 1 => max (fillAt n + 1) 1

theorem greater_byte (a b : UInt8) : (max a b).toNat = max a.toNat b.toNat := by
  show (if a ≤ b then b else a).toNat = max a.toNat b.toNat
  by_cases less : a ≤ b
  · rw [if_pos less, Nat.max_eq_right (UInt8.le_iff_toNat_le.mp less)]
  · rw [UInt8.le_iff_toNat_le] at less
    rw [if_neg (UInt8.le_iff_toNat_le.not.mpr less), Nat.max_eq_left (Nat.le_of_not_le less)]

theorem fill_counts (n : Nat) : (fillAt (n + 1)).toNat = n % 255 + 1 := by
  induction n with
  | zero => rfl
  | succ n ih =>
      rw [fillAt, greater_byte, UInt8.toNat_add, ih, UInt8.toNat_one]
      omega

theorem fill_repeats (m n : Nat) (some : 0 < m) (some' : 0 < n) (same : fillAt m = fillAt n) : m % 255 = n % 255 := by
  obtain ⟨m, rfl⟩ := Nat.exists_eq_succ_of_ne_zero some.ne'
  obtain ⟨n, rfl⟩ := Nat.exists_eq_succ_of_ne_zero some'.ne'
  have numbers := congrArg UInt8.toNat same
  rw [fill_counts, fill_counts] at numbers
  omega

-- Each recorded byte is the fill of one of the allocations made so far, and two entries have none of these in common.
structure Filled (s : ShadowHeap) (count : Nat) (laid : Handle → List Nat) : Prop where
  fill : s.fill = fillAt count
  recorded : ∀ e ∈ s.live, e.2 = (laid e.1).map fillAt
  numbered : ∀ e ∈ s.live, ∀ n ∈ laid e.1, 0 < n ∧ n ≤ count
  apart : ∀ e ∈ s.live, ∀ f ∈ s.live, e.1 ≠ f.1 → ∀ n ∈ laid e.1, n ∉ laid f.1

theorem filled_fewer (s t : ShadowHeap) (count : Nat) (laid : Handle → List Nat) (right : Filled s count laid)
    (fill : t.fill = s.fill) (fewer : ∀ e ∈ t.live, e ∈ s.live) : Filled t count laid :=
  ⟨fill.trans right.fill, fun e inside => right.recorded e (fewer e inside), fun e inside => right.numbered e (fewer e inside),
    fun e inside f inside' => right.apart e (fewer e inside) f (fewer f inside')⟩

theorem filled_installed (s : ShadowHeap) (count : Nat) (laid : Handle → List Nat) (h : Handle) (kept : List UInt8)
    (old : List Nat) (size : Nat) (right : Filled s count laid) (new : h ∉ s.handles) (same : kept = old.map fillAt)
    (numbered : ∀ n ∈ old, 0 < n ∧ n ≤ count) (apart : ∀ e ∈ s.live, ∀ n ∈ laid e.1, n ∉ old) :
    Filled (s.installed h kept size) (count + 1)
      (Function.update laid h (old ++ List.replicate (size - kept.length) (count + 1))) := by
  have fill : s.refill.fill = fillAt (count + 1) := by rw [ShadowHeap.refill, fillAt, right.fill]
  have others (e : Handle × List UInt8) (inside : e ∈ s.live) : e.1 ≠ h :=
    fun equal => new (equal ▸ listed_handle s e inside)
  have bounded (n : Nat) (member : n ∈ old ++ List.replicate (size - kept.length) (count + 1)) : 0 < n ∧ n ≤ count + 1 := by
    cases List.mem_append.mp member with
    | inl before => exact ⟨(numbered n before).1, Nat.le_succ_of_le (numbered n before).2⟩
    | inr now =>
        rw [List.eq_of_mem_replicate now]
        exact ⟨Nat.succ_pos count, Nat.le_refl _⟩
  -- what is laid now has a number that nothing before it has
  have fresh (e : Handle × List UInt8) (inside : e ∈ s.live) (n : Nat) (member : n ∈ laid e.1) :
      n ∉ old ++ List.replicate (size - kept.length) (count + 1) := by
    intro both
    cases List.mem_append.mp both with
    | inl before => exact apart e inside n member before
    | inr now => exact absurd (right.numbered e inside n member).2 (by rw [List.eq_of_mem_replicate now]; omega)
  have members (e : Handle × List UInt8) (inside : e ∈ (s.installed h kept size).live) :
      e ∈ s.live ∨ e = (h, kept ++ List.replicate (size - kept.length) (fillAt (count + 1))) := by
    rw [← fill]
    exact (List.mem_append.mp inside).imp_right List.mem_singleton.mp
  refine ⟨fill, fun e inside => ?_, fun e inside => ?_, fun e inside f inside' differs n member => ?_⟩
  · rcases members e inside with before | rfl
    · rw [Function.update_of_ne (others e before)]
      exact right.recorded e before
    · simp only [Function.update_self, List.map_append, List.map_replicate, same]
  · rcases members e inside with before | rfl
    · rw [Function.update_of_ne (others e before)]
      exact fun n member => ⟨(right.numbered e before n member).1, Nat.le_succ_of_le (right.numbered e before n member).2⟩
    · rw [Function.update_self]
      exact bounded
  · rcases members e inside with before | rfl
    · rw [Function.update_of_ne (others e before)] at member
      rcases members f inside' with before' | rfl
      · rw [Function.update_of_ne (others f before')]
        exact right.apart e before f before' differs n member
      · rw [Function.update_self]
        exact fresh e before n member
    · rw [Function.update_self] at member
      rcases members f inside' with before' | rfl
      · rw [Function.update_of_ne (others f before')]
        exact fun other => fresh f before' n other member
      · exact absurd rfl differs

section Runs

variable {σ : Type} [BlockAllocator σ]

theorem filled_kept (s t : ShadowHeap) (count : Nat) (laid : Handle → List Nat) (h n : Handle) (contents : List UInt8)
    (size : Nat) (right : Filled s count laid) (inside : (h, contents) ∈ s.live) (fill : t.fill = s.fill)
    (left : ∀ e ∈ t.live, e ∈ s.live ∧ e.1 ≠ h) (new : n ∉ t.handles) :
    ∃ laid', Filled (t.installed n (contents.take size) size) (count + 1) laid' := by
  have recorded : contents = (laid h).map fillAt := right.recorded (h, contents) inside
  refine ⟨_, filled_installed t count laid n (contents.take size) ((laid h).take size) size
    (filled_fewer s t count laid right fill fun e member => (left e member).1) new ?_ (fun k member => ?_)
    fun e member k known => ?_⟩
  · rw [recorded, List.map_take]
  · exact right.numbered (h, contents) inside k (List.mem_of_mem_take member)
  · obtain ⟨before, differs⟩ := left e member
    exact fun other => right.apart e before (h, contents) inside differs k known (List.mem_of_mem_take other)

theorem became_filled (s s' : ShadowHeap) (op : Op) (a : σ) (count : Nat) (laid : Handle → List Nat) (became : Became s op a s')
    (right : Filled s count laid) : ∃ count' laid', Filled s' count' laid' ∧ count' ≤ count + if op.asks then 1 else 0 := by
  have left (h : Handle) : ∀ e ∈ (s.drop h).live, e ∈ s.live ∧ e.1 ≠ h := fun e member => by
    obtain ⟨inside, differs⟩ := List.mem_filter.mp member
    exact ⟨inside, of_decide_eq_true differs⟩
  cases became with
  | still => exact ⟨count, laid, right, Nat.le_add_right _ _⟩
  | entered h size asks new =>
      refine ⟨count + 1, _, filled_installed s count laid h [] [] size right new rfl nofun fun _ _ _ _ => List.not_mem_nil, ?_⟩
      rw [asks, if_pos rfl]
  | left h member ended =>
      exact ⟨count, laid, filled_fewer s (s.without h) count laid right rfl fun e inside => (left h e inside).1,
        Nat.le_add_right _ _⟩
  | reshaped h contents size asks inside =>
      have new : h ∉ (s.drop h).handles := fun member => ((dropped_handles s h h).mp member).2 rfl
      obtain ⟨laid', right'⟩ := filled_kept s (s.drop h) count laid h h contents size right inside rfl (left h) new
      refine ⟨count + 1, laid', right', ?_⟩
      rw [asks, if_pos rfl]
  | moved h n contents size asks inside new differs ended =>
      obtain ⟨laid', right'⟩ := filled_kept s (s.without h) count laid h n contents size right inside rfl (left h) new
      refine ⟨count + 1, laid', right', ?_⟩
      rw [asks, if_pos rfl]

theorem run_filled (ops : List Op) (s s' : ShadowHeap) (a b : σ) (count : Nat) (laid : Handle → List Nat)
    (right : Filled s count laid) (ran : s.run ops a = .ok (s', .ok ()) b) :
    ∃ count' laid', Filled s' count' laid' ∧ count' ≤ count + ops.countP Op.asks := by
  induction ops generalizing s a count laid with
  | nil =>
      cases ran
      exact ⟨count, laid, right, Nat.le_add_right _ _⟩
  | cons op rest ih =>
      obtain ⟨middle, c, applied, final⟩ := run_ran s s' a b op rest ran
      obtain ⟨count', laid', right', few⟩ := became_filled s middle op a count laid (apply_ran s middle a c op applied) right
      obtain ⟨count'', laid'', right'', few'⟩ := ih middle c count' laid' right' final
      refine ⟨count'', laid'', right'', ?_⟩
      rw [List.countP_cons]
      omega

end Runs

-- Where both entries show the byte that they share, two allocations of one fill laid it.
theorem hidden_repeats {σ : Type} (map : MemoryMap σ) (a : σ) (e f : Handle × List UInt8) (i j : Nat) (left right : List Nat)
    (overlapping : Overlapping map a e f i j) (shows : map.Shows a e) (shows' : map.Shows a f)
    (filled : e.2 = left.map fillAt) (filled' : f.2 = right.map fillAt) :
    ∃ m n, left[i]? = some m ∧ right[j]? = some n ∧ fillAt m = fillAt n := by
  obtain ⟨position, there, there'⟩ := overlapping.shared
  have byte : (left.map fillAt)[i]? = some (map.bytes a position) := filled ▸ shows i position overlapping.left there
  have byte' : (right.map fillAt)[j]? = some (map.bytes a position) := filled' ▸ shows' j position overlapping.right there'
  rw [List.getElem?_map, Option.map_eq_some_iff] at byte byte'
  obtain ⟨m, first, fill⟩ := byte
  obtain ⟨n, second, fill'⟩ := byte'
  exact ⟨m, n, first, second, fill.trans fill'.symm⟩

section Verdicts

variable {σ : Type} [BlockAllocator σ] (map : MemoryMap σ) (memory : OneMemory map)

def Told (a : σ) (s : ShadowHeap) (laid : Handle → List Nat) (e f : Handle × List UInt8) (i j : Nat) : Prop :=
  (∃ d b, s.verify a = .ok (.error d) b) ∨ ∃ m n, (laid e.1)[i]? = some m ∧ (laid f.1)[j]? = some n ∧
    m ≠ n ∧ m % 255 = n % 255

include memory

theorem overlap_told (a : σ) (s : ShadowHeap) (count : Nat) (laid : Handle → List Nat) (sound : map.sound a)
    (filled : Filled s count laid) (e f : Handle × List UInt8) (inside : e ∈ s.live) (inside' : f ∈ s.live)
    (apart : ∀ n ∈ laid e.1, n ∉ laid f.1) (i j : Nat) (overlapping : Overlapping map a e f i j) :
    Told a s laid e f i j := by
  obtain ⟨verdict, b, verified, shows⟩ := verify_shows map memory s.live a sound
  cases verdict with
  | error d => exact .inl ⟨d, b, verified⟩
  | ok passed =>
      obtain ⟨m, n, first, second, same⟩ := hidden_repeats map a e f i j (laid e.1) (laid f.1) overlapping
        (shows rfl e inside) (shows rfl f inside') (filled.recorded e inside) (filled.recorded f inside')
      have member := List.mem_of_getElem? first
      have member' := List.mem_of_getElem? second
      have some := (filled.numbered e inside m member).1
      have some' := (filled.numbered f inside' n member').1
      refine .inr ⟨m, n, first, second, ?_, fill_repeats m n some some' same⟩
      rintro rfl
      exact apart m member member'

omit memory in
theorem few_told (a : σ) (s : ShadowHeap) (count : Nat) (laid : Handle → List Nat) (filled : Filled s count laid)
    (few : count ≤ 255) (e f : Handle × List UInt8) (inside : e ∈ s.live) (inside' : f ∈ s.live) (i j : Nat)
    (told : Told a s laid e f i j) :
    ∃ d b, s.verify a = .ok (.error d) b := by
  refine told.resolve_right ?_
  rintro ⟨m, n, first, second, unequal, repeats⟩
  have bounds := filled.numbered e inside m (List.mem_of_getElem? first)
  have bounds' := filled.numbered f inside' n (List.mem_of_getElem? second)
  omega

-- So the check always tells after no more than 255 calls that ask for memory.
theorem overlaps_show_until_fills_repeat (ops : List Op) (a b : σ) (s : ShadowHeap)
    (ran : ({} : ShadowHeap).run ops a = .ok (s, .ok ()) b) (sound : map.sound b) :
    ∃ laid : Handle → List Nat,
      (∀ e ∈ s.live, e.2 = (laid e.1).map fillAt ∧ ∀ n ∈ laid e.1, 0 < n ∧ n ≤ ops.countP Op.asks) ∧
      (∀ e ∈ s.live, ∀ f ∈ s.live, e ≠ f → (∀ n ∈ laid e.1, n ∉ laid f.1) ∧
        ∀ i j, Overlapping map b e f i j → Told b s laid e f i j) ∧
      (ops.countP Op.asks ≤ 255 → ∀ e ∈ s.live, ∀ f ∈ s.live, e ≠ f → ∀ i j, Overlapping map b e f i j →
        ∃ d c, s.verify b = .ok (.error d) c) := by
  have empty : Filled {} 0 fun _ => [] := ⟨rfl, nofun, nofun, nofun⟩
  obtain ⟨count, laid, filled, few⟩ := run_filled ops {} s a b 0 _ empty ran
  have distinct := run_distinct ops {} s a b List.nodup_nil ran
  have apart (e f : Handle × List UInt8) (inside : e ∈ s.live) (inside' : f ∈ s.live) (differs : e ≠ f) :
    ∀ n ∈ laid e.1, n ∉ laid f.1 :=
    filled.apart e inside f inside' fun same => differs (List.inj_on_of_nodup_map distinct inside inside' same)
  have told (e f : Handle × List UInt8) (inside : e ∈ s.live) (inside' : f ∈ s.live) (differs : e ≠ f) :=
    overlap_told map memory b s count laid sound filled e f inside inside' (apart e f inside inside' differs)
  refine ⟨laid, fun e inside => ⟨filled.recorded e inside, fun n member => ?_⟩,
    fun e inside f inside' differs => ⟨apart e f inside inside' differs, told e f inside inside' differs⟩,
    fun small e inside f inside' differs i j overlapping => ?_⟩
  · obtain ⟨some, most⟩ := filled.numbered e inside n member
    exact ⟨some, by omega⟩
  · exact few_told b s count laid filled (by omega) e f inside inside' i j (told e f inside inside' differs i j overlapping)

end Verdicts

-- An allocator of which all blocks are one and the same byte.
structure OneByte where
  byte : UInt8 := 0
  known : List Handle := []
  issued : Nat := 0

namespace OneByte

def reaches (d : OneByte) (h : Handle) (offset len : Nat) : Bool := d.known.contains h && decide (offset + len ≤ 1)

def handle (number : Nat) : Handle := ⟨⟨1⟩, UInt32.ofNat number, 0⟩

def issue (size : Nat) : Step OneByte (Option Handle) := fun d =>
  if size = 1 then .ok (some (handle d.issued)) { d with known := d.known ++ [handle d.issued], issued := d.issued + 1 }
    else .ok none d

def forget (h : Handle) : Step OneByte Unit := fun d => .ok () { d with known := d.known.filter (· ≠ h) }

instance : BlockAllocator OneByte where
  alloc := issue
  free
    | none => pure ()
    | some h => forget h
  resize
    | none, size => issue size
    | some h, 0 => do
      forget h
      return none
    | some h, size => fun d => .ok (if size = 1 ∧ d.known.contains h then some h else none) d
  read h offset len d := .ok (if d.reaches h offset len then .ok (Vector.replicate len d.byte) else .error (.staleHandle h)) d
  write h offset data d :=
    if d.reaches h offset data.length then .ok (.ok ()) { d with byte := data.head?.getD d.byte }
      else .ok (.error (.staleHandle h)) d
  usableSize h d := .ok (if d.known.contains h then some 1 else none) d

theorem reaches_accessed (d : OneByte) (h : Handle) (offset len : Nat) :
    accessed (if d.known.contains h then some (0, 1) else none) offset len =
      if d.reaches h offset len then some offset else none := by
  by_cases known : d.known.contains h = true
  · simp only [reaches, accessed, known, if_true, Option.bind_some, Bool.true_and, decide_eq_true_eq, Nat.zero_add]
  · simp only [reaches, accessed, known, if_false, Option.bind_none, Bool.false_and, Bool.false_eq_true]

theorem reaches_inside (d : OneByte) (h : Handle) (offset len : Nat) (inside : d.reaches h offset len = true) :
    offset + len ≤ 1 :=
  of_decide_eq_true (Bool.and_eq_true_iff.mp inside).2

theorem read_reaches (d : OneByte) (h : Handle) (offset len : Nat) (inside : d.reaches h offset len = true) :
    BlockAllocator.read h offset len d = .ok (.ok (Vector.replicate len d.byte)) d := by
  simp only [BlockAllocator.read, inside, if_true]

theorem write_reaches (d : OneByte) (h : Handle) (offset : Nat) (data : List UInt8)
    (inside : d.reaches h offset data.length = true) :
    BlockAllocator.write h offset data d = .ok (.ok ()) { d with byte := data.head?.getD d.byte } := by
  simp only [BlockAllocator.write, inside, if_true]

def map : MemoryMap OneByte where
  bytes d position := if position = 0 then d.byte else 0
  range d h := if d.known.contains h then some (0, 1) else none
  sound _ := True

theorem still (d : OneByte) : map.Same d d := ⟨trivial, rfl, rfl⟩

theorem memory : OneMemory map := by
  refine ⟨fun d h offset len start _ there => ?_, fun d h offset len _ missed => ?_,
    fun d h offset data start _ there => ?_, fun d h offset data _ missed => ?_⟩
  · rw [map, reaches_accessed] at there
    split at there
    next inside =>
      cases there
      have short := reaches_inside d h offset len inside
      refine ⟨_, d, read_reaches d h offset len inside, still d, ?_⟩
      rw [Vector.toList_replicate, eq_comm]
      refine (List.map_eq_replicate_iff.mpr fun i member => if_pos ?_).trans (by rw [List.length_range])
      have below := List.mem_range.mp member
      omega
    next => cases there
  · rw [map, reaches_accessed] at missed
    split at missed
    next => cases missed
    next away =>
      refine ⟨.staleHandle h, d, ?_, still d⟩
      simp only [BlockAllocator.read, away, if_false, Bool.false_eq_true]
  · rw [map, reaches_accessed] at there
    split at there
    next inside =>
      cases there
      have short := reaches_inside d h offset data.length inside
      refine ⟨_, write_reaches d h offset data inside, trivial, funext fun position => ?_, rfl⟩
      match data, short with
      | [], _ => exact (ite_self _).symm
      | [byte], short =>
          obtain rfl : offset = 0 := by simpa using short
          cases position <;> rfl
    next => cases there
  · rw [map, reaches_accessed] at missed
    split at missed
    next => cases missed
    next away =>
      refine ⟨.staleHandle h, d, ?_, still d⟩
      simp only [BlockAllocator.write, away, if_false, Bool.false_eq_true]

def alone (count : Nat) : ShadowHeap := { live := [(handle 0, [1])], fill := fillAt count }

def first : OneByte := ⟨1, [handle 0], 1⟩

theorem alone_runs (rest : List Op) (times count : Nat) :
    (alone count).run (List.replicate times (.resize 0 1) ++ rest) first = (alone (count + times)).run rest first := by
  induction times generalizing count with
  | zero => rfl
  | succ times ih =>
      have applied : (alone count).apply (.resize 0 1) first = .ok (alone (count + 1), .ok ()) first := rfl
      rw [List.replicate_succ, List.cons_append]
      refine (step_bind_ok _ _ first first _ applied).trans ((ih (count + 1)).trans ?_)
      rw [Nat.add_right_comm, Nat.add_assoc]

def both (count : Nat) : ShadowHeap := { live := [(handle 0, [1]), (handle 1, [fillAt count])], fill := fillAt count }

def second (count : Nat) : OneByte := ⟨fillAt count, [handle 0, handle 1], 2⟩

theorem both_run (times : Nat) :
    ({} : ShadowHeap).run (.alloc 1 :: (List.replicate times (.resize 0 1) ++ [.alloc 1])) ({} : OneByte) =
      .ok (both (times + 2), .ok ()) (second (times + 2)) := by
  have began : ({} : ShadowHeap).apply (.alloc 1) ({} : OneByte) = .ok (alone 1, .ok ()) first := rfl
  have ended : (alone (times + 1)).apply (.alloc 1) first = .ok (both (times + 2), .ok ()) (second (times + 2)) := rfl
  refine (step_bind_ok _ _ _ first _ began).trans ((alone_runs [.alloc 1] times 1).trans ?_)
  rw [Nat.add_comm 1 times]
  exact step_bind_ok _ _ first _ _ ended

theorem both_overlap (count : Nat) : Overlapping map (second count) (handle 0, [1]) (handle 1, [fillAt count]) 0 0 :=
  ⟨Nat.one_pos, Nat.one_pos, 0, rfl, rfl⟩

end OneByte

open OneByte

theorem overlaps_show_until_fills_repeat_reshaped :
    ({} : ShadowHeap).run [.alloc 1, .resize 0 1, .alloc 1] ({} : OneByte) = .ok (both 3, .ok ()) (second 3) ∧
      Overlapping map (second 3) (handle 0, [1]) (handle 1, [fillAt 3]) 0 0 ∧
        ∃ d c, (both 3).verify (second 3) = .ok (.error d) c := by
  obtain ⟨_, _, _, few⟩ := overlaps_show_until_fills_repeat map memory _ _ _ _ (both_run 1) trivial
  exact ⟨both_run 1, both_overlap 3,
    few (by decide) _ List.mem_cons_self _ (List.mem_cons_of_mem _ List.mem_cons_self) (by decide) 0 0
    (both_overlap 3)⟩

-- After 255 calls the next allocation is given the fill of the first, and nobody sees that it has the byte of the first.
theorem repeated_fill_hides_overlap :
    ({} : ShadowHeap).run (.alloc 1 :: (List.replicate 254 (.resize 0 1) ++ [.alloc 1])) ({} : OneByte) =
      .ok (both 256, .ok ()) (second 256) ∧
      (∃ e ∈ (both 256).live, ∃ f ∈ (both 256).live, e ≠ f ∧ Overlapping map (second 256) e f 0 0) ∧
      (both 256).verify (second 256) = .ok (.ok ()) (second 256) := by
  refine ⟨both_run 254, ?_, ?_⟩
  · exact ⟨_, List.mem_cons_self, _, List.mem_cons_of_mem _ List.mem_cons_self, by decide, both_overlap 256⟩
  · have again : fillAt 256 = 1 := UInt8.toNat_inj.mp (fill_counts 255)
    rw [both, second, again]
    rfl

end BlockPool
