import BlockPool.Config
import Mathlib.Data.List.Basic

set_option autoImplicit false

namespace BlockPool

-- A pool as a plain list of blocks in address order. This machine knows no
-- headers, links or offsets; the header pool is measured against it.
structure Span where
  size : Nat
  free : Bool
deriving DecidableEq, Repr

def Span.fits (size : Nat) (span : Span) : Bool := span.free && decide (size ≤ span.size)

def pickSpan (fit : FitPolicy) (size : Nat) (spans : List Span) : Option Nat :=
  match fit with
  | .firstFit => spans.findIdx? (Span.fits size)
  | .bestFit =>
    match ((spans.filter (Span.fits size)).map Span.size).min? with
    | none => none
    | some least => spans.findIdx? fun span => span.fits size && span.size == least

def cutSpan (overhead size whole : Nat) : List Span :=
  if size + overhead < whole then [⟨size, false⟩, ⟨whole - size - overhead, true⟩] else [⟨whole, false⟩]

structure SpanPlacement where
  position : Nat
  split : Bool
  spans : List Span
deriving DecidableEq, Repr

def allocateSpan (fit : FitPolicy) (overhead size : Nat) (spans : List Span) : Option SpanPlacement :=
  match pickSpan fit size spans with
  | none => none
  | some position =>
    match spans.drop position with
    | [] => none
    | chosen :: after =>
      some ⟨position, decide (size + overhead < chosen.size), spans.take position ++ cutSpan overhead size chosen.size ++ after⟩

structure SpanMerge where
  survivor : Nat
  merges : Nat
  spans : List Span
deriving DecidableEq, Repr

-- A free block of `size` bytes takes in the nearest of its neighbours on one
-- side if that one is free: its size, how many it took in, who is left there.
def absorbSpan (overhead size : Nat) : List Span → Nat × Nat × List Span
  | ⟨more, true⟩ :: rest => (size + overhead + more, 1, rest)
  | neighbours => (size, 0, neighbours)

def releaseSpan (overhead position : Nat) (spans : List Span) : Option SpanMerge :=
  match spans.drop position with
  | ⟨size, false⟩ :: after =>
    let (grown, forward, behind) := absorbSpan overhead size after
    let (whole, backward, ahead) := absorbSpan overhead grown (spans.take position).reverse
    some ⟨ahead.length, forward + backward, ahead.reverse ++ ⟨whole, true⟩ :: behind⟩
  | _ => none

def Preferred (fit : FitPolicy) (size : Nat) (before : List Span) (chosen : Span) (after : List Span) : Prop :=
  match fit with
  | .firstFit => ∀ span ∈ before, span.fits size = false
  | .bestFit => (∀ span ∈ before, span.fits size = true → chosen.size < span.size) ∧
      ∀ span ∈ after, span.fits size = true → chosen.size ≤ span.size

theorem find_index_here {α : Type} (property : α → Bool) (before after : List α) (chosen : α)
    (earlier : ∀ other ∈ before, property other = false) (here : property chosen = true) :
    (before ++ chosen :: after).findIdx? property = some before.length := by
  have absent : before.findIdx? property = none := List.findIdx?_eq_none_iff.mpr earlier
  simp [List.findIdx?_append, absent, List.findIdx?_cons, here]

theorem pick_span_preferred (fit : FitPolicy) (size : Nat) (before after : List Span) (chosen : Span)
    (fits : chosen.fits size = true) (preferred : Preferred fit size before chosen after) :
    pickSpan fit size (before ++ chosen :: after) = some before.length := by
  cases fit with
  | firstFit => exact find_index_here _ before after chosen preferred fits
  | bestFit =>
      obtain ⟨earlier, later⟩ := preferred
      have least : (((before ++ chosen :: after).filter (Span.fits size)).map Span.size).min? = some chosen.size := by
        rw [List.min?_eq_some_iff]
        refine ⟨List.mem_map.mpr ⟨chosen, by simp [fits], rfl⟩, ?_⟩
        intro other member
        obtain ⟨span, kept, rfl⟩ := List.mem_map.mp member
        obtain ⟨present, spanFits⟩ := List.mem_filter.mp kept
        rcases List.mem_append.mp present with ahead | here
        · exact Nat.le_of_lt (earlier span ahead spanFits)
        · rcases List.mem_cons.mp here with same | behind
          · exact Nat.le_of_eq (congrArg Span.size same.symm)
          · exact later span behind spanFits
      simp only [pickSpan, least]
      apply find_index_here
      · intro span ahead
        by_cases spanFits : span.fits size = true
        · have larger := earlier span ahead spanFits
          have different : (span.size == chosen.size) = false := beq_false_of_ne (by omega)
          simp [different]
        · simp [spanFits]
      · simp [fits]

theorem pick_span_none (fit : FitPolicy) (size : Nat) (spans : List Span)
    (unfit : ∀ span ∈ spans, span.fits size = false) : pickSpan fit size spans = none := by
  cases fit with
  | firstFit => exact List.findIdx?_eq_none_iff.mpr unfit
  | bestFit =>
      have empty : spans.filter (Span.fits size) = [] := by
        rw [List.filter_eq_nil_iff]
        intro span member
        simp [unfit span member]
      simp [pickSpan, empty]

theorem allocate_span_none (fit : FitPolicy) (overhead size : Nat) (spans : List Span)
    (unfit : ∀ span ∈ spans, span.fits size = false) : allocateSpan fit overhead size spans = none := by
  rw [allocateSpan, pick_span_none fit size spans unfit]

theorem allocate_span_some (fit : FitPolicy) (overhead size : Nat) (before after : List Span) (chosen : Span)
    (fits : chosen.fits size = true) (preferred : Preferred fit size before chosen after) :
    allocateSpan fit overhead size (before ++ chosen :: after) =
      some ⟨before.length, decide (size + overhead < chosen.size), before ++ cutSpan overhead size chosen.size ++ after⟩ := by
  simp [allocateSpan, pick_span_preferred fit size before after chosen fits preferred]

theorem absorb_span_cases (overhead size : Nat) (neighbours : List Span) :
    (∃ more rest, neighbours = ⟨more, true⟩ :: rest ∧
      absorbSpan overhead size neighbours = (size + overhead + more, 1, rest)) ∨
    ((∀ span ∈ neighbours.head?, span.free = false) ∧ absorbSpan overhead size neighbours = (size, 0, neighbours)) := by
  cases neighbours with
  | nil => exact .inr ⟨by simp, rfl⟩
  | cons nearest rest =>
      obtain ⟨more, free⟩ := nearest
      cases free with
      | true => exact .inl ⟨more, rest, rfl, rfl⟩
      | false => exact .inr ⟨by simp, rfl⟩

theorem release_span_used (overhead size : Nat) (before after : List Span) :
    releaseSpan overhead before.length (before ++ ⟨size, false⟩ :: after) =
      let forward := absorbSpan overhead size after
      let backward := absorbSpan overhead forward.1 before.reverse
      some ⟨backward.2.2.length, forward.2.1 + backward.2.1,
        backward.2.2.reverse ++ ⟨backward.1, true⟩ :: forward.2.2⟩ := by
  simp [releaseSpan]

theorem release_span_free (overhead position : Nat) (spans : List Span)
    (unused : ∀ span ∈ spans[position]?, span.free = true) : releaseSpan overhead position spans = none := by
  cases rest : spans.drop position with
  | nil => simp only [releaseSpan, rest]
  | cons span after =>
      have here : spans[position]? = some span := by
        rw [← List.head?_drop, rest]
        rfl
      obtain ⟨size, free⟩ := span
      have isFree : free = true := unused _ here
      simp only [releaseSpan, rest, isFree]

end BlockPool
