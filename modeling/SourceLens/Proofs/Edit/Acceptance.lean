import SourceLens.Proofs.Edit.Application

/-!
# Which edits are accepted

Overlap is only looked for between neighbours, once the edits are sorted.  That is enough: edits that
are not inverted and follow each other in order are apart from all the others too, and edits that are
apart from each other are in order once they are sorted by start and then by end.  The end matters for
an insertion at the start of a replacement, which has to come first.

What is given back is the stable sort of the edits.  A stable sort is determined by the order of the
spans and by the edits of each span, so there is only one.
-/

namespace SourceLens

/-- Sorting keeps the order of values that are tied with each other. -/
theorem filter_mergeSort {α : Type} {le : α → α → Bool}
    (trans : ∀ first second third, le first second = true → le second third = true →
      le first third = true)
    (total : ∀ first second, (le first second || le second first) = true) {test : α → Bool}
    (tied : ∀ first second, test first = true → test second = true → le first second = true)
    (values : List α) : (values.mergeSort le).filter test = values.filter test := by
  have inAnyOrder : (values.filter test).Pairwise fun first second => le first second = true := by
    apply List.pairwise_of_forall_mem_list
    intro first firstMember second secondMember
    exact tied first second (List.of_mem_filter firstMember) (List.of_mem_filter secondMember)
  have kept := (List.sublist_mergeSort trans total inAnyOrder List.filter_sublist).filter test
  rw [List.filter_filter] at kept
  simp only [Bool.and_self] at kept
  have sameLength := ((List.mergeSort_perm values le).filter test).length_eq
  exact (kept.eq_of_length sameLength.symm).symm

namespace Edit

/-- Whether two edits overlap: each starts before the other one ends. -/
def Overlaps (first second : Edit) : Prop :=
  first.span.start < second.span.stop ∧ second.span.start < first.span.stop

instance (first second : Edit) : Decidable (first.Overlaps second) :=
  inferInstanceAs (Decidable (_ ∧ _))

theorem not_overlaps_iff {first second : Edit} : ¬first.Overlaps second ↔ first.Apart second := by
  unfold Overlaps Apart
  omega

/-- Whether edits are another list in the order of their starts and then of their ends, where edits of
one span keep their order. -/
structure IsStableSort (edits sorted : List Edit) : Prop where
  perm : sorted.Perm edits
  ordered : sorted.Pairwise fun first second => first.span.start < second.span.start ∨
    first.span.start = second.span.start ∧ first.span.stop ≤ second.span.stop
  stable : ∀ span, (sorted.filter fun edit => edit.span = span) =
    edits.filter fun edit => edit.span = span

/-- Sorting keeps the edits of one span in their order. -/
theorem filter_span_mergeSort (edits : List Edit) (span : Span) :
    ((edits.mergeSort before).filter fun edit => edit.span = span) =
      edits.filter fun edit => edit.span = span := by
  apply filter_mergeSort before_trans before_total
  intro first second firstSpan secondSpan
  rw [decide_eq_true_eq] at firstSpan secondSpan
  rw [before_iff, firstSpan, secondSpan]
  omega

theorem isStableSort_mergeSort (edits : List Edit) : IsStableSort edits (edits.mergeSort before) where
  perm := List.mergeSort_perm edits before
  ordered := (pairwise_mergeSort_before edits).imp before_iff.mp
  stable := filter_span_mergeSort edits

theorem span_eq_of_ordered {first second : Edit}
    (forth : first.span.start < second.span.start ∨
      first.span.start = second.span.start ∧ first.span.stop ≤ second.span.stop)
    (back : second.span.start < first.span.start ∨
      second.span.start = first.span.start ∧ second.span.stop ≤ first.span.stop) :
    first.span = second.span := by
  rcases first with ⟨⟨start, stop⟩, newText⟩
  rcases second with ⟨⟨start', stop'⟩, newText'⟩
  simp only at forth back
  simp only [Span.mk.injEq]
  omega

/-- Of two stable sorts of one list, the first edits are the same. -/
theorem IsStableSort.head_eq {edits rest rest' : List Edit} {first first' : Edit}
    (isSort : IsStableSort edits (first :: rest)) (isSort' : IsStableSort edits (first' :: rest')) :
    first = first' := by
  have sameEdits := isSort.perm.trans isSort'.perm.symm
  -- Each of the two comes later in the list of the other, unless they are of one span.
  have sameSpan : first.span = first'.span := by
    by_contra different
    have member : first ∈ rest' := by
      rcases List.mem_cons.mp (sameEdits.mem_iff.mp List.mem_cons_self) with same | member
      · exact absurd (congrArg Edit.span same) different
      · exact member
    have member' : first' ∈ rest := by
      rcases List.mem_cons.mp (sameEdits.mem_iff.mpr List.mem_cons_self) with same | member
      · exact absurd (congrArg Edit.span same).symm different
      · exact member
    have ordered := (List.pairwise_cons.mp isSort.ordered).1 first' member'
    have ordered' := (List.pairwise_cons.mp isSort'.ordered).1 first member
    exact different (span_eq_of_ordered ordered ordered')
  have sameFilter := (isSort.stable first.span).trans (isSort'.stable first.span).symm
  rw [List.filter_cons_of_pos (by simp), List.filter_cons_of_pos (by simp [sameSpan])] at sameFilter
  exact (List.cons.inj sameFilter).1

/-- A list has one stable sort. -/
theorem IsStableSort.unique {edits sorted sorted' : List Edit} (isSort : IsStableSort edits sorted)
    (isSort' : IsStableSort edits sorted') : sorted = sorted' := by
  induction sorted generalizing edits sorted' with
  | nil =>
      have sameEdits := isSort.perm.trans isSort'.perm.symm
      exact sameEdits.nil_eq
  | cons first rest ih =>
      cases sorted' with
      | nil =>
          have sameEdits := isSort.perm.trans isSort'.perm.symm
          exact absurd sameEdits.symm.nil_eq (by simp)
      | cons first' rest' =>
          obtain rfl := isSort.head_eq isSort'
          have tail : ∀ {rest'}, IsStableSort edits (first :: rest') → IsStableSort rest rest' := by
            intro rest' isSort'
            refine ⟨?_, isSort'.ordered.tail, ?_⟩
            · exact (isSort'.perm.trans isSort.perm.symm).cons_inv
            · intro span
              have sameFilter := (isSort'.stable span).trans (isSort.stable span).symm
              simp only [List.filter_cons] at sameFilter
              split at sameFilter
              · exact (List.cons.inj sameFilter).2
              · exact sameFilter
          rw [ih (tail isSort) (tail isSort')]

/-- Edits that are not inverted and follow each other in order are all apart. -/
theorem InOrder.pairwise {edits : List Edit} (inOrder : InOrder edits)
    (upright : ∀ edit ∈ edits, edit.span.start ≤ edit.span.stop) :
    edits.Pairwise fun first second => first.span.stop ≤ second.span.start := by
  induction edits with
  | nil => exact .nil
  | cons edit edits ih =>
      rw [List.forall_mem_cons] at upright
      have later := ih inOrder.tail upright.2
      refine .cons ?_ later
      cases edits with
      | nil => simp
      | cons next edits =>
          have nextStarts := (List.isChain_cons_cons.mp inOrder).1
          have nextUpright := upright.2 next List.mem_cons_self
          intro other member
          rcases List.mem_cons.mp member with rfl | further
          · exact nextStarts
          · have otherStarts := (List.pairwise_cons.mp later).1 other further
            omega

/-- Edits are accepted exactly when each lies inside the text and no two of them overlap.  What is given
back is then the stable sort of the edits, in which each edit ends at or before the start of the next
one. -/
theorem normalize_accepts_iff_not_overlaps (edits : List Edit) (length : Nat) :
    ((∃ sorted, normalize edits length = .ok sorted) ↔
      (∀ edit ∈ edits, edit.span.start ≤ edit.span.stop ∧ edit.span.stop ≤ length) ∧
        edits.Pairwise fun first second => ¬first.Overlaps second) ∧
    ∀ sorted, normalize edits length = .ok sorted →
      (∀ other, IsStableSort edits other ↔ other = sorted) ∧ InOrder sorted := by
  refine ⟨⟨?_, ?_⟩, ?_⟩
  · rintro ⟨sorted, accepted⟩
    rcases normalize_eq_ok_iff.mp accepted with ⟨inside, rfl, inOrder⟩
    refine ⟨inside, ?_⟩
    have apart := inOrder.pairwise fun edit member => (inside edit (List.mem_mergeSort.mp member)).1
    rw [← (List.mergeSort_perm edits before).pairwise_iff fun notOverlaps overlaps =>
      notOverlaps overlaps.symm]
    exact apart.imp fun before => not_overlaps_iff.mpr (.inl before)
  · rintro ⟨inside, notOverlaps⟩
    exact exists_normalize_of_apart inside (notOverlaps.imp not_overlaps_iff.mp)
  · intro sorted accepted
    rcases normalize_eq_ok_iff.mp accepted with ⟨-, rfl, inOrder⟩
    have isSort := isStableSort_mergeSort edits
    refine ⟨fun other => ⟨fun isOther => isOther.unique isSort, ?_⟩, inOrder⟩
    rintro rfl
    exact isSort

/-- Two insertions at the start of a replacement are accepted, with the replacement before them in the
list and an edit that ends there behind them. -/
theorem normalize_accepts_touching_insertions :
    ∃ sorted, normalize
        [⟨⟨3, 5⟩, ['r']⟩, ⟨⟨3, 3⟩, ['b']⟩, ⟨⟨3, 3⟩, ['a']⟩, ⟨⟨0, 3⟩, []⟩] 5 = .ok sorted ∧
      IsStableSort [⟨⟨3, 5⟩, ['r']⟩, ⟨⟨3, 3⟩, ['b']⟩, ⟨⟨3, 3⟩, ['a']⟩, ⟨⟨0, 3⟩, []⟩] sorted ∧
      InOrder sorted := by
  rcases normalize_accepts_iff_not_overlaps
    [⟨⟨3, 5⟩, ['r']⟩, ⟨⟨3, 3⟩, ['b']⟩, ⟨⟨3, 3⟩, ['a']⟩, ⟨⟨0, 3⟩, []⟩] 5 with ⟨accepts, returns⟩
  rcases accepts.mpr ⟨by decide, by decide⟩ with ⟨sorted, accepted⟩
  rcases returns sorted accepted with ⟨isSort, inOrder⟩
  exact ⟨sorted, accepted, (isSort sorted).mpr rfl, inOrder⟩

end Edit

end SourceLens
