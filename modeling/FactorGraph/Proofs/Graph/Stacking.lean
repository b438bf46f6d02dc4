import FactorGraph.Graph.Linear
import FactorGraph.Proofs.Graph.Shape
import FactorGraph.Proofs.Linear.Triplets

set_option autoImplicit false

namespace FactorGraph

namespace Layout

def Inside (layout : Layout) : Prop :=
  ∀ key span, layout.span? key = some span → span.offset + span.dimension ≤ layout.total

theorem of_values_inside {α : Type} [Scalar α] (values : Values α) : (ofValues values).Inside := by
  intro key span found
  obtain ⟨_, _, _, inside⟩ := span_of_values values key span found
  exact inside

end Layout

variable {α : Type}

theorem filter_map_idx {β γ : Type} (index : γ → ℕ) (start : ℕ) (f : ℕ → β → γ)
    (own : ∀ k b, index (f k b) = start + k) (l : List β) (i : ℕ) :
    (l.mapIdx f).filter (fun c => decide (index c = start + i)) = (l[i]?.map (f i)).toList := by
  induction l generalizing start f i with
  | nil => rfl
  | cons b rest ih =>
      have shifted (k : ℕ) (c : β) : index (f (k + 1) c) = start + 1 + k := by rw [own]; omega
      rw [List.mapIdx_cons]
      cases i with
      | zero =>
          have apart : (rest.mapIdx fun k => f (k + 1)).filter (fun c => decide (index c = start + 0)) = [] := by
            refine List.filter_eq_nil_iff.mpr fun c mem => ?_
            obtain ⟨k, _, rfl⟩ := List.mem_mapIdx.mp mem
            rw [own, decide_eq_true_eq]
            omega
          rw [List.filter_cons_of_pos (by simp [own]), apart]
          rfl
      | succ i =>
          have later : start + (i + 1) = start + 1 + i := by omega
          rw [List.filter_cons_of_neg (by rw [own, decide_eq_true_eq]; omega), later,
            ih (start + 1) (fun k => f (k + 1)) shifted i]
          rfl

-- The entries, taken row by row from `start` on, make up the rows, and none is left over.
structure Covers [Scalar α] (start : ℕ) (triplets : List (ℕ × ℕ × α)) (rows : List (SortedMap ℕ α)) : Prop where
  inside : ∀ e ∈ triplets, start ≤ e.1 ∧ e.1 < start + rows.length
  row : ∀ (i : ℕ) (bound : i < rows.length),
    SparseMatrix.rowOfEntries ((triplets.filter (·.1 = start + i)).map (·.2)) = rows[i]

variable [Scalar α]

theorem covers_append (start : ℕ) (here below : List (ℕ × ℕ × α)) (rows others : List (SortedMap ℕ α))
    (first : Covers start here rows) (second : Covers (start + rows.length) below others) :
    Covers start (here ++ below) (rows ++ others) := by
  constructor
  · intro e mem
    rw [List.length_append]
    rcases List.mem_append.mp mem with early | late
    · have := first.inside e early
      omega
    · have := second.inside e late
      omega
  · intro i bound
    rw [List.length_append] at bound
    rw [List.filter_append]
    -- The rows of the two lists do not overlap, so each row takes its entries from one of them.
    by_cases early : i < rows.length
    · have none : below.filter (·.1 = start + i) = [] := by
        refine List.filter_eq_nil_iff.mpr fun e mem => ?_
        have := second.inside e mem
        rw [decide_eq_true_eq]
        omega
      rw [none, List.append_nil, List.getElem_append_left early]
      exact first.row i early
    · have none : here.filter (·.1 = start + i) = [] := by
        refine List.filter_eq_nil_iff.mpr fun e mem => ?_
        have := first.inside e mem
        rw [decide_eq_true_eq]
        omega
      have place : start + i = start + rows.length + (i - rows.length) := by omega
      rw [none, List.nil_append, List.getElem_append_right (Nat.le_of_not_lt early), place]
      exact second.row (i - rows.length) (by omega)

theorem of_entries_covered (height cols : ℕ) (triplets : List (ℕ × ℕ × α)) (rows : List (SortedMap ℕ α))
    (length : rows.length = height) (covers : Covers 0 triplets rows) :
    SparseMatrix.ofEntries height cols triplets = ⟨cols, rows⟩ := by
  subst length
  refine congrArg (SparseMatrix.mk cols) (List.ext_getElem (by simp) fun i _ bound => ?_)
  rw [List.getElem_map, List.getElem_range, ← covers.row i bound, Nat.zero_add]

namespace LinearFactor

def entriesOfRow (blocks : List (Nat × Block α)) (i : Nat) : List (Nat × α) :=
  blocks.flatMap fun (offset, block) =>
    (block.rows[i]?.getD []).mapIdx fun j a => (offset + j, a)

def sparseRows (layout : Layout) (factor : LinearFactor α) :
    Except (GraphError α) (List (SortedMap Nat α)) := do
  let blocks ← placed layout factor.rows (factor.keys.zip factor.jacobians)
  return (List.range factor.rows).map fun i => SparseMatrix.rowOfEntries (entriesOfRow blocks i)

omit [Scalar α] in
theorem placed_places (layout : Layout) (height : Nat) (entries : List (Key × Block α)) (blocks : List (Nat × Block α))
    (laid : placed layout height entries = .ok blocks) : ∀ place ∈ blocks, ∃ key span, (key, place.2) ∈ entries ∧
      layout.span? key = some span ∧ place.1 = span.offset ∧ place.2.shape = (height, span.dimension) := by
  induction entries generalizing blocks with
  | nil =>
      cases laid
      simp
  | cons entry rest ih =>
      obtain ⟨key, block⟩ := entry
      rw [placed] at laid
      cases found : layout.span? key with
      | none => simp [found] at laid
      | some span =>
          simp only [found] at laid
          split at laid
          · rename_i shape
            obtain ⟨others, tail, same⟩ := (Outcome.bind_ok_iff _ _ _).mp laid
            cases same
            refine List.forall_mem_cons.mpr ⟨⟨key, span, List.mem_cons_self, found, rfl, shape⟩, fun place mem => ?_⟩
            obtain ⟨other, beyond, among, rest⟩ := ih others tail place mem
            exact ⟨other, beyond, List.mem_cons_of_mem _ among, rest⟩
          · cases laid

omit [Scalar α] in
theorem placed_inside (layout : Layout) (fits : layout.Inside) (height : Nat) (entries : List (Key × Block α))
    (blocks : List (Nat × Block α)) (laid : placed layout height entries = .ok blocks) :
    ∀ place ∈ blocks, place.1 + place.2.cols ≤ layout.total := by
  intro place mem
  obtain ⟨key, span, _, found, offset, shape⟩ := placed_places layout height entries blocks laid place mem
  have wide : place.2.cols = span.dimension := congrArg Prod.snd shape
  rw [offset, wide]
  exact fits key span found

theorem filter_block_triplets (start offset i : ℕ) (block : Block α) :
    ((blockTriplets start offset block).filter (·.1 = start + i)).map (·.2) =
      (block.rows[i]?.getD []).mapIdx fun j a => (offset + j, a) := by
  have column (col : ℕ) := filter_map_idx (fun e : ℕ × ℕ × α => e.1) start
    (fun row (entries : List α) => (start + row, offset + col, entries[col]?.getD 0)) (fun _ _ => rfl) block.rows i
  rw [blockTriplets, List.filter_flatMap, List.map_flatMap]
  simp only [column]
  cases row : block.rows[i]? with
  | none => simp
  | some entries =>
      have width : entries.length = block.cols := block.length_of_mem entries (List.mem_of_getElem? row)
      simp only [Option.map_some, Option.toList_some, List.map_cons, List.map_nil, Option.getD_some]
      rw [← List.map_eq_flatMap, ← width]
      refine List.ext_getElem (by simp) fun j _ inside => ?_
      rw [List.length_mapIdx] at inside
      simp [inside]

theorem mem_block_triplets (start offset : ℕ) (block : Block α) (e : ℕ × ℕ × α) (mem : e ∈ blockTriplets start offset block) :
    (start ≤ e.1 ∧ e.1 < start + block.height) ∧ e.2.1 < offset + block.cols := by
  obtain ⟨col, within, mem⟩ := List.mem_flatMap.mp mem
  obtain ⟨row, bound, rfl⟩ := List.mem_mapIdx.mp mem
  exact ⟨⟨Nat.le_add_right _ _, Nat.add_lt_add_left bound _⟩, Nat.add_lt_add_left (List.mem_range.mp within) _⟩

variable (layout : Layout) (start : ℕ) (factor : LinearFactor α)

theorem triplets_cover (rows : List (SortedMap ℕ α)) (assembled : factor.sparseRows layout = .ok rows) :
    rows.length = factor.rows ∧ ∃ here, factor.triplets layout start = .ok here ∧ Covers start here rows ∧
      (layout.Inside → ∀ e ∈ here, e.2.1 < layout.total) := by
  obtain ⟨blocks, laid, same⟩ := (Outcome.bind_ok_iff _ _ _).mp assembled
  cases same
  refine ⟨by simp, _, by rw [triplets, laid]; rfl, ⟨fun e mem => ?_, fun i bound => ?_⟩, fun fits e mem => ?_⟩
  · obtain ⟨⟨offset, block⟩, among, mem⟩ := List.mem_flatMap.mp mem
    obtain ⟨_, _, _, _, _, shape⟩ := placed_places layout factor.rows _ blocks laid _ among
    have tall : block.height = factor.rows := congrArg Prod.fst shape
    rw [List.length_map, List.length_range, ← tall]
    exact (mem_block_triplets start offset block e mem).1
  · rw [List.getElem_map, List.getElem_range, List.filter_flatMap, List.map_flatMap]
    simp only [filter_block_triplets]
    rfl
  · obtain ⟨⟨offset, block⟩, among, mem⟩ := List.mem_flatMap.mp mem
    exact (mem_block_triplets start offset block e mem).2.trans_le (placed_inside layout fits factor.rows _ blocks laid _ among)

theorem sparse_rows_of_triplets (here : List (ℕ × ℕ × α)) (made : factor.triplets layout start = .ok here) :
    ∃ rows, factor.sparseRows layout = .ok rows := by
  obtain ⟨blocks, laid, _⟩ := (Outcome.bind_ok_iff _ _ _).mp made
  exact ⟨_, by rw [sparseRows, laid]; rfl⟩

end LinearFactor

namespace LinearGraph

section Stacked

variable (layout : Layout) (factors : List (LinearFactor α)) (start : ℕ)

theorem stacked_covers (lists : List (List (SortedMap ℕ α)))
    (each : List.Forall₂ (fun factor rows => factor.sparseRows layout = .ok rows) factors lists) :
    lists.flatten.length = rowCount factors ∧ ∃ triplets, stacked layout start factors = .ok triplets ∧
      Covers start triplets lists.flatten ∧ (layout.Inside → ∀ e ∈ triplets, e.2.1 < layout.total) := by
  induction each generalizing start with
  | nil => exact ⟨rfl, [], rfl, ⟨by simp, by simp⟩, by simp⟩
  | @cons factor rows factors lists assembled others ih =>
      obtain ⟨height, here, made, covers, within⟩ := factor.triplets_cover layout start rows assembled
      obtain ⟨heights, below, rest, later, beyond⟩ := ih (start + factor.rows)
      refine ⟨by simp [rowCount, height, heights], here ++ below, ?_, ?_, fun fits e mem => ?_⟩
      · rw [stacked, made, Outcome.ok_bind, rest]
        rfl
      · exact covers_append start here below rows lists.flatten covers (height.symm ▸ later)
      · rcases List.mem_append.mp mem with early | late
        · exact within fits e early
        · exact beyond fits e late

theorem rows_of_stacked (triplets : List (ℕ × ℕ × α)) (done : stacked layout start factors = .ok triplets) :
    ∃ lists, List.Forall₂ (fun factor rows => factor.sparseRows layout = .ok rows) factors lists := by
  induction factors generalizing start triplets with
  | nil => exact ⟨[], .nil⟩
  | cons factor rest ih =>
      rw [stacked] at done
      obtain ⟨here, made, later⟩ := (Outcome.bind_ok_iff _ _ _).mp done
      obtain ⟨below, others, _⟩ := (Outcome.bind_ok_iff _ _ _).mp later
      obtain ⟨rows, assembled⟩ := factor.sparse_rows_of_triplets layout start here made
      obtain ⟨lists, each⟩ := ih (start + factor.rows) below others
      exact ⟨rows :: lists, .cons assembled each⟩

end Stacked

variable (graph : LinearGraph α) (layout : Layout)

theorem to_sparse_rows_of_ok (system : LinearSystem α) (assembled : graph.toSparse layout = .ok system) :
    ∃ lists, List.Forall₂ (fun factor rows => factor.sparseRows layout = .ok rows) graph.equalities lists ∧
      system = ⟨⟨layout.total, lists.flatten⟩, graph.equalities.flatMap (·.rhs)⟩ := by
  obtain ⟨triplets, done, made⟩ := (Outcome.bind_ok_iff _ _ _).mp assembled
  obtain ⟨lists, each⟩ := rows_of_stacked layout graph.equalities 0 triplets done
  obtain ⟨length, other, again, covers, _⟩ := stacked_covers layout graph.equalities 0 lists each
  cases done.symm.trans again
  refine ⟨lists, each, ?_⟩
  rw [← of_entries_covered _ layout.total triplets lists.flatten length covers]
  cases found : SparseMatrix.ofTriplets? (rowCount graph.equalities) layout.total triplets with
  | none => simp [found] at made
  | some jacobian =>
      obtain ⟨_, rfl⟩ := (SparseMatrix.of_triplets_ok_iff _ _ _ _).mp found
      simp only [found] at made
      cases made
      rfl

theorem to_sparse_of_rows (fits : layout.Inside) (lists : List (List (SortedMap ℕ α)))
    (each : List.Forall₂ (fun factor rows => factor.sparseRows layout = .ok rows) graph.equalities lists) :
    graph.toSparse layout = .ok ⟨⟨layout.total, lists.flatten⟩, graph.equalities.flatMap (·.rhs)⟩ := by
  obtain ⟨length, triplets, done, covers, within⟩ := stacked_covers layout graph.equalities 0 lists each
  have inside : ∀ e ∈ triplets, e.1 < rowCount graph.equalities ∧ e.2.1 < layout.total := fun e mem =>
    ⟨by rw [← length, ← Nat.zero_add lists.flatten.length]; exact (covers.inside e mem).2, within fits e mem⟩
  have found := (SparseMatrix.of_triplets_ok_iff _ _ _ _).mpr
    ⟨inside, of_entries_covered _ layout.total triplets lists.flatten length covers⟩
  rw [toSparse, done, Outcome.ok_bind]
  simp only [found]
  rfl

end LinearGraph

end FactorGraph
