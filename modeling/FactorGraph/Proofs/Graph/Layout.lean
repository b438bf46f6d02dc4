import FactorGraph.Proofs.Graph.Shape

set_option autoImplicit false

namespace FactorGraph

variable {α : Type}

def Span.range (span : Span) : List Nat := List.range' span.offset span.dimension

theorem Block.column_height (entries : List α) : (column entries).height = entries.length := List.length_map _

theorem Block.eq_column (step : Block α) (single : step.cols = 1) : column step.rows.flatten = step := by
  obtain ⟨cols, rows, wide⟩ := step
  cases single
  have rows_eq : rows.flatten.map (fun a => [a]) = rows := by
    induction rows with
    | nil => rfl
    | cons row rest ih =>
        obtain ⟨a, rfl⟩ := List.length_eq_one_iff.mp (wide row (by simp))
        simpa using ih fun other mem => wide other (by simp [mem])
  simp only [column, mk.injEq, true_and]
  exact rows_eq

variable [Scalar α]

-- The updates have the keys of the values, and for each of them one number in every dimension.
def Updates.Fits (updates : Updates α) (values : Values α) : Prop :=
  (updates.map fun _ delta => delta.length) = values.map fun _ value => value.dimension

theorem Updates.fits_iff (updates : Updates α) (values : Values α) : updates.Fits values ↔
    updates.entries.map (fun d => (d.1, d.2.length)) = values.entries.map fun e => (e.1, e.2.dimension) :=
  ⟨fun fits => congrArg SortedMap.entries fits, fun same => SortedMap.ext_entries _ _ same⟩

namespace Layout

section Places

variable (es : List (Key × Value α)) (offset : Nat)

theorem place_ranges : (place offset es).flatMap (·.2.range) = List.range' offset (es.map (·.2.dimension)).sum := by
  induction es generalizing offset with
  | nil => rfl
  | cons e rest ih =>
      rw [place, List.flatMap_cons, ih, List.map_cons, List.sum_cons]
      exact List.range'_append_1

theorem place_at (i : Nat) : (place offset es)[i]? =
    es[i]?.map fun e => (e.1, ⟨offset + ((es.take i).map (·.2.dimension)).sum, e.2.dimension⟩) := by
  induction es generalizing offset i with
  | nil => rfl
  | cons e rest ih =>
      cases i with
      | zero => rfl
      | succ i =>
          rw [place, List.getElem?_cons_succ, List.getElem?_cons_succ, ih]
          simp only [List.take_succ_cons, List.map_cons, List.sum_cons, Nat.add_assoc]

omit [Scalar α] in
theorem part_append (before after : List α) (span : Span) (length : before.length = span.offset) :
    part (before ++ after) span = after.take span.dimension := by
  rw [part, ← length, List.drop_left]

theorem parts_flatten (step : List α) (length : step.length = offset + (es.map (·.2.dimension)).sum) :
    ((place offset es).map fun e => part step e.2).flatten = step.drop offset := by
  induction es generalizing offset with
  | nil =>
      rw [List.drop_of_length_le (by simpa using length.le)]
      rfl
  | cons e rest ih =>
      rw [List.map_cons, List.sum_cons, ← Nat.add_assoc] at length
      rw [place, List.map_cons, List.flatten_cons, ih _ length, part, ← List.drop_drop, List.take_append_drop]

theorem parts_length (step : List α) (length : step.length = offset + (es.map (·.2.dimension)).sum) :
    (place offset es).map (fun e => (e.1, (part step e.2).length)) = es.map fun e => (e.1, e.2.dimension) := by
  induction es generalizing offset with
  | nil => rfl
  | cons e rest ih =>
      rw [List.map_cons, List.sum_cons, ← Nat.add_assoc] at length
      have first : (part step ⟨offset, e.2.dimension⟩).length = e.2.dimension := by
        simp only [part, List.length_take, List.length_drop]
        omega
      rw [place, List.map_cons, List.map_cons, ih _ length, first]

theorem parts_of_flatten (before : List α) (length : before.length = offset) (ds : List (Key × List α))
    (fits : ds.map (fun d => (d.1, d.2.length)) = es.map fun e => (e.1, e.2.dimension)) :
    (place offset es).map (fun e => (e.1, part (before ++ (ds.map (·.2)).flatten) e.2)) = ds := by
  induction es generalizing offset before ds with
  | nil => rw [List.map_eq_nil_iff.mp fits, place, List.map_nil]
  | cons e rest ih =>
      cases ds with
      | nil => cases fits
      | cons d others =>
          obtain ⟨key, delta⟩ := d
          simp only [List.map_cons, List.cons.injEq, Prod.mk.injEq] at fits
          obtain ⟨⟨rfl, wide⟩, fits⟩ := fits
          -- The first part is what follows `before`. For the others it comes before them as well.
          have first : part (before ++ (delta ++ (others.map (·.2)).flatten)) ⟨offset, e.2.dimension⟩ = delta := by
            rw [part_append before _ _ length, ← wide, List.take_left]
          have later := ih (offset + e.2.dimension) (before ++ delta) (by rw [List.length_append, length, wide]) others fits
          rw [List.append_assoc] at later
          rw [place, List.map_cons, List.map_cons, List.flatten_cons, first, later]

end Places

variable (values : Values α)

theorem total_eq : (ofValues values).total = (values.entries.map (·.2.dimension)).sum := by
  change values.dimension = _
  rw [dimension_eq, Values.shape, List.map_map]
  rfl

theorem spans_dimension :
    ((ofValues values).spans.map fun _ span => span.dimension) = values.map fun _ value => value.dimension := by
  refine SortedMap.ext_entries _ _ (List.ext_getElem? fun i => ?_)
  change ((place 0 values.entries).map _)[i]? = (values.entries.map _)[i]?
  rw [List.getElem?_map, List.getElem?_map, place_at, Option.map_map]
  rfl

theorem spans_ranges : (ofValues values).spans.values.flatMap Span.range = List.range (ofValues values).total := by
  change ((place 0 values.entries).map Prod.snd).flatMap Span.range = _
  rw [List.flatMap_map, place_ranges, total_eq, List.range_eq_range']

theorem spans_offset (i : Nat) : (ofValues values).spans.values[i]?.map Span.offset =
    values.values[i]?.map fun _ => ((values.values.take i).map Value.dimension).sum := by
  change ((place 0 values.entries).map Prod.snd)[i]?.map _ = (values.entries.map Prod.snd)[i]?.map _
  rw [List.getElem?_map, List.getElem?_map, place_at, Option.map_map, Option.map_map, Option.map_map]
  refine congrArg (Option.map · _) (funext fun _ => ?_)
  simp [SortedMap.values, ← List.map_take, Function.comp_def]

theorem column_of_one_key (column : Nat) : column < (ofValues values).total ↔
    ∃! key, ∃ span, (ofValues values).span? key = some span ∧ column ∈ span.range := by
  -- The ranges make up a list without repetitions, so a column in two of them would be there twice.
  have member : column ∈ (ofValues values).spans.entries.flatMap (·.2.range) ↔ column < (ofValues values).total := by
    rw [← List.mem_range, ← spans_ranges, SortedMap.values, List.flatMap_map]
  have once : ((ofValues values).spans.entries.flatMap (·.2.range)).Nodup := by
    have whole := spans_ranges values
    rw [SortedMap.values, List.flatMap_map] at whole
    rw [whole]
    exact List.nodup_range
  rw [← member, List.mem_flatMap]
  simp only [span?, SortedMap.get_eq_some_iff]
  constructor
  · rintro ⟨⟨key, span⟩, mem, here⟩
    refine ⟨key, ⟨span, mem, here⟩, ?_⟩
    rintro other ⟨second, mem', there⟩
    by_contra different
    have : Std.Symm (Function.onFun List.Disjoint fun e : Key × Span => e.2.range) := ⟨fun _ _ apart => apart.symm⟩
    have apart := (List.nodup_flatMap.mp once).2.forall mem' mem fun same => different (congrArg Prod.fst same)
    exact apart there here
  · rintro ⟨key, ⟨span, mem, here⟩, _⟩
    exact ⟨(key, span), mem, here⟩

section Split

omit [Scalar α] in
theorem split_error_iff (layout : Layout) (step : Block α) (e : GraphError α) : layout.split step = .error e ↔
    step.shape ≠ (layout.total, 1) ∧ e = .shape (.column step.shape layout.total) := by
  have shape : step.shape = (layout.total, 1) ↔ step.height = layout.total ∧ step.cols = 1 := Prod.mk_inj
  rw [split, Ne, shape]
  by_cases held : step.height = layout.total ∧ step.cols = 1
  · simp [held]
  · rw [if_neg held, Except.error.injEq, eq_comm, and_iff_right held]

omit [Scalar α] in
theorem split_shape (layout : Layout) (step : Block α) (updates : Updates α) (cut : layout.split step = .ok updates) :
    step.height = layout.total ∧ step.cols = 1 := by
  rw [split] at cut
  split at cut
  · assumption
  · cases cut

theorem join_shape (updates : Updates α) (fits : updates.Fits values) :
    (join updates).shape = ((ofValues values).total, 1) := by
  have lengths := congrArg (List.map Prod.snd) ((updates.fits_iff values).mp fits)
  rw [List.map_map, List.map_map] at lengths
  refine Prod.ext ((Block.column_height _).trans ?_) rfl
  rw [List.length_flatten, SortedMap.values, List.map_map, total_eq]
  exact congrArg List.sum lengths

theorem split_join (updates : Updates α) (fits : updates.Fits values) :
    (ofValues values).split (join updates) = .ok updates := by
  have length : updates.values.flatten.length = (ofValues values).total :=
    (Block.column_height _).symm.trans (congrArg Prod.fst (join_shape values updates fits))
  rw [join, split_column _ _ length, Except.ok.injEq]
  exact SortedMap.ext_entries _ _ (parts_of_flatten values.entries 0 [] rfl _ ((updates.fits_iff values).mp fits))

theorem split_ok_iff (step : Block α) (updates : Updates α) :
    (ofValues values).split step = .ok updates ↔ updates.Fits values ∧ join updates = step := by
  constructor
  · intro cut
    obtain ⟨height, single⟩ := split_shape _ step updates cut
    rw [← step.eq_column single] at cut height ⊢
    have length := (Block.column_height _).symm.trans height
    rw [split_column _ _ length, Except.ok.injEq] at cut
    rw [total_eq, ← Nat.zero_add (List.sum _)] at length
    subst cut
    refine ⟨(Updates.fits_iff _ _).mpr ?_, congrArg Block.column ?_⟩
    · change ((place 0 values.entries).map _).map _ = _
      rw [List.map_map]
      exact parts_length values.entries 0 _ length
    · change (((place 0 values.entries).map _).map Prod.snd).flatten = _
      rw [List.map_map]
      exact parts_flatten values.entries 0 _ length
  · rintro ⟨fits, rfl⟩
    exact split_join values updates fits

end Split

/-- The spans of the variables, in key order, are all columns: each begins where those before it end, and every column is
one of exactly one variable. A step of that height splits into exactly the updates that, joined, make it up. -/
theorem layout_partitions_columns (values : Values α) :
    let layout := ofValues values
    layout.total = values.dimension ∧
    (layout.spans.map fun _ span => span.dimension) = (values.map fun _ value => value.dimension) ∧
    layout.spans.values.flatMap Span.range = List.range layout.total ∧
    (∀ i : Nat, layout.spans.values[i]?.map Span.offset =
      values.values[i]?.map fun _ => ((values.values.take i).map Value.dimension).sum) ∧
    (∀ column : Nat, column < layout.total ↔ ∃! key, ∃ span, layout.span? key = some span ∧ column ∈ span.range) ∧
    (∀ (step : Block α) (updates : Updates α),
      layout.split step = .ok updates ↔ updates.Fits values ∧ join updates = step) ∧
    (∀ step : Block α, (∃ updates, layout.split step = .ok updates) ↔ step.shape = (layout.total, 1)) ∧
    ∀ (step : Block α) (e : GraphError α),
      layout.split step = .error e ↔ step.shape ≠ (layout.total, 1) ∧ e = .shape (.column step.shape layout.total) := by
  intro layout
  refine ⟨rfl, spans_dimension values, spans_ranges values, spans_offset values, column_of_one_key values,
    split_ok_iff values, fun step => ?_, split_error_iff layout⟩
  constructor
  · rintro ⟨updates, cut⟩
    obtain ⟨height, single⟩ := split_shape layout step updates cut
    exact Prod.ext height single
  · intro shape
    cases cut : layout.split step with
    | ok updates => exact ⟨updates, rfl⟩
    | error e => exact absurd shape ((split_error_iff layout step e).mp cut).1

example :
    let values : Values α := .ofList [(⟨'x', 0⟩, .pose2 1), (⟨'v', 0⟩, .vector []), (⟨'l', 0⟩, .point3 0)]
    (ofValues values).spans.values.map Span.range = [[0, 1, 2], [], [3, 4, 5]] := by
  rfl

end Layout

end FactorGraph
