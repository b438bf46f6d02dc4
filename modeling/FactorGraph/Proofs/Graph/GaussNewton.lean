import Mathlib
import FactorGraph.Proofs.Exact
import FactorGraph.Proofs.Graph.System

set_option autoImplicit false

namespace FactorGraph

theorem vector_zip_add (n : ℕ) (a b : List ℝ) (same : a.length = b.length) :
    vector n (List.zipWith (· + ·) a b) = vector n a + vector n b := by
  funext i
  by_cases inside : i.val < a.length
  · simp [vector, inside, same ▸ inside]
  · have beyond : b.length ≤ i.val := same ▸ not_lt.mp inside
    simp [vector, List.getElem?_eq_none (not_lt.mp inside), List.getElem?_eq_none beyond, List.getElem?_zipWith]

theorem squared_norm_neg (v : List ℝ) : Noise.squaredNorm (v.map (- ·)) = Noise.squaredNorm v := by
  simp only [Noise.squaredNorm, dot_eq_sum, List.zipWith_map, neg_mul_neg]

theorem squared_norm_flat (lists : List (List ℝ)) :
    Noise.squaredNorm lists.flatten = (lists.map Noise.squaredNorm).sum := by
  induction lists with
  | nil => rfl
  | cons list rest ih =>
      rw [List.map_cons, List.sum_cons, ← ih, List.flatten_cons]
      simp only [Noise.squaredNorm, dot_eq_sum]
      rw [List.zipWith_append rfl, List.sum_append]

namespace Updates

noncomputable def step (updates : Updates ℝ) (key : Key) (width : ℕ) : List ℝ :=
  (updates.get? key).getD (List.replicate width 0)

-- Every variable that is named gets a step of its own dimension.
def Match {α : Type} [Scalar α] (updates : Updates α) (values : Values α) : Prop :=
  ∀ key value d, values.get? key = some value → updates.get? key = some d → d.length = value.dimension

end Updates

namespace Block

theorem mul_zeros (n width : ℕ) (b : Block ℝ) : vector n (b.mulVec (List.replicate width 0)) = 0 := by
  have zero (row : List ℝ) : dot row (List.replicate width 0) = 0 := by
    rw [dot_eq_sum]
    refine List.sum_eq_zero fun a mem => ?_
    obtain ⟨i, bound, rfl⟩ := List.mem_iff_getElem.mp mem
    simp
  funext i
  simp [vector, mulVec, zero]

theorem dot_div (row d : List ℝ) (sigma : ℝ) : dot (row.map (· / sigma)) d = sigma⁻¹ * dot row d := by
  rw [dot_eq_sum, dot_eq_sum, List.zipWith_map_left]
  induction row generalizing d with
  | nil => simp
  | cons a row ih =>
      cases d with
      | nil => simp
      | cons b d =>
          rw [List.zipWith_cons_cons, List.zipWith_cons_cons, List.sum_cons, List.sum_cons, ih, mul_add]
          ring

end Block

namespace Noise

noncomputable def scale (i : ℕ) : Noise ℝ → ℝ
  | unit _ => 1
  | isotropic _ sigma => sigma⁻¹
  | diagonal sigmas => (sigmas[i]?.getD 1)⁻¹

noncomputable def scales (noise : Noise ℝ) (n : ℕ) : Fin n → ℝ := fun i => noise.scale i

variable (noise : Noise ℝ) (n : ℕ) (dimension : noise.dimension = n)

include dimension

theorem vector_whiten (residual : List ℝ) (length : residual.length = n) :
    vector n (noise.whiten residual) = noise.scales n * vector n residual := by
  funext i
  have bound : i.val < residual.length := length ▸ i.isLt
  cases noise with
  | unit m => simp [vector, whiten, scales, scale]
  | isotropic m sigma => simp [vector, whiten, scales, scale, bound, div_eq_inv_mul]
  | diagonal sigmas =>
      have inside : i.val < sigmas.length := i.isLt.trans_eq dimension.symm
      simp [vector, whiten, scales, scale, bound, inside, div_eq_inv_mul]

theorem vector_whiten_block (block : Block ℝ) (d : List ℝ) (height : block.height = n) :
    vector n ((noise.whitenBlock block).mulVec d) = noise.scales n * vector n (block.mulVec d) := by
  funext i
  have bound : i.val < block.rows.length := i.isLt.trans_eq height.symm
  cases noise with
  | unit m => simp [vector, whitenBlock, scales, scale]
  | isotropic m sigma =>
      simp [vector, whitenBlock, Block.mapRows, Block.mulVec, scales, scale, bound, Block.dot_div]
  | diagonal sigmas =>
      have inside : i.val < sigmas.length := i.isLt.trans_eq dimension.symm
      simp [vector, whitenBlock, Block.mapRows, Block.mulVec, scales, scale, bound, inside, Block.dot_div]

end Noise

namespace LinearFactor

theorem vector_moved (n : ℕ) (updates : Updates ℝ) (entries : List (Key × Block ℝ)) (residual : List ℝ)
    (length : residual.length = n)
    (fits : ∀ e ∈ entries, e.2.height = n ∧ ∀ d, updates.get? e.1 = some d → d.length = e.2.cols) :
    ∃ shifted, moved updates entries residual = .ok shifted ∧ shifted.length = n ∧
      vector n shifted =
        vector n residual + (entries.map fun e => vector n (e.2.mulVec (updates.step e.1 e.2.cols))).sum := by
  -- By induction on the blocks, for every residual: what has been added so far is a part of it.
  induction entries generalizing residual with
  | nil => exact ⟨residual, rfl, length, by simp⟩
  | cons e rest ih =>
      obtain ⟨key, block⟩ := e
      obtain ⟨⟨height, width⟩, others⟩ := List.forall_mem_cons.mp fits
      rw [List.map_cons, List.sum_cons, ← add_assoc]
      cases named : updates.get? key with
      | none =>
          obtain ⟨shifted, done, still, sum⟩ := ih residual length others
          refine ⟨shifted, by rw [moved, named, done], still, ?_⟩
          rw [sum, Updates.step, named, Option.getD_none, Block.mul_zeros, add_zero]
      | some d =>
          have tall : residual.length = (block.mulVec d).length := by
            rw [length, Block.mulVec, List.length_map]
            exact height.symm
          obtain ⟨shifted, done, still, sum⟩ := ih (List.zipWith (· + ·) residual (block.mulVec d))
            (by rw [List.length_zipWith, ← tall, Nat.min_self, length]) others
          refine ⟨shifted, ?_, still, ?_⟩
          · simp only [moved, named, if_pos (width d named), done]
          · rw [sum, Updates.step, named, Option.getD_some, vector_zip_add n _ _ tall]

theorem error_empty (factor : LinearFactor ℝ) : factor.error .empty = .ok (Noise.squaredNorm factor.rhs) := by
  have still (entries : List (Key × Block ℝ)) (residual : List ℝ) : moved .empty entries residual = .ok residual := by
    induction entries with
    | nil => rfl
    | cons e rest ih => exact ih
  rw [error, still, Outcome.ok_bind, Outcome.return_ok]
  exact congrArg Except.ok (squared_norm_neg factor.rhs)

end LinearFactor

namespace NonlinearFactor

structure FirstOrder where
  residual : List ℝ
  blocks : List (Block ℝ)

-- What a factor answers when it is asked for derivatives: there is a block for each of its keys.
structure Answers (f : NonlinearFactor ℝ) (values : Values ℝ) (answer : FirstOrder) : Prop where
  evaluated : (f.gather values >>= fun arguments => f.evaluate arguments .derivatives) =
    .ok ⟨answer.residual, some answer.blocks⟩
  count : answer.blocks.length = f.keys.length

-- The residual `r + Σ Jₖ dₖ` that the answer of a factor predicts after a step.
noncomputable def predicted (f : NonlinearFactor ℝ) (updates : Updates ℝ) (answer : FirstOrder) : Fin f.dimension → ℝ :=
  vector f.dimension answer.residual + ((f.keys.zip answer.blocks).map fun (key, block) =>
    vector f.dimension (block.mulVec (updates.step key block.cols))).sum

noncomputable def modelError (updates : Updates ℝ) (f : NonlinearFactor ℝ) (answer : FirstOrder) : ℝ :=
  f.noise.squaredMahalanobis (List.ofFn (f.predicted updates answer))

-- The factor has the same residual whether it is asked for derivatives or not.
def AnswersAlike (f : NonlinearFactor ℝ) (values : Values ℝ) : Prop :=
  ∀ arguments evaluation, f.gather values = .ok arguments → f.evaluate arguments .derivatives = .ok evaluation →
    ∃ plain, f.evaluate arguments .residual = .ok plain ∧ plain.residual = evaluation.residual

theorem whiten_dimension (f : NonlinearFactor ℝ) (v : List ℝ) (length : v.length = f.dimension) :
    (f.noise.whiten v).length = f.dimension :=
  (f.noise.whiten_length v (length.trans f.noise_dimension.symm)).trans f.noise_dimension

theorem whitened_prediction (f : NonlinearFactor ℝ) (updates : Updates ℝ) (residual : List ℝ) (blocks : List (Block ℝ))
    (length : residual.length = f.dimension) (heights : ∀ entry ∈ f.keys.zip blocks, entry.2.height = f.dimension) :
    vector f.dimension (f.noise.whiten residual) + ((f.keys.zip (blocks.map f.noise.whitenBlock)).map fun entry =>
      vector f.dimension (entry.2.mulVec (updates.step entry.1 entry.2.cols))).sum =
    vector f.dimension (f.noise.whiten (List.ofFn (f.predicted updates ⟨residual, blocks⟩))) := by
  have dimension : f.noise.dimension = f.dimension := f.noise_dimension
  rw [f.noise.vector_whiten _ dimension _ length, f.noise.vector_whiten _ dimension _ List.length_ofFn, vector_of_fn,
    predicted, mul_add, ← List.sum_map_mul_left, List.zip_map_right, List.map_map]
  refine congrArg (_ + List.sum ·) (List.map_congr_left fun ⟨key, block⟩ mem => ?_)
  have cols : (f.noise.whitenBlock block).cols = block.cols := congrArg Prod.snd (f.noise.whiten_block_shape block)
  simp only [Function.comp_apply, Prod.map_apply, id_eq, cols]
  exact f.noise.vector_whiten_block _ dimension block _ (heights (key, block) mem)

section Linear

variable (f : NonlinearFactor ℝ) (values : Values ℝ) (linear : LinearFactor ℝ)
  (done : f.linearize values = .ok linear)

include done

theorem linear_error_eq :
    ∃ answer, f.Answers values answer ∧ ∀ updates : Updates ℝ, updates.Match values →
      linear.error updates = .ok (modelError updates f answer) := by
  obtain ⟨arguments, ⟨residual, jacobians⟩, blocks, made⟩ := linearize_ok f values linear done
  cases made.derivatives
  have length := check_residual_length f _ made.residual
  have shapes := (f.linearize_represents values linear done).blocks
  rw [made.result, List.forall₂_map_right_iff] at shapes
  have evaluated : (f.gather values >>= fun arguments => f.evaluate arguments .derivatives) =
      .ok ⟨residual, some blocks⟩ := by
    rw [made.gathered]
    exact made.evaluated
  refine ⟨⟨residual, blocks⟩, ⟨evaluated, shapes.length_eq.symm⟩, fun updates fits => ?_⟩
  have start : linear.rhs.map (- ·) = f.noise.whiten residual := by simp [made.result]
  have entries : linear.keys.zip linear.jacobians = f.keys.zip (blocks.map f.noise.whitenBlock) := by rw [made.result]
  obtain ⟨shifted, moves, still, sum⟩ := LinearFactor.vector_moved f.dimension updates
    (f.keys.zip (blocks.map f.noise.whitenBlock)) _ (f.whiten_dimension _ length) fun e mem => by
      rw [List.zip_map_right] at mem
      obtain ⟨⟨key, block⟩, paired, rfl⟩ := List.mem_map.mp mem
      obtain ⟨value, found, shape⟩ := List.forall₂_zip shapes paired
      have width : (f.noise.whitenBlock block).cols = value.dimension := congrArg Prod.snd shape
      exact ⟨congrArg Prod.fst shape, fun d named => (fits key value d found named).trans width.symm⟩
  have heights : ∀ entry ∈ f.keys.zip blocks, entry.2.height = f.dimension := fun entry paired => by
    obtain ⟨value, _, shape⟩ := List.forall₂_zip shapes paired
    rw [Noise.whiten_block_shape] at shape
    exact congrArg Prod.fst shape
  have same : shifted = f.noise.whiten (List.ofFn (f.predicted updates ⟨residual, blocks⟩)) := by
    rw [← of_fn_vector f.dimension shifted still, sum, f.whitened_prediction updates residual blocks length heights,
      of_fn_vector f.dimension _ (f.whiten_dimension _ List.length_ofFn)]
  rw [LinearFactor.error, start, entries, moves, Outcome.ok_bind, Outcome.return_ok, same]
  rfl

theorem error_of_linear (alike : f.AnswersAlike values) : f.error values = .ok (Noise.squaredNorm linear.rhs) := by
  obtain ⟨arguments, evaluation, blocks, made⟩ := linearize_ok f values linear done
  obtain ⟨plain, evaluated, same⟩ := alike arguments evaluation made.gathered made.evaluated
  have checked := made.residual
  rw [← same] at checked
  rw [error, whitened, residual, made.gathered, Outcome.ok_bind, evaluated, Outcome.ok_bind, checked, made.result,
    squared_norm_neg, ← same]
  rfl

end Linear

end NonlinearFactor

namespace Graph

theorem errors_predicted (values : Values ℝ) (factors : List (NonlinearFactor ℝ)) (linears : List (LinearFactor ℝ))
    (each : List.Forall₂ (fun f l => f.linearize values = .ok l) factors linears) :
    ∃ answers, List.Forall₂ (fun f answer => f.Answers values answer) factors answers ∧
      ∀ updates : Updates ℝ, updates.Match values →
        linears.mapM (·.error updates) = .ok (List.zipWith (NonlinearFactor.modelError updates) factors answers) := by
  induction each with
  | nil => exact ⟨[], .nil, fun _ _ => rfl⟩
  | @cons f l factors linears here others ih =>
      obtain ⟨answer, answered, first⟩ := f.linear_error_eq values l here
      obtain ⟨answers, each, rest⟩ := ih
      refine ⟨answer :: answers, .cons answered each, fun updates fits => ?_⟩
      rw [List.mapM_cons, first updates fits, Outcome.ok_bind, rest updates fits]
      rfl

/-- The error of the linear factors after a step is the squared Mahalanobis length of the residuals that the answers
of the factors predict. Without a step it is the squared length of the stacked right-hand side, and the error of the
graph where the factors answer alike. -/
theorem linear_error_eq_predicted (graph : Graph ℝ) (values : Values ℝ) (linear : LinearGraph ℝ)
    (done : graph.linearize values = .ok linear) :
    (∃ answers, List.Forall₂ (fun f answer => f.Answers values answer) graph.equalities answers ∧
      ∀ updates : Updates ℝ, updates.Match values →
        linear.error updates = .ok (List.zipWith (NonlinearFactor.modelError updates) graph.equalities answers).sum) ∧
    ∃ system, linear.toSparse (.ofValues values) = .ok system ∧
      linear.error .empty = .ok (Noise.squaredNorm system.rhs) ∧
      ((∀ f ∈ graph.equalities, f.AnswersAlike values) → graph.error values = .ok (Noise.squaredNorm system.rhs)) := by
  have each := equalities_linearized graph values linear done
  obtain ⟨answers, answered, errors⟩ := errors_predicted values _ _ each
  obtain ⟨system, assembled⟩ := to_sparse_succeeds graph values linear done
  have flat : Noise.squaredNorm system.rhs = (linear.equalities.map fun l => Noise.squaredNorm l.rhs).sum := by
    obtain ⟨rows, _, rfl⟩ := linear.to_sparse_rows_of_ok _ system assembled
    rw [List.flatMap_def, squared_norm_flat, List.map_map]
    rfl
  have still : linear.equalities.mapM (·.error .empty) = .ok (linear.equalities.map fun l => Noise.squaredNorm l.rhs) :=
    (congrArg (linear.equalities.mapM ·) (funext LinearFactor.error_empty)).trans List.mapM_pure
  refine ⟨⟨answers, answered, fun updates fits => ?_⟩, system, assembled, ?_, fun alike => ?_⟩
  · rw [LinearGraph.error, errors updates fits, Outcome.ok_bind, Outcome.return_ok, total_eq_sum]
  · rw [LinearGraph.error, still, Outcome.ok_bind, Outcome.return_ok, total_eq_sum, flat]
  · have measured : graph.equalities.mapM (·.error values) =
        .ok (linear.equalities.map fun l => Noise.squaredNorm l.rhs) := by
      rw [Outcome.map_all_ok_iff, List.forall₂_map_right_iff]
      exact ((List.forall₂_and_left _ _).mpr ⟨alike, each⟩).imp fun f l both => f.error_of_linear values l both.2 both.1
    rw [error, measured, Outcome.ok_bind, Outcome.return_ok, total_eq_sum, flat]

noncomputable def twoRows : NonlinearFactor ℝ :=
  ⟨[⟨'x', 0⟩, ⟨'y', 0⟩], ⟨2, fun _ _ => .ok ⟨[1, -1], some [.identity 2, .column [1, 4]]⟩⟩, .diagonal [4, 1], .equality,
    rfl, by simp⟩

noncomputable def twoVectors : Values ℝ :=
  (SortedMap.empty.insert ⟨'x', 0⟩ (.vector [0, 0])).insert ⟨'y', 0⟩ (.vector [4])

noncomputable def secondMoves : Updates ℝ := SortedMap.empty.insert ⟨'y', 0⟩ [1]

theorem linear_error_eq_predicted_second_moves :
    ∃ linear, Graph.linearize [{ twoRows with kind := .inequality ⟨'d', 0⟩ }, twoRows] twoVectors = .ok linear ∧
      linear.error secondMoves = .ok (37 / 4) ∧ linear.error .empty = .ok (17 / 16) ∧
      Graph.error [{ twoRows with kind := .inequality ⟨'d', 0⟩ }, twoRows] twoVectors = .ok (17 / 16) := by
  obtain ⟨linear, known, done, stacked, rhs⟩ : ∃ linear system,
      Graph.linearize [{ twoRows with kind := .inequality ⟨'d', 0⟩ }, twoRows] twoVectors = .ok linear ∧
        linear.toSparse (.ofValues twoVectors) = .ok system ∧ system.rhs = [-(1 / 4), -(-1 / 1)] :=
    ⟨_, _, rfl, rfl, rfl⟩
  obtain ⟨⟨answers, answered, moved⟩, system, assembled, still, alike⟩ := linear_error_eq_predicted _ _ linear done
  cases stacked.symm.trans assembled
  have length : Noise.squaredNorm known.rhs = 17 / 16 := by
    rw [rhs, Noise.squaredNorm, dot_eq_sum]
    norm_num
  rw [length] at still alike
  have one : Graph.equalities [{ twoRows with kind := .inequality ⟨'d', 0⟩ }, twoRows] = [twoRows] := rfl
  rw [one] at answered moved alike
  obtain ⟨⟨_, _⟩, _, answer, none, rfl⟩ := List.forall₂_cons_left_iff.mp answered
  cases List.forall₂_nil_left_iff.mp none
  cases answer.evaluated
  have fits : secondMoves.Match twoVectors := by
    intro key value d found named
    have here : (key, d) ∈ [((⟨'y', 0⟩ : Key), [(1 : ℝ)])] := (SortedMap.get_eq_some_iff _ _ _).mp named
    cases List.mem_singleton.mp here
    cases found
    rfl
  have predicted : List.ofFn (twoRows.predicted secondMoves ⟨[1, -1], [.identity 2, .column [1, 4]]⟩) = [2, 3] := by
    have sum : twoRows.predicted secondMoves ⟨[1, -1], [.identity 2, .column [1, 4]]⟩ =
        vector 2 [1, -1] + List.sum [vector 2 ((Block.identity 2).mulVec (List.replicate 2 0)),
          vector 2 [Block.dot [1] [1], Block.dot [4] [1]]] := rfl
    rw [sum, Block.mul_zeros]
    change [(1 : ℝ) + (0 + (Block.dot [1] [1] + 0)), -1 + (0 + (Block.dot [4] [1] + 0))] = _
    norm_num [dot_eq_sum]
  refine ⟨linear, done, (moved secondMoves fits).trans ?_, still, alike ?_⟩
  · rw [List.zipWith_cons_cons, NonlinearFactor.modelError, predicted]
    change Except.ok (List.sum [Noise.squaredNorm [(2 : ℝ) / 4, 3 / 1]]) = _
    norm_num [Noise.squaredNorm, dot_eq_sum]
  · intro f mem
    cases List.mem_singleton.mp mem
    intro arguments evaluation gathered evaluated
    exact ⟨evaluation, evaluated, rfl⟩

end Graph

end FactorGraph
