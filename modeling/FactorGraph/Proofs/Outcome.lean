import Mathlib

set_option autoImplicit false

namespace FactorGraph.Outcome

variable {ε δ β γ : Type}

@[simp] theorem ok_bind (b : β) (f : β → Except ε γ) : (Except.ok b >>= f) = f b := rfl

@[simp] theorem error_bind (e : ε) (f : β → Except ε γ) : (Except.error e >>= f) = .error e := rfl

@[simp] theorem return_ok (b : β) : (pure b : Except ε β) = .ok b := rfl

@[simp] theorem throw_error (e : ε) : (throw e : Except ε β) = .error e := rfl

theorem bind_ok_iff (x : Except ε β) (f : β → Except ε γ) (c : γ) :
    (x >>= f) = .ok c ↔ ∃ b, x = .ok b ∧ f b = .ok c := by
  cases x <;> simp

theorem bind_error_iff (x : Except ε β) (f : β → Except ε γ) (e : ε) :
    (x >>= f) = .error e ↔ x = .error e ∨ ∃ b, x = .ok b ∧ f b = .error e := by
  cases x <;> simp

theorem map_ok_iff (f : β → γ) (x : Except ε β) (c : γ) :
    f <$> x = .ok c ↔ ∃ b, x = .ok b ∧ f b = c := by
  cases x <;> simp [Functor.map, Except.map]

theorem map_map (f : β → γ) (g : γ → δ) (x : Except ε β) : (x.map f).map g = x.map fun b => g (f b) := by
  cases x <;> rfl

@[simp] theorem map_error_ok_iff (f : ε → δ) (x : Except ε β) (b : β) :
    x.mapError f = .ok b ↔ x = .ok b := by
  cases x <;> simp [Except.mapError]

theorem map_error_error_iff (f : ε → δ) (x : Except ε β) (d : δ) :
    x.mapError f = .error d ↔ ∃ e, x = .error e ∧ f e = d := by
  cases x <;> simp [Except.mapError]

theorem map_all_ok_iff (f : β → Except ε γ) (xs : List β) (ys : List γ) :
    xs.mapM f = .ok ys ↔ List.Forall₂ (fun x y => f x = .ok y) xs ys := by
  induction xs generalizing ys with
  | nil => simp [eq_comm]
  | cons x rest ih =>
      rw [List.mapM_cons, bind_ok_iff]
      constructor
      · rintro ⟨y, here, tail⟩
        obtain ⟨zs, there, same⟩ := (bind_ok_iff _ _ _).mp tail
        cases same
        exact .cons here ((ih zs).mp there)
      · rintro (_ | ⟨here, there⟩)
        exact ⟨_, here, (bind_ok_iff _ _ _).mpr ⟨_, (ih _).mpr there, rfl⟩⟩

theorem map_all_ok_iff_at (f : β → Except ε γ) (xs : List β) (ys : List γ) :
    xs.mapM f = .ok ys ↔ ys.length = xs.length ∧
      ∀ (i : ℕ) (x : β) (y : γ), xs[i]? = some x → ys[i]? = some y → f x = .ok y := by
  rw [map_all_ok_iff, List.forall₂_iff_get]
  refine and_congr eq_comm ⟨fun each i x y first second => ?_, fun each i first second => ?_⟩
  · obtain ⟨inside, rfl⟩ := List.getElem?_eq_some_iff.mp first
    obtain ⟨inside', rfl⟩ := List.getElem?_eq_some_iff.mp second
    exact each i inside inside'
  · exact each i _ _ (List.getElem?_eq_getElem first) (List.getElem?_eq_getElem second)

theorem map_all_inputs (f : β → Except ε γ) (xs : List β) (ys : List γ) (done : xs.mapM f = .ok ys) :
    ∀ x ∈ xs, ∃ y ∈ ys, f x = .ok y := by
  induction (map_all_ok_iff f xs ys).mp done with
  | nil => simp
  | cons here others ih =>
      intro x mem
      rcases List.mem_cons.mp mem with rfl | later
      · exact ⟨_, by simp, here⟩
      · obtain ⟨y, inside, made⟩ := ih ((map_all_ok_iff f _ _).mpr others) x later
        exact ⟨y, by simp [inside], made⟩

theorem map_all_outputs (f : β → Except ε γ) (xs : List β) (ys : List γ) (done : xs.mapM f = .ok ys) :
    ∀ y ∈ ys, ∃ x ∈ xs, f x = .ok y := by
  induction (map_all_ok_iff f xs ys).mp done with
  | nil => simp
  | cons here others ih =>
      intro y mem
      rcases List.mem_cons.mp mem with rfl | later
      · exact ⟨_, by simp, here⟩
      · obtain ⟨x, inside, made⟩ := ih ((map_all_ok_iff f _ _).mpr others) y later
        exact ⟨x, by simp [inside], made⟩

theorem map_all_measure (f : β → Except ε γ) (before : β → δ) (after : γ → δ) (xs : List β) (ys : List γ)
    (done : xs.mapM f = .ok ys) (each : ∀ x y, f x = .ok y → after y = before x) : ys.map after = xs.map before := by
  induction (map_all_ok_iff f xs ys).mp done with
  | nil => rfl
  | cons here others ih =>
      rw [List.map_cons, List.map_cons, each _ _ here, ih ((map_all_ok_iff f _ _).mpr others)]

theorem map_all_perm (f : β → Except ε γ) (xs others : List β) (perm : others.Perm xs) (ys : List γ)
    (done : xs.mapM f = .ok ys) : ∃ outputs, others.mapM f = .ok outputs ∧ outputs.Perm ys := by
  obtain ⟨outputs, each, same⟩ := List.perm_comp_forall₂ perm ((map_all_ok_iff f xs ys).mp done)
  exact ⟨outputs, (map_all_ok_iff f others outputs).mpr each, same⟩

theorem map_all_succeeds (f : β → Except ε γ) (xs : List β) (each : ∀ x ∈ xs, ∃ y, f x = .ok y) :
    ∃ ys, xs.mapM f = .ok ys := by
  induction xs with
  | nil => exact ⟨[], rfl⟩
  | cons x rest ih =>
      obtain ⟨y, here⟩ := each x (by simp)
      obtain ⟨ys, there⟩ := ih fun z mem => each z (by simp [mem])
      exact ⟨y :: ys, by rw [List.mapM_cons, here, ok_bind, there]; rfl⟩

theorem map_all_error (f : β → Except ε γ) (xs : List β) (e : ε) (failed : xs.mapM f = .error e) :
    ∃ x ∈ xs, f x = .error e := by
  induction xs with
  | nil => simp at failed
  | cons x rest ih =>
      rw [List.mapM_cons, bind_error_iff] at failed
      rcases failed with here | ⟨y, _, tail⟩
      · exact ⟨x, by simp, here⟩
      · rcases (bind_error_iff _ _ _).mp tail with there | ⟨ys, _, impossible⟩
        · obtain ⟨z, mem, cause⟩ := ih there
          exact ⟨z, by simp [mem], cause⟩
        · cases impossible

-- Along a list an element is found, and all that come before it are passed.
inductive Reaches (passed found : β → Prop) : List β → Prop where
  | here (x : β) (rest : List β) (stops : found x) : Reaches passed found (x :: rest)
  | onward (x : β) (rest : List β) (clear : passed x) (later : Reaches passed found rest) :
      Reaches passed found (x :: rest)

theorem reaches_nil (passed found : β → Prop) : ¬ Reaches passed found [] := fun reached => by cases reached

theorem reaches_cons_iff (passed found : β → Prop) (x : β) (rest : List β) :
    Reaches passed found (x :: rest) ↔ found x ∨ passed x ∧ Reaches passed found rest := by
  constructor
  · intro reached
    cases reached with
    | here x rest stops => exact .inl stops
    | onward x rest clear later => exact .inr ⟨clear, later⟩
  · rintro (stops | ⟨clear, later⟩)
    · exact .here x rest stops
    · exact .onward x rest clear later

theorem reaches_found (passed found : β → Prop) (xs : List β) (reached : Reaches passed found xs) :
    ∃ x ∈ xs, found x := by
  induction reached with
  | here x rest stops => exact ⟨x, by simp, stops⟩
  | onward x rest clear later ih =>
      obtain ⟨y, mem, stops⟩ := ih
      exact ⟨y, by simp [mem], stops⟩

theorem reaches_of_pairwise (before : β → β → Prop) (asymm : ∀ x y, before x y → ¬ before y x) (passed found : β → Prop)
    (xs : List β) (sorted : xs.Pairwise before) :
    Reaches passed found xs ↔ ∃ x ∈ xs, found x ∧ ∀ y ∈ xs, before y x → passed y := by
  induction xs with
  | nil => simp [reaches_nil]
  | cons x rest ih =>
      obtain ⟨least, sorted⟩ := List.pairwise_cons.mp sorted
      rw [reaches_cons_iff, ih sorted]
      constructor
      · rintro (stops | ⟨clear, z, mem, stops, others⟩)
        · refine ⟨x, by simp, stops, List.forall_mem_cons.mpr ⟨fun less => ?_, fun y mem less => ?_⟩⟩
          · exact absurd less (asymm x x less)
          · exact absurd less (asymm x y (least y mem))
        · exact ⟨z, by simp [mem], stops, List.forall_mem_cons.mpr ⟨fun _ => clear, others⟩⟩
      · rintro ⟨z, mem, stops, others⟩
        obtain ⟨clear, others⟩ := List.forall_mem_cons.mp others
        rcases List.mem_cons.mp mem with rfl | later
        · exact .inl stops
        · exact .inr ⟨clear (least z later), z, later, stops, others⟩

theorem find_eq_some_iff_reaches (p : β → Bool) (xs : List β) (x : β) :
    xs.find? p = some x ↔ Reaches (fun y => p y = false) (fun y => p y = true ∧ y = x) xs := by
  induction xs with
  | nil => simp [reaches_nil]
  | cons y rest ih =>
      rw [reaches_cons_iff, List.find?_cons]
      cases held : p y <;> simp [ih]

theorem filter_all_error_iff (p : β → Except ε Bool) (xs : List β) (e : ε) :
    xs.filterM p = .error e ↔ Reaches (fun x => ∃ keep, p x = .ok keep) (fun x => p x = .error e) xs := by
  suffices scanned : ∀ kept : List β, xs.filterAuxM p kept = .error e ↔
      Reaches (fun x => ∃ keep, p x = .ok keep) (fun x => p x = .error e) xs by
    rw [List.filterM, bind_error_iff, scanned]
    simp
  induction xs with
  | nil => simp [List.filterAuxM, reaches_nil]
  | cons x rest ih =>
      intro kept
      rw [List.filterAuxM, bind_error_iff, reaches_cons_iff]
      simp only [ih, exists_and_right]

theorem filter_all_mem (p : β → Except ε Bool) (xs ys : List β) (done : xs.filterM p = .ok ys) (x : β) :
    x ∈ ys ↔ x ∈ xs ∧ p x = .ok true := by
  suffices scanned : ∀ kept ys : List β, xs.filterAuxM p kept = .ok ys → (x ∈ ys ↔ (x ∈ xs ∧ p x = .ok true) ∨ x ∈ kept) by
    obtain ⟨scan, passed, turned⟩ := (bind_ok_iff _ _ _).mp done
    cases turned
    rw [List.mem_reverse, scanned [] scan passed]
    simp
  clear done ys
  induction xs with
  | nil =>
      intro kept ys done
      cases done
      simp
  | cons z rest ih =>
      intro kept ys done
      obtain ⟨keep, asked, later⟩ := (bind_ok_iff _ _ _).mp done
      rw [ih _ _ later, List.mem_cons]
      cases keep <;> grind

theorem filter_all_succeeds (p : β → Except ε Bool) (xs : List β) (each : ∀ x ∈ xs, ∃ keep, p x = .ok keep) :
    ∃ ys, xs.filterM p = .ok ys := by
  cases done : xs.filterM p with
  | ok ys => exact ⟨ys, rfl⟩
  | error e =>
      obtain ⟨x, mem, failed⟩ := reaches_found _ _ _ ((filter_all_error_iff p xs e).mp done)
      obtain ⟨keep, asked⟩ := each x mem
      cases asked.symm.trans failed

inductive Together (related : β → γ → Prop) : Except ε β → Except δ γ → Prop where
  | ok (b : β) (c : γ) (here : related b c) : Together related (.ok b) (.ok c)
  | error (e : ε) (d : δ) : Together related (.error e) (.error d)

theorem together_of_ok (related : β → γ → Prop) (x : Except ε β) (y : Except δ γ)
    (forth : ∀ b, x = .ok b → ∃ c, y = .ok c ∧ related b c) (back : ∀ c, y = .ok c → ∃ b, x = .ok b) :
    Together related x y := by
  cases x with
  | ok b =>
      obtain ⟨c, rfl, here⟩ := forth b rfl
      exact .ok b c here
  | error e =>
      cases y with
      | ok c =>
          obtain ⟨b, impossible⟩ := back c rfl
          cases impossible
      | error d => exact .error e d

theorem together_self (x : Except ε β) : Together (· = ·) x x := by
  cases x with
  | ok b => exact .ok b b rfl
  | error e => exact .error e e

theorem together_map_error {ε' δ' : Type} (related : β → γ → Prop) (f : ε → ε') (g : δ → δ') (x : Except ε β)
    (y : Except δ γ) (together : Together related x y) : Together related (x.mapError f) (y.mapError g) := by
  cases together with
  | ok b c here => exact .ok b c here
  | error e d => exact .error (f e) (g d)

theorem together_bind {β' γ' : Type} (related : β → γ → Prop) (further : β' → γ' → Prop) (x : Except ε β)
    (y : Except δ γ) (f : β → Except ε β') (g : γ → Except δ γ') (together : Together related x y)
    (next : ∀ b c, related b c → Together further (f b) (g c)) : Together further (x >>= f) (y >>= g) := by
  cases together with
  | ok b c here => exact next b c here
  | error e d => exact .error e d

theorem together_option (x y : Except ε β) (together : Together (· = ·) x y) : y.toOption = x.toOption := by
  cases together with
  | ok b c here => rw [here]
  | error e d => rfl

def passes (check : β → Bool) : Except ε β → Bool
  | .ok b => check b
  | .error _ => false

theorem passes_ok (check : β → Bool) (x : Except ε β) (passed : passes check x = true) :
    ∃ b, x = .ok b ∧ check b = true := by
  cases x with
  | error e => cases passed
  | ok b => exact ⟨b, rfl, passed⟩

def fails (check : ε → Bool) : Except ε β → Bool
  | .ok _ => false
  | .error e => check e

theorem fails_error (check : ε → Bool) (x : Except ε β) (failed : fails check x = true) :
    ∃ e, x = .error e ∧ check e = true := by
  cases x with
  | error e => exact ⟨e, rfl, failed⟩
  | ok b => cases failed

end FactorGraph.Outcome
