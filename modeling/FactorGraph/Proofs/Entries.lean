import FactorGraph.SortedMap
import FactorGraph.Proofs.Outcome

set_option autoImplicit false

namespace FactorGraph.SortedMap

variable {κ ν μ ε : Type}

theorem traverse_entries_ok_iff (f : κ → ν → Except ε μ) (es : List (κ × ν)) (ds : List (κ × μ)) :
    (∃ same, traverseEntries f es = .ok ⟨ds, same⟩) ↔
      List.Forall₂ (fun e d => d.1 = e.1 ∧ f e.1 e.2 = .ok d.2) es ds := by
  induction es generalizing ds with
  | nil =>
      constructor
      · rintro ⟨_, traversed⟩
        cases traversed
        exact .nil
      · rintro (_ | _)
        exact ⟨rfl, rfl⟩
  | cons e rest ih =>
      obtain ⟨k, v⟩ := e
      rw [traverseEntries]
      cases here : f k v with
      | error e =>
          constructor
          · rintro ⟨_, traversed⟩
            cases traversed
          · rintro (_ | ⟨⟨_, done⟩, _⟩)
            rw [here] at done
            cases done
      | ok w =>
          cases tail : traverseEntries f rest with
          | error e =>
              constructor
              · rintro ⟨_, traversed⟩
                cases traversed
              · rintro (_ | ⟨_, others⟩)
                obtain ⟨_, done⟩ := (ih _).mpr others
                rw [tail] at done
                cases done
          | ok result =>
              obtain ⟨r, same⟩ := result
              constructor
              · rintro ⟨_, traversed⟩
                cases traversed
                exact .cons ⟨rfl, here⟩ ((ih r).mp ⟨same, tail⟩)
              · rintro (_ | ⟨⟨sameKey, done⟩, others⟩)
                rename_i d ds
                obtain ⟨_, done'⟩ := (ih ds).mpr others
                rw [tail] at done'
                cases done'
                rw [here] at done
                cases d
                cases sameKey
                cases done
                exact ⟨by simp [same], rfl⟩

theorem traverse_entries_error_iff (f : κ → ν → Except ε μ) (es : List (κ × ν)) (e : ε) :
    traverseEntries f es = .error e ↔
      Outcome.Reaches (fun d => ∃ w, f d.1 d.2 = .ok w) (fun d => f d.1 d.2 = .error e) es := by
  induction es with
  | nil => simp [traverseEntries, Outcome.reaches_nil]
  | cons entry rest ih =>
      obtain ⟨k, v⟩ := entry
      rw [traverseEntries, Outcome.reaches_cons_iff, ← ih]
      cases here : f k v with
      | error d => simp
      | ok w => cases traverseEntries f rest <;> simp

variable [LT κ]

theorem ext_entries (a b : SortedMap κ ν) (same : a.entries = b.entries) : a = b := by
  cases a
  cases b
  cases same
  rfl

theorem mem_keys_foldl (step : SortedMap κ ν → μ → SortedMap κ ν) (name : μ → κ) (key : κ)
    (adds : ∀ m x, key ∈ (step m x).keys ↔ key = name x ∨ key ∈ m.keys) (xs : List μ) (m : SortedMap κ ν) :
    key ∈ (xs.foldl step m).keys ↔ key ∈ m.keys ∨ key ∈ xs.map name := by
  induction xs generalizing m with
  | nil => simp
  | cons x rest ih =>
      rw [List.foldl_cons, ih, adds, List.map_cons, List.mem_cons]
      tauto

section Lookup

variable [DecidableLT κ] [StrictOrder κ]

theorem find_entry_eq_some_iff (key : κ) (value : ν) (es : List (κ × ν))
    (sorted : (es.map Prod.fst).Pairwise (· < ·)) :
    findEntry key es = some value ↔ (key, value) ∈ es := by
  induction es with
  | nil => simp [findEntry]
  | cons e rest ih =>
      obtain ⟨k, v⟩ := e
      rw [List.map_cons, List.pairwise_cons] at sorted
      have above (later : (key, value) ∈ rest) : k < key :=
        sorted.1 key (List.mem_map.mpr ⟨(key, value), later, rfl⟩)
      by_cases less : key < k
      · have different : key ≠ k := fun same => StrictOrder.irrefl k (same ▸ less)
        simp only [findEntry, if_pos less, List.mem_cons, Prod.mk.injEq, reduceCtorEq, false_iff, not_or]
        exact ⟨fun same => different same.1, fun later =>
          StrictOrder.irrefl k (StrictOrder.trans (above later) less)⟩
      · by_cases more : k < key
        · have different : key ≠ k := fun same => StrictOrder.irrefl k (same ▸ more)
          simp [findEntry, less, more, ih sorted.2, different]
        · have same := StrictOrder.connected key k less more
          subst same
          simp only [findEntry, if_neg less, Option.some.injEq, List.mem_cons, Prod.mk.injEq, true_and]
          exact ⟨fun h => .inl h.symm, fun h => h.elim Eq.symm fun later => absurd (above later) less⟩

theorem get_eq_some_iff (m : SortedMap κ ν) (key : κ) (value : ν) :
    m.get? key = some value ↔ (key, value) ∈ m.entries :=
  find_entry_eq_some_iff key value m.entries m.sorted

theorem forall_get (m : SortedMap κ ν) (P : κ → ν → Prop) (each : ∀ entry ∈ m.entries, P entry.1 entry.2) (key : κ)
    (value : ν) (found : m.get? key = some value) : P key value :=
  each (key, value) ((get_eq_some_iff m key value).mp found)

theorem get_eq_none_iff (m : SortedMap κ ν) (key : κ) : m.get? key = none ↔ key ∉ m.keys := by
  rw [← contains_iff_mem_keys, contains, Option.not_isSome_iff_eq_none]

theorem mem_keys_iff_get (m : SortedMap κ ν) (key : κ) : key ∈ m.keys ↔ ∃ value, m.get? key = some value := by
  rw [← contains_iff_mem_keys, contains, Option.isSome_iff_exists]

omit [DecidableLT κ] in
theorem nodup_of_sorted (keys : List κ) (sorted : keys.Pairwise (· < ·)) : keys.Nodup := by
  refine List.nodup_iff_pairwise_ne.mpr (sorted.imp fun {a b} less same => ?_)
  exact StrictOrder.irrefl b (same ▸ less)

omit [DecidableLT κ] in
theorem sorted_eq_of_mem (keys others : List κ) (first : keys.Pairwise (· < ·)) (second : others.Pairwise (· < ·))
    (same : ∀ key, key ∈ keys ↔ key ∈ others) : keys = others := by
  have perm := (List.perm_ext_iff_of_nodup (nodup_of_sorted keys first) (nodup_of_sorted others second)).mpr same
  exact perm.eq_of_pairwise
    (fun _ _ _ _ less more => (StrictOrder.irrefl _ (StrictOrder.trans less more)).elim) first second

omit [DecidableLT κ] in
theorem distinct_keys (m : SortedMap κ ν) : m.keys.Nodup := nodup_of_sorted m.keys m.sorted

theorem ext_get (a b : SortedMap κ ν) (same : ∀ key, a.get? key = b.get? key) : a = b := by
  apply ext_entries
  have perm : a.entries.Perm b.entries :=
    (List.perm_ext_iff_of_nodup (a.distinct_keys.of_map _) (b.distinct_keys.of_map _)).mpr fun (key, value) => by
      rw [← get_eq_some_iff, ← get_eq_some_iff, same]
  have ordered (m : SortedMap κ ν) : m.entries.Pairwise (·.1 < ·.1) := List.pairwise_map.mp m.sorted
  exact perm.eq_of_pairwise
    (fun _ _ _ _ less more => (StrictOrder.irrefl _ (StrictOrder.trans less more)).elim) (ordered a) (ordered b)

theorem get_upsert_self (m : SortedMap κ ν) (key : κ) (f : Option ν → ν) :
    (m.upsert key f).get? key = some (f (m.get? key)) :=
  findEntry_upsertEntry_self key f m.entries

theorem get_upsert_of_ne (m : SortedMap κ ν) {key other : κ} (different : other ≠ key) (f : Option ν → ν) :
    (m.upsert key f).get? other = m.get? other :=
  findEntry_upsertEntry_of_ne different f m.entries

theorem get_map (f : κ → ν → μ) (m : SortedMap κ ν) (key : κ) :
    (m.map f).get? key = (m.get? key).map (f key) := by
  cases found : m.get? key with
  | none =>
      rw [get_eq_none_iff] at found
      rw [Option.map_none, get_eq_none_iff, keys_map]
      exact found
  | some value =>
      rw [get_eq_some_iff] at found
      rw [Option.map_some, get_eq_some_iff]
      exact List.mem_map.mpr ⟨(key, value), found, rfl⟩

theorem mem_keys_of_list (es : List (κ × ν)) (key : κ) : key ∈ (ofList es).keys ↔ key ∈ es.map Prod.fst := by
  rw [ofList, mem_keys_foldl _ Prod.fst key fun m e => mem_keys_insert m e.1 e.2 key]
  simp [empty, keys]

theorem get_of_list (es : List (κ × ν)) (once : (es.map Prod.fst).Nodup) (key : κ) (value : ν)
    (mem : (key, value) ∈ es) : (ofList es).get? key = some value := by
  -- What an entry inserts stays, since no later one has its key.
  have stays (es : List (κ × ν)) (m : SortedMap κ ν) (new : key ∉ es.map Prod.fst) :
      (es.foldl (fun m e => m.insert e.1 e.2) m).get? key = m.get? key := by
    induction es generalizing m with
    | nil => rfl
    | cons e rest ih =>
        rw [List.map_cons, List.mem_cons, not_or] at new
        rw [List.foldl_cons, ih _ new.2, get?_insert_of_ne _ new.1]
  unfold ofList
  generalize (empty : SortedMap κ ν) = m
  induction es generalizing m with
  | nil => simp at mem
  | cons e rest ih =>
      rw [List.map_cons, List.nodup_cons] at once
      rw [List.foldl_cons]
      rcases List.mem_cons.mp mem with rfl | later
      · rw [stays rest _ once.1, get?_insert_self]
      · exact ih once.2 later _

theorem first_missing_none_iff (m : SortedMap κ ν) (keys : List κ) :
    keys.find? (!m.contains ·) = none ↔ ∀ key ∈ keys, key ∈ m.keys := by
  simp [List.find?_eq_none, contains_iff_mem_keys]

theorem first_missing_some_iff (m : SortedMap κ ν) (keys : List κ) (sorted : keys.Pairwise (· < ·)) (key : κ) :
    keys.find? (!m.contains ·) = some key ↔
      (key ∈ keys ∧ key ∉ m.keys) ∧ ∀ other ∈ keys, other < key → other ∈ m.keys := by
  have asymm (a b : κ) (less : a < b) (more : b < a) : False := StrictOrder.irrefl a (StrictOrder.trans less more)
  rw [Outcome.find_eq_some_iff_reaches, Outcome.reaches_of_pairwise (· < ·) asymm _ _ keys sorted]
  simp only [Bool.not_eq_eq_eq_not, Bool.not_true, Bool.not_false, ← contains_iff_mem_keys]
  grind

end Lookup

theorem traverse_ok_iff (f : κ → ν → Except ε μ) (m : SortedMap κ ν) (r : SortedMap κ μ) :
    m.traverse f = .ok r ↔
      List.Forall₂ (fun e d => d.1 = e.1 ∧ f e.1 e.2 = .ok d.2) m.entries r.entries := by
  rw [← traverse_entries_ok_iff, traverse]
  cases traverseEntries f m.entries with
  | error e => simp
  | ok result =>
      obtain ⟨ds, same⟩ := result
      constructor
      · intro traversed
        cases traversed
        exact ⟨same, rfl⟩
      · rintro ⟨_, traversed⟩
        cases traversed
        rfl

section Traversal

variable [DecidableLT κ] [StrictOrder κ] (m : SortedMap κ ν)

theorem traverse_get (f : κ → ν → Except ε μ) (r : SortedMap κ μ) (done : m.traverse f = .ok r) (key : κ) (value : ν)
    (found : m.get? key = some value) : ∃ w, r.get? key = some w ∧ f key value = .ok w := by
  rw [get_eq_some_iff] at found
  obtain ⟨i, inside, here⟩ := List.mem_iff_getElem.mp found
  have each := (traverse_ok_iff f m r).mp done
  have inside' : i < r.entries.length := each.length_eq ▸ inside
  obtain ⟨sameKey, made⟩ := each.get inside inside'
  simp only [List.get_eq_getElem, here] at sameKey made
  refine ⟨r.entries[i].2, (get_eq_some_iff r key _).mpr ?_, made⟩
  rw [← sameKey]
  exact List.getElem_mem inside'

theorem traverse_eq_map (f : κ → ν → Except ε μ) (g : κ → ν → μ)
    (each : ∀ key value, m.get? key = some value → f key value = .ok (g key value)) : m.traverse f = .ok (m.map g) := by
  rw [traverse_ok_iff]
  change List.Forall₂ _ _ (m.entries.map _)
  rw [List.forall₂_map_right_iff, List.forall₂_same]
  exact fun entry mem => ⟨rfl, each entry.1 entry.2 ((get_eq_some_iff m entry.1 entry.2).mpr mem)⟩

end Traversal

theorem traverse_error_iff_reaches (f : κ → ν → Except ε μ) (m : SortedMap κ ν) (e : ε) : m.traverse f = .error e ↔
    Outcome.Reaches (fun d => ∃ w, f d.1 d.2 = .ok w) (fun d => f d.1 d.2 = .error e) m.entries := by
  rw [← traverse_entries_error_iff, traverse]
  cases traverseEntries f m.entries <;> simp

theorem traverse_error (f : κ → ν → Except ε μ) (m : SortedMap κ ν) (e : ε)
    (failed : m.traverse f = .error e) : ∃ entry ∈ m.entries, f entry.1 entry.2 = .error e :=
  Outcome.reaches_found _ _ _ ((traverse_error_iff_reaches f m e).mp failed)

theorem traverse_error_iff [DecidableLT κ] [StrictOrder κ] (f : κ → ν → Except ε μ) (m : SortedMap κ ν) (e : ε) :
    m.traverse f = .error e ↔ ∃ key value, m.get? key = some value ∧ f key value = .error e ∧
      ∀ other < key, ∀ v, m.get? other = some v → ∃ w, f other v = .ok w := by
  have asymm (a b : κ × ν) (less : a.1 < b.1) (more : b.1 < a.1) : False :=
    StrictOrder.irrefl a.1 (StrictOrder.trans less more)
  rw [traverse_error_iff_reaches,
    Outcome.reaches_of_pairwise (fun a b => a.1 < b.1) asymm _ _ _ (List.pairwise_map.mp m.sorted)]
  simp only [get_eq_some_iff]
  constructor
  · rintro ⟨entry, mem, failed, others⟩
    exact ⟨entry.1, entry.2, mem, failed, fun other less v inside => others (other, v) inside less⟩
  · rintro ⟨key, value, mem, failed, others⟩
    exact ⟨(key, value), mem, failed, fun entry inside less => others entry.1 less entry.2 inside⟩

theorem traverse_succeeds (f : κ → ν → Except ε μ) (m : SortedMap κ ν)
    (each : ∀ entry ∈ m.entries, ∃ w, f entry.1 entry.2 = .ok w) : ∃ r, m.traverse f = .ok r := by
  cases traversed : m.traverse f with
  | ok r => exact ⟨r, rfl⟩
  | error e =>
      obtain ⟨entry, mem, failed⟩ := traverse_error f m e traversed
      obtain ⟨w, done⟩ := each entry mem
      rw [done] at failed
      cases failed

theorem traverse_ok_iff_get [DecidableLT κ] [StrictOrder κ] (f : κ → ν → Except ε μ) (m : SortedMap κ ν)
    (r : SortedMap κ μ) : m.traverse f = .ok r ↔ r.keys = m.keys ∧
      ∀ key value, m.get? key = some value → ∃ w, r.get? key = some w ∧ f key value = .ok w := by
  constructor
  · exact fun done => ⟨keys_traverse f m done, traverse_get m f r done⟩
  · rintro ⟨keys, each⟩
    obtain ⟨other, done⟩ := traverse_succeeds f m fun entry mem => by
      obtain ⟨w, _, made⟩ := each entry.1 entry.2 ((get_eq_some_iff m entry.1 entry.2).mpr mem)
      exact ⟨w, made⟩
    suffices same : r = other by rw [same, done]
    refine ext_get r other fun key => ?_
    cases found : m.get? key with
    | none =>
        rw [get_eq_none_iff] at found
        rw [(get_eq_none_iff r key).mpr (keys ▸ found), (get_eq_none_iff other key).mpr (keys_traverse f m done ▸ found)]
    | some value =>
        obtain ⟨w, here, made⟩ := each key value found
        obtain ⟨w', there, again⟩ := traverse_get m f other done key value found
        rw [made] at again
        cases again
        rw [here, there]

end FactorGraph.SortedMap
