set_option autoImplicit false

namespace FactorGraph

class StrictOrder (κ : Type) [LT κ] : Prop where
  irrefl : ∀ a : κ, ¬ a < a
  trans : ∀ {a b c : κ}, a < b → b < c → a < c
  connected : ∀ a b : κ, ¬ a < b → ¬ b < a → a = b

instance : StrictOrder Nat where
  irrefl := Nat.lt_irrefl
  trans := Nat.lt_trans
  connected _ _ h k := Nat.le_antisymm (Nat.le_of_not_lt k) (Nat.le_of_not_lt h)

structure SortedMap (κ ν : Type) [LT κ] where
  entries : List (κ × ν)
  sorted : (entries.map Prod.fst).Pairwise (· < ·)

namespace SortedMap

variable {κ ν : Type} [LT κ]

section Entries

variable [DecidableLT κ]

def upsertEntry (key : κ) (f : Option ν → ν) : List (κ × ν) → List (κ × ν)
  | [] => [(key, f none)]
  | (k, v) :: rest =>
      if key < k then (key, f none) :: (k, v) :: rest
      else if k < key then (k, v) :: upsertEntry key f rest
      else (k, f (some v)) :: rest

def findEntry (key : κ) : List (κ × ν) → Option ν
  | [] => none
  | (k, v) :: rest =>
      if key < k then none else if k < key then findEntry key rest else some v

theorem mem_keys_upsertEntry [StrictOrder κ] (key : κ) (f : Option ν → ν) (es : List (κ × ν))
    (k : κ) : k ∈ (upsertEntry key f es).map Prod.fst ↔ k = key ∨ k ∈ es.map Prod.fst := by
  induction es with
  | nil => simp [upsertEntry]
  | cons e rest ih =>
      obtain ⟨k', v⟩ := e
      unfold upsertEntry
      split
      · simp
      · split
        · simp only [List.map_cons, List.mem_cons, ih]
          exact or_left_comm
        · rename_i h h'
          have same := StrictOrder.connected key k' h h'
          subst same
          simp

theorem sorted_upsertEntry [StrictOrder κ] (key : κ) (f : Option ν → ν) (es : List (κ × ν))
    (sorted : (es.map Prod.fst).Pairwise (· < ·)) :
    ((upsertEntry key f es).map Prod.fst).Pairwise (· < ·) := by
  induction es with
  | nil => simp [upsertEntry]
  | cons e rest ih =>
      obtain ⟨k, v⟩ := e
      rw [List.map_cons, List.pairwise_cons] at sorted
      unfold upsertEntry
      split
      · rename_i less
        simp only [List.map_cons, List.pairwise_cons, List.mem_cons]
        refine ⟨?_, sorted⟩
        rintro x (rfl | mem)
        · exact less
        · exact StrictOrder.trans less (sorted.1 x mem)
      · split
        · rename_i less
          rw [List.map_cons, List.pairwise_cons]
          refine ⟨fun x mem => ?_, ih sorted.2⟩
          rcases (mem_keys_upsertEntry key f rest x).mp mem with rfl | mem
          · exact less
          · exact sorted.1 x mem
        · rw [List.map_cons, List.pairwise_cons]
          exact sorted

theorem findEntry_upsertEntry_self [StrictOrder κ] (key : κ) (f : Option ν → ν)
    (es : List (κ × ν)) :
    findEntry key (upsertEntry key f es) = some (f (findEntry key es)) := by
  induction es with
  | nil => simp [upsertEntry, findEntry, StrictOrder.irrefl]
  | cons e rest ih =>
      obtain ⟨k, v⟩ := e
      by_cases less : key < k
      · simp [upsertEntry, findEntry, less, StrictOrder.irrefl]
      · by_cases more : k < key
        · simp [upsertEntry, findEntry, less, more, ih]
        · simp [upsertEntry, findEntry, less, more]

theorem findEntry_upsertEntry_of_ne [StrictOrder κ] {key other : κ} (different : other ≠ key)
    (f : Option ν → ν) (es : List (κ × ν)) :
    findEntry other (upsertEntry key f es) = findEntry other es := by
  have apart : ¬ other < key → ¬ key < other → False :=
    fun h k => different (StrictOrder.connected other key h k)
  induction es with
  | nil =>
      by_cases less : other < key
      · simp [upsertEntry, findEntry, less]
      · by_cases more : key < other
        · simp [upsertEntry, findEntry, less, more]
        · exact (apart less more).elim
  | cons e rest ih =>
      obtain ⟨k, v⟩ := e
      by_cases before : key < k
      · by_cases less : other < key
        · simp [upsertEntry, findEntry, before, less, StrictOrder.trans less before]
        · by_cases more : key < other
          · simp [upsertEntry, findEntry, before, less, more]
          · exact (apart less more).elim
      · by_cases after : k < key
        · simp [upsertEntry, findEntry, before, after, ih]
        · have same := StrictOrder.connected key k before after
          subst same
          by_cases less : other < key
          · simp [upsertEntry, findEntry, before, less]
          · by_cases more : key < other
            · simp [upsertEntry, findEntry, before, less, more]
            · exact (apart less more).elim

theorem findEntry_isSome [StrictOrder κ] (key : κ) (es : List (κ × ν))
    (sorted : (es.map Prod.fst).Pairwise (· < ·)) :
    (findEntry key es).isSome = true ↔ key ∈ es.map Prod.fst := by
  induction es with
  | nil => simp [findEntry]
  | cons e rest ih =>
      obtain ⟨k, v⟩ := e
      rw [List.map_cons, List.pairwise_cons] at sorted
      by_cases less : key < k
      · simp only [findEntry, less, if_true, Option.isSome_none, Bool.false_eq_true, false_iff,
          List.map_cons, List.mem_cons, not_or]
        refine ⟨fun same => StrictOrder.irrefl k (same ▸ less), fun mem => ?_⟩
        exact StrictOrder.irrefl key (StrictOrder.trans less (sorted.1 key mem))
      · by_cases more : k < key
        · have different : key ≠ k := fun same => StrictOrder.irrefl k (same ▸ more)
          simp only [findEntry, less, more, if_false, if_true, ih sorted.2, List.map_cons,
            List.mem_cons, different, false_or]
        · have same := StrictOrder.connected key k less more
          subst same
          simp [findEntry, less]

end Entries

def empty : SortedMap κ ν := ⟨[], List.Pairwise.nil⟩

instance : Inhabited (SortedMap κ ν) := ⟨empty⟩

def keys (m : SortedMap κ ν) : List κ := m.entries.map Prod.fst

def values (m : SortedMap κ ν) : List ν := m.entries.map Prod.snd

def size (m : SortedMap κ ν) : Nat := m.entries.length

def isEmpty (m : SortedMap κ ν) : Bool := m.entries.isEmpty

section Lookup

variable [DecidableLT κ]

def get? (m : SortedMap κ ν) (key : κ) : Option ν := findEntry key m.entries

def contains (m : SortedMap κ ν) (key : κ) : Bool := (m.get? key).isSome

theorem contains_iff_mem_keys [StrictOrder κ] (m : SortedMap κ ν) (key : κ) :
    m.contains key = true ↔ key ∈ m.keys :=
  findEntry_isSome key m.entries m.sorted

end Lookup

section Update

variable [DecidableLT κ] [StrictOrder κ]

def upsert (m : SortedMap κ ν) (key : κ) (f : Option ν → ν) : SortedMap κ ν :=
  ⟨upsertEntry key f m.entries, sorted_upsertEntry key f m.entries m.sorted⟩

def insert (m : SortedMap κ ν) (key : κ) (value : ν) : SortedMap κ ν :=
  m.upsert key fun _ => value

theorem get?_insert_self (m : SortedMap κ ν) (key : κ) (value : ν) :
    (m.insert key value).get? key = some value :=
  findEntry_upsertEntry_self key (fun _ => value) m.entries

theorem get?_insert_of_ne (m : SortedMap κ ν) {key other : κ} (different : other ≠ key)
    (value : ν) : (m.insert key value).get? other = m.get? other :=
  findEntry_upsertEntry_of_ne different (fun _ => value) m.entries

theorem mem_keys_insert (m : SortedMap κ ν) (key : κ) (value : ν) (k : κ) :
    k ∈ (m.insert key value).keys ↔ k = key ∨ k ∈ m.keys :=
  mem_keys_upsertEntry key (fun _ => value) m.entries k

def ofList (es : List (κ × ν)) : SortedMap κ ν :=
  es.foldl (fun m e => m.insert e.1 e.2) empty

end Update

variable {μ ε : Type}

def map (f : κ → ν → μ) (m : SortedMap κ ν) : SortedMap κ μ where
  entries := m.entries.map fun e => (e.1, f e.1 e.2)
  sorted := by simpa [List.map_map, Function.comp_def] using m.sorted

theorem keys_map (f : κ → ν → μ) (m : SortedMap κ ν) : (m.map f).keys = m.keys := by
  simp [keys, map]

def traverseEntries (f : κ → ν → Except ε μ) :
    (es : List (κ × ν)) → Except ε { r : List (κ × μ) // r.map Prod.fst = es.map Prod.fst }
  | [] => .ok ⟨[], rfl⟩
  | (k, v) :: rest =>
      match f k v with
      | .error e => .error e
      | .ok w =>
          match traverseEntries f rest with
          | .error e => .error e
          | .ok ⟨r, h⟩ => .ok ⟨(k, w) :: r, by simp [h]⟩

def traverse (f : κ → ν → Except ε μ) (m : SortedMap κ ν) : Except ε (SortedMap κ μ) :=
  match traverseEntries f m.entries with
  | .error e => .error e
  | .ok ⟨r, h⟩ => .ok ⟨r, h ▸ m.sorted⟩

theorem keys_traverse (f : κ → ν → Except ε μ) (m : SortedMap κ ν) {r : SortedMap κ μ}
    (h : m.traverse f = .ok r) : r.keys = m.keys := by
  unfold traverse at h
  split at h
  · cases h
  · rename_i out same _
    cases h
    exact same

end SortedMap

end FactorGraph
