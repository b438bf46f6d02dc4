import FactorGraph.Graph.Error

set_option autoImplicit false

namespace FactorGraph

abbrev Values (α : Type) := KeyMap (Value α)

abbrev Updates (α : Type) := KeyMap (List α)

namespace Values

variable {α : Type}

def mismatch (key : Key) (expected actual : VariableType) : GraphError α :=
  .typeMismatch key expected.name actual.name

def add (values : Values α) (key : Key) (value : Value α) : Except (GraphError α) (Values α) :=
  if values.contains key then .error (.duplicateKey key) else .ok (values.insert key value)

def ofEntries (entries : List (Key × Value α)) : Except (GraphError α) (Values α) :=
  entries.foldlM (fun values e => values.add e.1 e.2) .empty

def update (values : Values α) (key : Key) (value : Value α) :
    Except (GraphError α) (Values α) :=
  match values.get? key with
  | none => .error (.missingKey key)
  | some old =>
      if old.type = value.type then .ok (values.insert key value)
      else .error (mismatch key old.type value.type)

def find (values : Values α) (key : Key) : Except (GraphError α) (Value α) :=
  match values.get? key with
  | none => .error (.missingKey key)
  | some value => .ok value

variable [Scalar α]

def lookup (M : Type) [Variable α M] (values : Values α) (key : Key) : Except (GraphError α) M := do
  let value ← values.find key
  match Variable.ofValue? (M := M) value with
  | some x => return x
  | none => throw (mismatch key (Variable.type (α := α) M) value.type)

def lookupValue (values : Values α) (key : Key) : VariableType → Except (GraphError α) (Value α)
  | .pose2 => Variable.toValue <$> values.lookup (Pose2 α) key
  | .pose3 => Variable.toValue <$> values.lookup (Pose3 α) key
  | .point3 => Variable.toValue <$> values.lookup (Vec3 α) key
  | .vector => Variable.toValue <$> values.lookup (List α) key
  | .calibration => Variable.toValue <$> values.lookup (Calibration α) key
  | .camera => Variable.toValue <$> values.lookup (Camera α) key

def dimension (values : Values α) : Nat := values.values.foldr (·.dimension + ·) 0

def retract (values : Values α) (updates : Updates α) : Except (GraphError α) (Values α) :=
  match updates.keys.find? (!values.contains ·) with
  | some key => .error (.missingKey key)
  | none =>
      values.traverse fun key value =>
        match updates.get? key with
        | none => .ok value
        | some delta => (value.retract delta).mapError .manifold

def between (key : Key) (a b : Value α) : Except (GraphError α) (List α) :=
  match a.localCoordinates? b with
  | none => .error (mismatch key a.type b.type)
  | some d => d.mapError .manifold

def localCoordinates (a b : Values α) : Except (GraphError α) (Updates α) :=
  match b.keys.find? (!a.contains ·) with
  | some key => .error (.missingKey key)
  | none =>
      a.traverse fun key value => do
        let target ← b.find key
        between key value target

def same (a b : Values α) : Bool :=
  a.entries.length == b.entries.length
    && (a.entries.zip b.entries).all fun (x, y) => x.1 == y.1 && x.2 == y.2

end Values

namespace Updates

variable {α : Type} [Scalar α]

def zero (values : Values α) : Updates α :=
  values.map fun _ value => List.replicate value.dimension 0

def norm (updates : Updates α) : α :=
  Scalar.sqrt (Scalar.total (updates.values.map fun v => Block.dot v v))

def scale (factor : α) (updates : Updates α) : Updates α := updates.map fun _ v => v.map (· * factor)

def isFinite (updates : Updates α) : Bool := updates.values.all fun v => v.all Scalar.isFinite

end Updates

end FactorGraph
