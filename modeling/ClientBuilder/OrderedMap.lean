import ClientBuilder.Text.Basic

namespace ClientBuilder

structure OrderedMap (α : Type) where
  pairs : List (Text × α)
  nodup_keys : (pairs.map (·.1)).Nodup
  deriving DecidableEq

namespace OrderedMap

variable {α : Type}

@[ext] theorem ext {m n : OrderedMap α} (h : m.pairs = n.pairs) : m = n := by
  cases m
  cases n
  simp_all

def empty : OrderedMap α :=
  ⟨[], List.nodup_nil⟩

instance : Inhabited (OrderedMap α) :=
  ⟨empty⟩

def keys (m : OrderedMap α) : List Text :=
  m.pairs.map (·.1)

def values (m : OrderedMap α) : List α :=
  m.pairs.map (·.2)

def size (m : OrderedMap α) : Nat :=
  m.pairs.length

def isEmpty (m : OrderedMap α) : Bool :=
  m.pairs.isEmpty

def get? (m : OrderedMap α) (name : Text) : Option α :=
  m.pairs.lookup name

def contains (m : OrderedMap α) (name : Text) : Bool :=
  m.keys.contains name

def insertPair (name : Text) (value : α) : List (Text × α) → List (Text × α)
  | [] => [(name, value)]
  | p :: r => if p.1 = name then (name, value) :: r else p :: insertPair name value r

/-- An insertion keeps the order of the names, a new one coming last. -/
theorem keys_insertPair (name : Text) (value : α) (pairs : List (Text × α)) :
    (insertPair name value pairs).map (·.1) =
      if name ∈ pairs.map (·.1) then pairs.map (·.1) else pairs.map (·.1) ++ [name] := by
  induction pairs with
  | nil => simp [insertPair]
  | cons p r ih =>
    by_cases h : p.1 = name
    · simp [insertPair, h]
    · have h' : name ≠ p.1 := Ne.symm h
      simp only [insertPair, h, if_false, List.map_cons, ih, List.mem_cons, h', false_or]
      split <;> simp

/-- No insertion makes a name stand twice. -/
theorem nodup_insertPair (name : Text) (value : α) {pairs : List (Text × α)}
    (h : (pairs.map (·.1)).Nodup) : ((insertPair name value pairs).map (·.1)).Nodup := by
  rw [keys_insertPair]
  split
  · exact h
  · next hn =>
    rw [List.nodup_append]
    refine ⟨h, by simp, ?_⟩
    intro a ha b hb
    simp only [List.mem_singleton] at hb
    subst hb
    exact fun he => hn (he ▸ ha)

def insert (m : OrderedMap α) (name : Text) (value : α) : OrderedMap α :=
  ⟨insertPair name value m.pairs, nodup_insertPair name value m.nodup_keys⟩

def erase (m : OrderedMap α) (name : Text) : OrderedMap α :=
  ⟨m.pairs.filter fun p => p.1 ≠ name,
    m.nodup_keys.sublist (List.Sublist.map _ List.filter_sublist)⟩

/-- The mapping of a list of pairs; where a name repeats, it keeps its first place and its last
value. -/
def ofList (pairs : List (Text × α)) : OrderedMap α :=
  pairs.foldl (fun m p => m.insert p.1 p.2) empty

theorem keys_insert (m : OrderedMap α) (name : Text) (value : α) :
    (m.insert name value).keys = if name ∈ m.keys then m.keys else m.keys ++ [name] :=
  keys_insertPair name value m.pairs

theorem insertPair_of_not_mem {name : Text} {pairs : List (Text × α)} (value : α)
    (h : name ∉ pairs.map (·.1)) : insertPair name value pairs = pairs ++ [(name, value)] := by
  induction pairs with
  | nil => rfl
  | cons p r ih =>
    rw [List.map_cons, List.mem_cons, not_or] at h
    rw [insertPair, if_neg (Ne.symm h.1), ih h.2, List.cons_append]

/-- The mapping of a mapping's own pairs is the mapping itself. -/
theorem ofList_pairs (m : OrderedMap α) : ofList m.pairs = m := by
  -- The pairs put in so far stand in front of those still to come, and no name repeats.
  have hrow (rest : List (Text × α)) (acc : OrderedMap α)
      (h : ((acc.pairs ++ rest).map (·.1)).Nodup) :
      (rest.foldl (fun n p => n.insert p.1 p.2) acc).pairs = acc.pairs ++ rest := by
    induction rest generalizing acc with
    | nil => simp only [List.foldl_nil, List.append_nil]
    | cons p r ih =>
      have hp : p.1 ∉ acc.pairs.map (·.1) := by
        rw [List.map_append, List.nodup_append] at h
        exact fun hm => h.2.2 p.1 hm p.1 List.mem_cons_self rfl
      have hi : (acc.insert p.1 p.2).pairs = acc.pairs ++ [p] := insertPair_of_not_mem p.2 hp
      have ha : acc.pairs ++ p :: r = (acc.insert p.1 p.2).pairs ++ r := by
        rw [hi, List.append_assoc, List.singleton_append]
      rw [List.foldl_cons, ih (acc.insert p.1 p.2) (ha ▸ h), ha]
  exact ext (hrow m.pairs empty m.nodup_keys)

end OrderedMap

end ClientBuilder
