/-!
# Maps in order of insertion

Own properties of an object and bindings of a scope are both listed in the order in which they
were created, and writing to an entry that exists leaves it where it is. `OrderedMap` is a list
of pairs with exactly that behaviour: `insert` replaces in place or appends, `erase` closes the
gap. The view of a map is `get?` together with `keys`; every operation has one lemma for each.
-/

namespace FunctionObjects

/-- A finite map whose entries keep the order in which their keys were first inserted. -/
structure OrderedMap (α β : Type) : Type where
  entries : List (α × β) := []

namespace OrderedMap

variable {α β : Type}

instance : Inhabited (OrderedMap α β) := ⟨{}⟩

/-- The keys, oldest first. -/
def keys (m : OrderedMap α β) : List α := m.entries.map Prod.fst

/-- A key occurs at most once. Every map built by `insert` and `erase` from the empty one is so. -/
def Distinct (m : OrderedMap α β) : Prop := m.keys.Nodup

theorem distinct_empty : Distinct ({} : OrderedMap α β) := List.nodup_nil

variable [DecidableEq α]

def get? (m : OrderedMap α β) (k : α) : Option β :=
  (m.entries.find? fun entry => decide (entry.1 = k)).map Prod.snd

def contains (m : OrderedMap α β) (k : α) : Bool := (m.get? k).isSome

/-- Store `v` under `k` in a list of entries: in the place of the entry for `k`, or at the end. -/
def insertEntry (k : α) (v : β) : List (α × β) → List (α × β)
  | [] => [(k, v)]
  | (k', v') :: rest => if k' = k then (k, v) :: rest else (k', v') :: insertEntry k v rest

/-- Store `v` under `k`, keeping the place of an entry that exists. -/
def insert (m : OrderedMap α β) (k : α) (v : β) : OrderedMap α β :=
  ⟨insertEntry k v m.entries⟩

/-- Remove the entry for `k`, if there is one; the others keep their order. -/
def erase (m : OrderedMap α β) (k : α) : OrderedMap α β :=
  ⟨m.entries.filter fun entry => decide (entry.1 ≠ k)⟩

/-! ### What a lookup sees after each operation -/

@[simp] theorem get?_empty (k : α) : get? ({} : OrderedMap α β) k = none := rfl

theorem get?_cons (k' : α) (v : β) (rest : List (α × β)) (k : α) :
    get? ⟨(k', v) :: rest⟩ k = if k' = k then some v else get? ⟨rest⟩ k := by
  by_cases h : k' = k <;> simp [get?, h]

theorem get?_insert_self (m : OrderedMap α β) (k : α) (v : β) :
    (m.insert k v).get? k = some v := by
  obtain ⟨es⟩ := m
  show get? ⟨insertEntry k v es⟩ k = some v
  induction es with
  | nil => simp [insertEntry, get?]
  | cons e rest ih =>
    obtain ⟨k', v'⟩ := e
    rw [insertEntry]
    split
    · simp [get?_cons]
    · next h => rw [get?_cons, if_neg h, ih]

theorem get?_insert_of_ne (m : OrderedMap α β) {k k' : α} (v : β) (h : k' ≠ k) :
    (m.insert k v).get? k' = m.get? k' := by
  obtain ⟨es⟩ := m
  show get? ⟨insertEntry k v es⟩ k' = get? ⟨es⟩ k'
  induction es with
  | nil => simp [insertEntry, get?, Ne.symm h]
  | cons e rest ih =>
    obtain ⟨k₀, v₀⟩ := e
    rw [insertEntry]
    split
    · next h₀ => rw [get?_cons, get?_cons, h₀, if_neg (Ne.symm h), if_neg (Ne.symm h)]
    · rw [get?_cons, get?_cons, ih]

/-- Inserting changes the answer for the inserted key only. -/
theorem get?_insert (m : OrderedMap α β) (k k' : α) (v : β) :
    (m.insert k v).get? k' = if k' = k then some v else m.get? k' := by
  split
  · next h => rw [h, get?_insert_self]
  · next h => exact get?_insert_of_ne m v h

/-- Erasing changes the answer for the erased key only. -/
theorem get?_erase (m : OrderedMap α β) (k k' : α) :
    (m.erase k).get? k' = if k' = k then none else m.get? k' := by
  obtain ⟨es⟩ := m
  show get? ⟨es.filter fun entry => decide (entry.1 ≠ k)⟩ k' = _
  induction es with
  | nil => simp [get?]
  | cons e rest ih =>
    obtain ⟨k₀, v₀⟩ := e
    by_cases h₀ : k₀ = k
    · rw [List.filter_cons_of_neg (by simp [h₀]), ih, get?_cons, h₀]
      by_cases h : k' = k
      · simp [h]
      · simp [h, Ne.symm h]
    · rw [List.filter_cons_of_pos (by simpa using h₀), get?_cons, get?_cons, ih]
      by_cases h : k' = k
      · simp [h, h₀]
      · simp [h]

/-! ### The keys after each operation -/

theorem mem_keys_iff {m : OrderedMap α β} {k : α} : k ∈ m.keys ↔ m.contains k = true := by
  obtain ⟨es⟩ := m
  induction es with
  | nil => simp [keys, contains, get?]
  | cons e rest ih =>
    obtain ⟨k', v'⟩ := e
    show k ∈ k' :: keys ⟨rest⟩ ↔ (get? ⟨(k', v') :: rest⟩ k).isSome = true
    rw [List.mem_cons, ih, get?_cons]
    by_cases h : k' = k
    · simp [h]
    · simp [h, Ne.symm h, contains]

/-- An existing key keeps its place, a new one goes to the end. -/
theorem keys_insert (m : OrderedMap α β) (k : α) (v : β) :
    (m.insert k v).keys = if m.contains k = true then m.keys else m.keys ++ [k] := by
  obtain ⟨es⟩ := m
  show keys ⟨insertEntry k v es⟩ =
    if (get? ⟨es⟩ k).isSome = true then keys ⟨es⟩ else keys ⟨es⟩ ++ [k]
  induction es with
  | nil => simp [insertEntry, get?, keys]
  | cons e rest ih =>
    obtain ⟨k', v'⟩ := e
    rw [insertEntry, get?_cons]
    by_cases h : k' = k
    · simp [h, keys]
    · rw [if_neg h, if_neg h]
      show k' :: keys ⟨insertEntry k v rest⟩ =
        if _ then k' :: keys ⟨rest⟩ else k' :: (keys ⟨rest⟩ ++ [k])
      rw [ih]
      split <;> rfl

/-- A key that is new goes to the end. -/
theorem insert_of_not_mem (m : OrderedMap α β) {k : α} (v : β) (h : k ∉ m.keys) :
    m.insert k v = ⟨m.entries ++ [(k, v)]⟩ := by
  obtain ⟨es⟩ := m
  show OrderedMap.mk (insertEntry k v es) = ⟨es ++ [(k, v)]⟩
  induction es with
  | nil => rfl
  | cons e rest ih =>
    obtain ⟨k', v'⟩ := e
    have h : k ≠ k' ∧ k ∉ keys ⟨rest⟩ := by simpa [keys] using h
    have ih := OrderedMap.mk.inj (ih h.2)
    rw [insertEntry, if_neg (Ne.symm h.1), ih]
    rfl

/-- Of two values stored under one key, one after the other, the second stays. -/
theorem insert_insert (m : OrderedMap α β) (k : α) (v w : β) :
    (m.insert k v).insert k w = m.insert k w := by
  obtain ⟨es⟩ := m
  show OrderedMap.mk (insertEntry k w (insertEntry k v es)) = ⟨insertEntry k w es⟩
  congr 1
  induction es with
  | nil => simp [insertEntry]
  | cons e rest ih =>
    obtain ⟨k', v'⟩ := e
    by_cases h : k' = k
    · simp [insertEntry, h]
    · simp [insertEntry, h, ih]

theorem keys_erase (m : OrderedMap α β) (k : α) :
    (m.erase k).keys = m.keys.filter fun k' => decide (k' ≠ k) := by
  simp only [erase, keys, List.filter_map]
  rfl

theorem Distinct.insert {m : OrderedMap α β} (h : m.Distinct) (k : α) (v : β) :
    (m.insert k v).Distinct := by
  unfold Distinct
  rw [keys_insert]
  split
  · exact h
  · next hk =>
    refine List.nodup_append.2 ⟨h, List.nodup_cons.2 ⟨List.not_mem_nil, List.nodup_nil⟩, ?_⟩
    intro a ha b hb hab
    rw [List.mem_singleton] at hb
    exact hk (mem_keys_iff.1 (hb ▸ hab ▸ ha))

theorem Distinct.erase {m : OrderedMap α β} (h : m.Distinct) (k : α) : (m.erase k).Distinct := by
  unfold Distinct
  rw [keys_erase]
  exact List.Pairwise.filter _ h

/-! ### The place of an entry -/

/-- The answer of a map is the first entry for the key. -/
theorem exists_split {m : OrderedMap α β} {k : α} {v : β} (h : m.get? k = some v) :
    ∃ before after, m.entries = before ++ (k, v) :: after ∧ k ∉ before.map Prod.fst := by
  obtain ⟨entry, hfind, rfl⟩ := Option.map_eq_some_iff.1 h
  obtain ⟨hkey, before, after, hsplit, hbefore⟩ := List.find?_eq_some_iff_append.1 hfind
  obtain rfl := of_decide_eq_true hkey
  refine ⟨before, after, hsplit, fun hmem => ?_⟩
  obtain ⟨other, hother, hk⟩ := List.mem_map.1 hmem
  simpa [hk] using hbefore other hother

section

variable {before after : List (α × β)} {k : α} {v : β} (hk : k ∉ before.map Prod.fst)
include hk

theorem get?_of_split : get? ⟨before ++ (k, v) :: after⟩ k = some v := by
  induction before with
  | nil => rw [List.nil_append, get?_cons, if_pos rfl]
  | cons e rest ih =>
    obtain ⟨k', v'⟩ := e
    have hk : k ≠ k' ∧ k ∉ rest.map Prod.fst := by simpa using hk
    rw [List.cons_append, get?_cons, if_neg (Ne.symm hk.1), ih hk.2]

/-- The first entry for a key keeps its place when it is replaced, as do all others. -/
theorem insert_of_split (w : β) :
    insert ⟨before ++ (k, v) :: after⟩ k w = ⟨before ++ (k, w) :: after⟩ := by
  show OrderedMap.mk (insertEntry k w (before ++ (k, v) :: after)) = _
  induction before with
  | nil => rw [List.nil_append, insertEntry, if_pos rfl, List.nil_append]
  | cons e rest ih =>
    obtain ⟨k', v'⟩ := e
    have hk : k ≠ k' ∧ k ∉ rest.map Prod.fst := by simpa using hk
    have ih := OrderedMap.mk.inj (ih hk.2)
    rw [List.cons_append, insertEntry, if_neg (Ne.symm hk.1), ih]
    rfl

end

/-- Storing what is there already changes nothing. -/
theorem insert_of_get? {m : OrderedMap α β} {k : α} {v : β} (h : m.get? k = some v) :
    m.insert k v = m := by
  obtain ⟨before, after, hsplit, hk⟩ := exists_split h
  obtain ⟨es⟩ := m
  obtain rfl : es = before ++ (k, v) :: after := hsplit
  exact insert_of_split hk v

end OrderedMap

end FunctionObjects
