/-!
Finite maps held as lists of entries in strictly ascending key order.

The order is the only invariant and it is part of the type, so a map has one
representation: two maps with equal lookups are equal (`SortedMap.ext_find?`), and the
list of entries is the order in which the map is written.  Every operation is described
by what it does to lookups (`find?_insert`, `find?_insert_of_ne`, …); nothing after
this file unfolds the lists.
-/

namespace Recommend

universe u v w

/-- A map from `κ` to `α`, its entries in strictly ascending order of their keys. -/
structure SortedMap (κ : Type u) (α : Type v) [Ord κ] where
  entries : List (κ × α)
  ascending : entries.Pairwise fun a b => compare a.1 b.1 = .lt
  deriving DecidableEq

namespace SortedMap

variable {κ : Type u} {α : Type v} {β : Type w} [Ord κ]

/-! ### Entry lists -/

/-- The value at `k` in an ascending entry list; the search ends at the first larger
key. -/
def lookup? (k : κ) : List (κ × α) → Option α
  | [] => none
  | (k', a) :: rest =>
    match compare k k' with
    -- all keys from here on are larger
    | .lt => none
    | .eq => some a
    | .gt => lookup? k rest

/-- Put `a` at `k` into an ascending entry list, in place of what was there. -/
def insertEntry (k : κ) (a : α) : List (κ × α) → List (κ × α)
  | [] => [(k, a)]
  | (k', a') :: rest =>
    match compare k k' with
    | .lt => (k, a) :: (k', a') :: rest
    | .eq => (k, a) :: rest
    | .gt => (k', a') :: insertEntry k a rest

theorem mem_insertEntry {k : κ} {a : α} {e : κ × α} :
    ∀ {l : List (κ × α)}, e ∈ insertEntry k a l → e = (k, a) ∨ e ∈ l
  | [], h => by simpa [insertEntry] using h
  | (k', a') :: rest, h => by
    unfold insertEntry at h
    split at h
    · simpa using h
    · rcases List.mem_cons.1 h with h | h
      · exact .inl h
      · exact .inr (List.mem_cons_of_mem _ h)
    · rcases List.mem_cons.1 h with h | h
      · exact .inr (h ▸ List.mem_cons_self)
      · rcases mem_insertEntry h with h | h
        · exact .inl h
        · exact .inr (List.mem_cons_of_mem _ h)

theorem pairwise_insertEntry [Std.TransOrd κ] [Std.LawfulEqOrd κ] (k : κ) (a : α) :
    ∀ {l : List (κ × α)}, l.Pairwise (fun a b => compare a.1 b.1 = .lt) →
      (insertEntry k a l).Pairwise (fun a b => compare a.1 b.1 = .lt)
  | [], _ => by simp [insertEntry]
  | (k', a') :: rest, h => by
    obtain ⟨hhead, htail⟩ := List.pairwise_cons.1 h
    unfold insertEntry
    split
    -- in front: smaller than the first key, and so than all
    next hlt =>
      refine List.pairwise_cons.2 ⟨fun e he => ?_, h⟩
      rcases List.mem_cons.1 he with rfl | he
      · exact hlt
      · exact Std.TransCmp.lt_trans hlt (hhead e he)
    next heq =>
      obtain rfl := Std.LawfulEqCmp.eq_of_compare heq
      exact List.pairwise_cons.2 ⟨hhead, htail⟩
    -- further on: what is new is larger than the first key as well
    next hgt =>
      refine List.pairwise_cons.2 ⟨fun e he => ?_, pairwise_insertEntry k a htail⟩
      rcases mem_insertEntry he with rfl | he
      · exact Std.OrientedCmp.lt_of_gt hgt
      · exact hhead e he

theorem lookup?_insertEntry [Std.TransOrd κ] [Std.LawfulEqOrd κ] (k k' : κ) (a : α) :
    ∀ l : List (κ × α),
      lookup? k' (insertEntry k a l) = if compare k' k = .eq then some a else lookup? k' l
  | [] => by
    unfold insertEntry lookup?
    cases h : compare k' k <;> simp [lookup?]
  | (k₁, a₁) :: rest => by
    unfold insertEntry
    split
    next hlt =>
      rw [lookup?]
      cases h : compare k' k with
      | eq => rfl
      | gt => simp
      | lt => simp [lookup?, Std.TransCmp.lt_trans h hlt]
    next heq =>
      obtain rfl := Std.LawfulEqCmp.eq_of_compare heq
      rw [lookup?, lookup?]
      cases h : compare k' k <;> simp
    -- behind the first entry, which both lookups pass or stop at
    next hgt =>
      rw [lookup?, lookup?, lookup?_insertEntry k k' a rest]
      cases h : compare k' k₁ with
      | gt => rfl
      | lt =>
        have : compare k' k ≠ .eq := fun e => by
          obtain rfl := Std.LawfulEqCmp.eq_of_compare e
          simp [h] at hgt
        simp [this]
      | eq =>
        obtain rfl := Std.LawfulEqCmp.eq_of_compare h
        have : compare k' k ≠ .eq := fun e => by
          obtain rfl := Std.LawfulEqCmp.eq_of_compare e
          simp at hgt
        simp [this]

theorem lookup?_eq_none {k : κ} :
    ∀ {l : List (κ × α)}, (∀ e ∈ l, compare k e.1 = .lt) → lookup? k l = none
  | [], _ => rfl
  | e :: _, h => by simp [lookup?, h e List.mem_cons_self]

theorem eq_of_lookup?_eq [Std.TransOrd κ] [Std.LawfulEqOrd κ] :
    ∀ {l₁ l₂ : List (κ × α)}, l₁.Pairwise (fun a b => compare a.1 b.1 = .lt) →
      l₂.Pairwise (fun a b => compare a.1 b.1 = .lt) →
      (∀ k, lookup? k l₁ = lookup? k l₂) → l₁ = l₂
  | [], [], _, _, _ => rfl
  | [], (k₂, _) :: _, _, _, h => by simpa [lookup?] using h k₂
  | (k₁, _) :: _, [], _, _, h => by simpa [lookup?] using h k₁
  | (k₁, a₁) :: r₁, (k₂, a₂) :: r₂, h₁, h₂, h => by
    obtain ⟨hd₁, tl₁⟩ := List.pairwise_cons.1 h₁
    obtain ⟨hd₂, tl₂⟩ := List.pairwise_cons.1 h₂
    cases hc : compare k₁ k₂ with
    -- the smaller of the two first keys is found in one list only
    | lt => simpa [lookup?, hc] using h k₁
    | gt => simpa [lookup?, Std.OrientedCmp.lt_of_gt hc] using h k₂
    | eq =>
      obtain rfl := Std.LawfulEqCmp.eq_of_compare hc
      have ha : a₁ = a₂ := by simpa [lookup?] using h k₁
      subst ha
      -- the first entries are the same, and no other key is affected by them
      have hr : ∀ k, lookup? k r₁ = lookup? k r₂ := fun k => by
        cases hk : compare k k₁ with
        | gt => simpa [lookup?, hk] using h k
        | lt =>
          rw [lookup?_eq_none fun e he => Std.TransCmp.lt_trans hk (hd₁ e he),
            lookup?_eq_none fun e he => Std.TransCmp.lt_trans hk (hd₂ e he)]
        | eq =>
          obtain rfl := Std.LawfulEqCmp.eq_of_compare hk
          rw [lookup?_eq_none hd₁, lookup?_eq_none hd₂]
      rw [eq_of_lookup?_eq tl₁ tl₂ hr]

/-! ### Operations -/

/-- The map without entries. -/
def empty : SortedMap κ α := ⟨[], .nil⟩

instance : Inhabited (SortedMap κ α) := ⟨empty⟩

instance : EmptyCollection (SortedMap κ α) := ⟨empty⟩

/-- The entries in ascending key order. -/
def toList (m : SortedMap κ α) : List (κ × α) := m.entries

/-- The keys in ascending order. -/
def keys (m : SortedMap κ α) : List κ := m.entries.map Prod.fst

/-- How many entries there are. -/
def size (m : SortedMap κ α) : Nat := m.entries.length

/-- Whether there are no entries. -/
def isEmpty (m : SortedMap κ α) : Bool := m.entries.isEmpty

/-- The value under a key. -/
def find? (m : SortedMap κ α) (k : κ) : Option α := lookup? k m.entries

/-- Whether there is a value under a key. -/
def contains (m : SortedMap κ α) (k : κ) : Bool := (m.find? k).isSome

/-- Enter a value under a key, in place of one that is there. -/
def insert [Std.TransOrd κ] [Std.LawfulEqOrd κ] (m : SortedMap κ α) (k : κ) (a : α) :
    SortedMap κ α :=
  ⟨insertEntry k a m.entries, pairwise_insertEntry k a m.ascending⟩

/-- Enter the pairs one after the other; the last of several with one key stays. -/
def ofList [Std.TransOrd κ] [Std.LawfulEqOrd κ] (l : List (κ × α)) : SortedMap κ α :=
  l.foldl (fun m e => m.insert e.1 e.2) empty

/-- Keep the entries that satisfy `p`. -/
def filter (p : κ → α → Bool) (m : SortedMap κ α) : SortedMap κ α :=
  ⟨m.entries.filter fun e => p e.1 e.2, m.ascending.filter _⟩

/-- The same keys with other values. -/
def mapValues (f : α → β) (m : SortedMap κ α) : SortedMap κ β :=
  ⟨m.entries.map fun e => (e.1, f e.2), by
    simpa [List.pairwise_map] using m.ascending⟩

/-! ### Lookups -/

@[simp] theorem find?_empty (k : κ) : (empty : SortedMap κ α).find? k = none := rfl

theorem find?_insert [Std.TransOrd κ] [Std.LawfulEqOrd κ] (m : SortedMap κ α) (k k' : κ)
    (a : α) :
    (m.insert k a).find? k' = if compare k' k = .eq then some a else m.find? k' :=
  lookup?_insertEntry k k' a m.entries

@[simp] theorem find?_insert_self [Std.TransOrd κ] [Std.LawfulEqOrd κ] (m : SortedMap κ α)
    (k : κ) (a : α) : (m.insert k a).find? k = some a := by
  simp [find?_insert]

theorem find?_insert_of_ne [Std.TransOrd κ] [Std.LawfulEqOrd κ] (m : SortedMap κ α)
    {k k' : κ} (a : α) (h : k' ≠ k) : (m.insert k a).find? k' = m.find? k' := by
  have : compare k' k ≠ .eq := fun e => h (Std.LawfulEqCmp.eq_of_compare e)
  simp [find?_insert, this]

/-- Maps with equal lookups are equal. -/
theorem ext_find? [Std.TransOrd κ] [Std.LawfulEqOrd κ] {m₁ m₂ : SortedMap κ α}
    (h : ∀ k, m₁.find? k = m₂.find? k) : m₁ = m₂ := by
  obtain ⟨l₁, h₁⟩ := m₁
  obtain ⟨l₂, h₂⟩ := m₂
  obtain rfl := eq_of_lookup?_eq h₁ h₂ h
  rfl

end SortedMap

end Recommend
