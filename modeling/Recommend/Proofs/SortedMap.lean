import Mathlib.Data.List.Forall2
import Recommend.SortedMap

/-!
Sorted maps seen from both sides: as lookups and as lists of entries.

A map is read by `find?` and written by `toList`, and the proofs about stores need to
pass from one to the other.  The bridge is `mem_toList_iff`: an entry stands in the list
iff the lookup of its key finds it.  From it follow the lookups of filtered and mapped
maps, that a map is the map of its own entries (`ofList_toList`), and that folding over
the entries visits every key once (`nodup_keys`).
-/

namespace Recommend.SortedMap

universe u v w

variable {κ : Type u} {α : Type v} {β : Type w} [Ord κ]

/-! ### Entries and lookups -/

/-- In an ascending list a lookup finds exactly what stands there. -/
theorem lookup?_eq_some_iff [Std.TransOrd κ] [Std.LawfulEqOrd κ] {k : κ} {a : α} :
    ∀ {l : List (κ × α)}, l.Pairwise (fun a b => compare a.1 b.1 = .lt) →
      (lookup? k l = some a ↔ (k, a) ∈ l)
  | [], _ => by simp [lookup?]
  | (k', a') :: rest, h => by
    obtain ⟨hhead, htail⟩ := List.pairwise_cons.1 h
    have hmem : (k, a) ∈ rest → compare k' k = .lt := fun hr => hhead _ hr
    rw [lookup?, List.mem_cons]
    -- the list ascends, so a key that is not larger than the first one stands at no
    -- later place
    cases hc : compare k k' with
    | gt =>
      have hne : k ≠ k' := by
        rintro rfl
        simp at hc
      simp [lookup?_eq_some_iff htail, hne]
    | eq =>
      obtain rfl := Std.LawfulEqCmp.eq_of_compare hc
      have hout : (k, a) ∉ rest := fun hr => by simpa using hmem hr
      simp [hout, eq_comm]
    | lt =>
      have hne : k ≠ k' := by
        rintro rfl
        simp at hc
      have hout : (k, a) ∉ rest := fun hr => by
        have := Std.TransCmp.lt_trans hc (hmem hr)
        simp at this
      simp [hout, hne]

/-- An entry stands in the list iff the lookup of its key finds it. -/
theorem mem_toList_iff [Std.TransOrd κ] [Std.LawfulEqOrd κ] {m : SortedMap κ α} {k : κ}
    {a : α} :
    (k, a) ∈ m.toList ↔ m.find? k = some a :=
  (lookup?_eq_some_iff m.ascending).symm

/-- A key is listed iff there is a value under it. -/
theorem mem_keys_iff [Std.TransOrd κ] [Std.LawfulEqOrd κ] {m : SortedMap κ α} {k : κ} :
    k ∈ m.keys ↔ m.contains k = true := by
  rw [contains, Option.isSome_iff_exists]
  constructor
  · intro h
    obtain ⟨⟨k', a⟩, he, rfl⟩ := List.mem_map.1 h
    exact ⟨a, mem_toList_iff.1 he⟩
  · rintro ⟨a, ha⟩
    exact List.mem_map.2 ⟨(k, a), mem_toList_iff.2 ha, rfl⟩

/-- No key is listed twice. -/
theorem nodup_keys [Std.TransOrd κ] [Std.LawfulEqOrd κ] (m : SortedMap κ α) :
    m.keys.Nodup := by
  rw [keys, List.Nodup, List.pairwise_map]
  refine m.ascending.imp ?_
  intro a b hlt heq
  rw [heq] at hlt
  simp at hlt

/-! ### Derived maps -/

/-- A lookup in a filtered map. -/
theorem find?_filter [Std.TransOrd κ] [Std.LawfulEqOrd κ] (p : κ → α → Bool)
    (m : SortedMap κ α) (k : κ) : (m.filter p).find? k = (m.find? k).filter (p k) := by
  apply Option.ext
  intro a
  rw [← mem_toList_iff, Option.filter_eq_some_iff, ← mem_toList_iff]
  simp [filter, toList]

/-- A lookup among mapped values. -/
theorem find?_mapValues [Std.TransOrd κ] [Std.LawfulEqOrd κ] (f : α → β) (m : SortedMap κ α)
    (k : κ) : (m.mapValues f).find? k = (m.find? k).map f := by
  apply Option.ext
  intro b
  rw [← mem_toList_iff, Option.map_eq_some_iff]
  simp only [← mem_toList_iff]
  simp only [mapValues, toList, List.mem_map, Prod.mk.injEq, Prod.exists]
  constructor
  · rintro ⟨k', a, he, rfl, rfl⟩
    exact ⟨a, he, rfl⟩
  · rintro ⟨a, he, rfl⟩
    exact ⟨k, a, he, rfl, rfl⟩

/-- After an insertion the key is there, and all that were there. -/
theorem contains_insert [Std.TransOrd κ] [Std.LawfulEqOrd κ] (m : SortedMap κ α) (k k' : κ)
    (a : α) : (m.insert k a).contains k' = true ↔ k' = k ∨ m.contains k' = true := by
  by_cases h : k' = k
  · subst h
    simp [contains]
  · simp [contains, find?_insert_of_ne m a h, h]

theorem length_insertEntry_le (k : κ) (a : α) (l : List (κ × α)) :
    (insertEntry k a l).length ≤ l.length + 1 := by
  induction l with
  | nil => exact Nat.le_refl _
  | cons e rest ih =>
    unfold insertEntry
    split
    next => exact Nat.le_refl _
    next => exact Nat.le_succ _
    next => exact Nat.succ_le_succ ih

theorem size_insert_le [Std.TransOrd κ] [Std.LawfulEqOrd κ] (m : SortedMap κ α) (k : κ)
    (a : α) :
    (m.insert k a).size ≤ m.size + 1 :=
  length_insertEntry_le k a m.entries

theorem length_keys (m : SortedMap κ α) : m.keys.length = m.size :=
  List.length_map Prod.fst

/-- A key that is already there keeps its place, and a new one makes the map larger by
one. -/
theorem size_insert [Std.TransOrd κ] [Std.LawfulEqOrd κ] (m : SortedMap κ α) (k : κ)
    (a : α) :
    (m.insert k a).size = if m.contains k = true then m.size else m.size + 1 := by
  rw [← length_keys, ← length_keys]
  split
  -- the keys are the same as before
  next hk =>
    apply List.Perm.length_eq
    apply (List.perm_ext_iff_of_nodup (nodup_keys _) (nodup_keys _)).2
    intro k'
    rw [mem_keys_iff, contains_insert, mem_keys_iff]
    constructor
    · rintro (rfl | hk')
      · exact hk
      · exact hk'
    · exact .inr
  next hk =>
    -- the keys are those before and the new one
    have hout : k ∉ m.keys := fun hmem => hk (mem_keys_iff.1 hmem)
    rw [← List.length_cons (a := k)]
    apply List.Perm.length_eq
    apply (List.perm_ext_iff_of_nodup (nodup_keys _) (List.nodup_cons.2 ⟨hout, nodup_keys _⟩)).2
    intro k'
    rw [mem_keys_iff, contains_insert, List.mem_cons, mem_keys_iff]

theorem size_mapValues (f : α → β) (m : SortedMap κ α) : (m.mapValues f).size = m.size :=
  List.length_map _

/-- A map is empty iff no lookup finds anything. -/
theorem isEmpty_iff [Std.TransOrd κ] [Std.LawfulEqOrd κ] {m : SortedMap κ α} :
    m.isEmpty = true ↔ ∀ k, m.find? k = none := by
  rw [isEmpty, List.isEmpty_iff]
  constructor
  · intro h k
    rw [find?, h]
    rfl
  · intro h
    rw [List.eq_nil_iff_forall_not_mem]
    rintro ⟨k, a⟩ he
    have hfind : m.find? k = some a := mem_toList_iff.1 he
    rw [h k] at hfind
    cases hfind

/-- Values under different keys may be entered in either order. -/
theorem insert_comm [Std.TransOrd κ] [Std.LawfulEqOrd κ] (m : SortedMap κ α) {k k' : κ}
    (h : k ≠ k') (a a' : α) :
    (m.insert k a).insert k' a' = (m.insert k' a').insert k a := by
  apply ext_find?
  intro k''
  by_cases hk : k'' = k
  · subst hk
    rw [find?_insert_of_ne _ _ h, find?_insert_self, find?_insert_self]
  · by_cases hk' : k'' = k'
    · subst hk'
      rw [find?_insert_self, find?_insert_of_ne _ _ hk, find?_insert_self]
    · rw [find?_insert_of_ne _ _ hk', find?_insert_of_ne _ _ hk, find?_insert_of_ne _ _ hk,
        find?_insert_of_ne _ _ hk']

/-! ### Maps of entry lists -/

/-- What a lookup finds after entries with distinct keys have been put in: one of them,
or what was there before under a key that none of them has. -/
theorem find?_foldl_insert [Std.TransOrd κ] [Std.LawfulEqOrd κ] {k : κ} {a : α}
    {l : List (κ × α)} (hl : (l.map Prod.fst).Nodup) (m : SortedMap κ α) :
    (l.foldl (fun m e => m.insert e.1 e.2) m).find? k = some a ↔
      (k, a) ∈ l ∨ k ∉ l.map Prod.fst ∧ m.find? k = some a := by
  induction l generalizing m with
  | nil => simp
  | cons e rest ih =>
    obtain ⟨k', a'⟩ := e
    rw [List.map_cons, List.nodup_cons] at hl
    obtain ⟨hout, hrest⟩ := hl
    rw [List.foldl_cons, ih hrest, List.map_cons, List.mem_cons, List.mem_cons]
    by_cases hk : k = k'
    · -- the key of the first entry does not come again
      subst hk
      have hmem : (k, a) ∉ rest := fun h => hout (List.mem_map.2 ⟨(k, a), h, rfl⟩)
      simp [hout, hmem, eq_comm]
    · simp [find?_insert_of_ne m a' hk, hk]

/-- Of entries with distinct keys a lookup finds each one. -/
theorem find?_ofList [Std.TransOrd κ] [Std.LawfulEqOrd κ] {k : κ} {a : α} {l : List (κ × α)}
    (hl : (l.map Prod.fst).Nodup) : (ofList l).find? k = some a ↔ (k, a) ∈ l := by
  rw [ofList, find?_foldl_insert hl, find?_empty]
  simp

theorem size_ofList [Std.TransOrd κ] [Std.LawfulEqOrd κ] {l : List (κ × α)}
    (hl : (l.map Prod.fst).Nodup) : (ofList l).size = l.length := by
  -- the keys of the map and those of the list are the same, and in neither is one
  -- repeated
  have hkeys : (ofList l).keys.Perm (l.map Prod.fst) := by
    apply (List.perm_ext_iff_of_nodup (nodup_keys _) hl).2
    intro k
    rw [mem_keys_iff, contains, Option.isSome_iff_exists]
    simp only [find?_ofList hl, List.mem_map, Prod.exists, exists_and_right,
      exists_eq_right]
  rw [← length_keys, hkeys.length_eq, List.length_map]

/-- What a lookup finds after entries have been made of some elements of a list, each
under the key of its element. -/
theorem find?_foldl_insert_filterMap [Std.TransOrd κ] [Std.LawfulEqOrd κ] {key : β → κ}
    {value? : β → Option α} {l : List β} (hl : (l.map key).Nodup) (m : SortedMap κ α)
    {k : κ} {a : α} :
    ((l.filterMap fun b => (value? b).map fun a => (key b, a)).foldl
        (fun m e => m.insert e.1 e.2) m).find? k = some a ↔
      (∃ b ∈ l, key b = k ∧ value? b = some a) ∨
        (∀ b ∈ l, key b = k → value? b = none) ∧ m.find? k = some a := by
  -- leaving out elements keeps the keys distinct
  have hsublist :
      ((l.filterMap fun b => (value? b).map fun a => (key b, a)).map Prod.fst).Sublist
        (l.map key) := by
    clear hl
    induction l with
    | nil => exact .slnil
    | cons b l ih =>
      cases hb : value? b with
      | none =>
        rw [List.filterMap_cons_none (by rw [hb]; rfl)]
        exact ih.cons _
      | some a =>
        rw [List.filterMap_cons_some (by rw [hb]; rfl)]
        exact ih.cons_cons _
  have hmem : ∀ a, (k, a) ∈ (l.filterMap fun b => (value? b).map fun a => (key b, a)) ↔
      ∃ b ∈ l, key b = k ∧ value? b = some a := by
    intro a
    simp only [List.mem_filterMap, Option.map_eq_some_iff, Prod.mk.injEq]
    constructor
    · rintro ⟨b, hb, a', ha', rfl, rfl⟩
      exact ⟨b, hb, rfl, ha'⟩
    · rintro ⟨b, hb, rfl, ha⟩
      exact ⟨b, hb, a, ha, rfl, rfl⟩
  have hout : k ∉ (l.filterMap fun b => (value? b).map fun a => (key b, a)).map Prod.fst ↔
      ∀ b ∈ l, key b = k → value? b = none := by
    constructor
    · intro h b hb hkey
      rw [Option.eq_none_iff_forall_ne_some]
      intro a ha
      exact h (List.mem_map.2 ⟨(k, a), (hmem a).2 ⟨b, hb, hkey, ha⟩, rfl⟩)
    · intro h hk
      obtain ⟨⟨k', a⟩, he, rfl⟩ := List.mem_map.1 hk
      obtain ⟨b, hb, hkey, ha⟩ := (hmem a).1 he
      rw [h b hb hkey] at ha
      cases ha
  rw [find?_foldl_insert (hsublist.nodup hl), hmem, hout]

theorem find?_ofList_filterMap [Std.TransOrd κ] [Std.LawfulEqOrd κ] {key : β → κ}
    {value? : β → Option α} {l : List β} (hl : (l.map key).Nodup) {k : κ} {a : α} :
    (ofList (l.filterMap fun b => (value? b).map fun a => (key b, a))).find? k = some a ↔
      ∃ b ∈ l, key b = k ∧ value? b = some a := by
  rw [ofList, find?_foldl_insert_filterMap hl, find?_empty]
  simp

/-- What a lookup finds after the keys of a list have been entered with their values:
where every key has one value, it does not matter how often the key comes. -/
theorem find?_foldl_insert_of_value? [Std.TransOrd κ] [Std.LawfulEqOrd κ]
    {value? : κ → Option α} {l : List κ} (m : SortedMap κ α) {k : κ} {a : α} :
    ((l.filterMap fun k => (value? k).map fun a => (k, a)).foldl
        (fun m e => m.insert e.1 e.2) m).find? k = some a ↔
      k ∈ l ∧ value? k = some a ∨ (k ∈ l → value? k = none) ∧ m.find? k = some a := by
  induction l generalizing m with
  | nil => simp
  | cons k' l ih =>
    rw [List.mem_cons]
    cases hvalue : value? k' with
    | none =>
      rw [List.filterMap_cons_none (by rw [hvalue]; rfl), ih]
      by_cases hk : k = k'
      · subst hk
        simp [hvalue]
      · simp [hk]
    | some a' =>
      rw [List.filterMap_cons_some (by rw [hvalue]; rfl), List.foldl_cons, ih]
      by_cases hk : k = k'
      · subst hk
        -- a later entry under the key has the same value
        by_cases hmem : k ∈ l <;> simp [hvalue, hmem]
      · simp [hk, find?_insert_of_ne m a' hk]

theorem find?_ofList_of_value? [Std.TransOrd κ] [Std.LawfulEqOrd κ]
    {value? : κ → Option α} {l : List κ} {k : κ} {a : α} :
    (ofList (l.filterMap fun k => (value? k).map fun a => (k, a))).find? k = some a ↔
      k ∈ l ∧ value? k = some a := by
  rw [ofList, find?_foldl_insert_of_value?, find?_empty]
  simp

/-- What a lookup finds was put in, or was there before. -/
theorem mem_of_find?_foldl_insert [Std.TransOrd κ] [Std.LawfulEqOrd κ] {k : κ} {a : α}
    {l : List (κ × α)} {m : SortedMap κ α}
    (h : (l.foldl (fun m e => m.insert e.1 e.2) m).find? k = some a) :
    (k, a) ∈ l ∨ m.find? k = some a := by
  induction l generalizing m with
  | nil => exact .inr h
  | cons e rest ih =>
    rcases ih h with hmem | hfind
    · exact .inl (List.mem_cons_of_mem e hmem)
    · rw [find?_insert] at hfind
      split at hfind
      next hk =>
        obtain rfl := Std.LawfulEqCmp.eq_of_compare hk
        cases hfind
        exact .inl List.mem_cons_self
      next => exact .inr hfind

/-- What a lookup finds is one of the entries, whatever their keys are. -/
theorem mem_of_find?_ofList [Std.TransOrd κ] [Std.LawfulEqOrd κ] {k : κ} {a : α}
    {l : List (κ × α)} (h : (ofList l).find? k = some a) : (k, a) ∈ l := by
  rcases mem_of_find?_foldl_insert h with hmem | hfind
  · exact hmem
  · cases hfind

/-- Entering corresponding pairs keeps lookups in correspondence. -/
theorem find?_foldl_insert_of_forall₂ [Std.TransOrd κ] [Std.LawfulEqOrd κ]
    {R : κ → α → β → Prop} {l : List (κ × α)} {l' : List (κ × β)}
    (h : List.Forall₂ (fun e e' => e'.1 = e.1 ∧ R e.1 e.2 e'.2) l l')
    {m : SortedMap κ α} {m' : SortedMap κ β}
    (hm : ∀ k a, m.find? k = some a → ∃ b, m'.find? k = some b ∧ R k a b) (k : κ)
    (a : α) (hfind : (l.foldl (fun m e => m.insert e.1 e.2) m).find? k = some a) :
    ∃ b, (l'.foldl (fun m e => m.insert e.1 e.2) m').find? k = some b ∧ R k a b := by
  induction h generalizing m m' with
  | nil => exact hm k a hfind
  | @cons e e' l l' hee' _ ih =>
    refine ih ?_ hfind
    -- the two maps correspond after one entry each, so the induction can go on from there
    intro k a hfind
    obtain ⟨hkey, hR⟩ := hee'
    rw [find?_insert] at hfind ⊢
    rw [hkey]
    split at hfind
    next heq =>
      cases hfind
      exact ⟨e'.2, if_pos heq, Std.LawfulEqOrd.eq_of_compare heq ▸ hR⟩
    next hne =>
      rw [if_neg hne]
      exact hm k a hfind

/-- Maps of corresponding pairs correspond. -/
theorem find?_ofList_of_forall₂ [Std.TransOrd κ] [Std.LawfulEqOrd κ]
    {R : κ → α → β → Prop} {l : List (κ × α)} {l' : List (κ × β)}
    (h : List.Forall₂ (fun e e' => e'.1 = e.1 ∧ R e.1 e.2 e'.2) l l') {k : κ} {a : α}
    (hfind : (ofList l).find? k = some a) :
      ∃ b, (ofList l').find? k = some b ∧ R k a b := by
  refine find?_foldl_insert_of_forall₂ h ?_ k a hfind
  intro k a hempty
  cases hempty

/-- A map is the map of its own entries. -/
theorem ofList_toList [Std.TransOrd κ] [Std.LawfulEqOrd κ] (m : SortedMap κ α) :
    ofList m.toList = m := by
  apply ext_find?
  intro k
  apply Option.ext
  intro a
  rw [find?_ofList (l := m.toList) m.nodup_keys, mem_toList_iff]

end Recommend.SortedMap
