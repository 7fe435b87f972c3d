import Mathlib

/-!
# Insertion-ordered dictionaries

An `OrderedDict` is a list of entries with pairwise distinct keys. Writing to a
key that is present keeps its position, writing to a new key appends it, and
iteration follows the list. This is the dictionary of a language whose maps
remember insertion order.

The lemmas describe every operation through `get?` and `count`:
* `get?_set`, `get?_erase`, `get?_filter`: what a later lookup sees;
* `count_set_le`, `count_set_new`, `count_set_same`, `count_erase`,
  `count_filter_le`: how many entries satisfy a predicate afterwards;
* `size_eq_count`: the size is the count of the trivial predicate;
* `total_set_new`, `total_set_old`, `total_filter_le`: sums over the values.
-/

/-- A dictionary that remembers the order in which its keys were inserted. -/
structure OrderedDict (K V : Type) where
  entries : List (K × V)
  nodup : (entries.map Prod.fst).Nodup

namespace OrderedDict

variable {K V : Type}

/-! ## Operations -/

/-- The dictionary without entries. -/
def empty : OrderedDict K V := ⟨[], List.nodup_nil⟩

/-- The keys in insertion order. -/
def keys (d : OrderedDict K V) : List K := d.entries.map Prod.fst

/-- The values in insertion order. -/
def values (d : OrderedDict K V) : List V := d.entries.map Prod.snd

/-- The number of entries. -/
def size (d : OrderedDict K V) : Nat := d.entries.length

/-- The number of entries that satisfy `p`. -/
def count (p : K → V → Bool) (d : OrderedDict K V) : Nat :=
  d.entries.countP fun e => p e.1 e.2

/-- The entries that satisfy `p`, in their order. -/
def filter (p : K → V → Bool) (d : OrderedDict K V) : OrderedDict K V :=
  ⟨d.entries.filter fun e => p e.1 e.2,
    d.nodup.sublist (List.filter_sublist.map Prod.fst)⟩

/-- Rewrites every value and keeps the keys in place. -/
def mapValues {W : Type} (f : K → V → W) (d : OrderedDict K V) : OrderedDict K W :=
  ⟨d.entries.map fun e => (e.1, f e.1 e.2), by simpa [Function.comp_def] using d.nodup⟩

theorem size_eq_count (d : OrderedDict K V) : d.size = d.count fun _ _ => true := by
  simp [size, count]

theorem count_filter_le (p q : K → V → Bool) (d : OrderedDict K V) :
    (d.filter q).count p ≤ d.count p :=
  List.filter_sublist.countP_le

/-- The sum of `f` over the values. -/
def total (f : V → Nat) (d : OrderedDict K V) : Nat := (d.values.map f).sum

theorem total_filter_le (p : K → V → Bool) (d : OrderedDict K V) (f : V → Nat) :
    (d.filter p).total f ≤ d.total f := by
  unfold total values
  rw [List.map_map, List.map_map]
  exact (List.filter_sublist.map _).sum_le_sum fun _ _ => Nat.zero_le _

theorem total_mapValues_le {W : Type} {g : K → V → W} {f : V → Nat} {f' : W → Nat}
    (h : ∀ k v, f' (g k v) ≤ f v) (d : OrderedDict K V) : (d.mapValues g).total f' ≤ d.total f := by
  unfold total values mapValues
  rw [List.map_map, List.map_map, List.map_map]
  exact List.sum_le_sum fun e _ => h e.1 e.2

theorem ext_entries {d d' : OrderedDict K V} (h : d.entries = d'.entries) : d = d' := by
  cases d
  cases d'
  cases h
  rfl

variable {d : OrderedDict K V} {k : K} {l : List (K × V)} {v : V} {p : K → V → Bool} {w : V}

theorem filter_eq_self (h : ∀ e ∈ d.entries, p e.1 e.2 = true) : d.filter p = d := by
  obtain ⟨entries, nodup⟩ := d
  unfold OrderedDict.filter
  congr 1
  exact List.filter_eq_self.mpr h

theorem mapValues_eq_self {f : K → V → V}
    (h : ∀ e ∈ d.entries, f e.1 e.2 = e.2) : d.mapValues f = d := by
  obtain ⟨entries, nodup⟩ := d
  unfold OrderedDict.mapValues
  congr 1
  conv_rhs => rw [← List.map_id entries]
  exact List.map_congr_left fun e member => by rw [h e member]; rfl

variable [DecidableEq K]

/-- The value stored under `k`. -/
def get? (d : OrderedDict K V) (k : K) : Option V :=
  (d.entries.find? fun e => e.1 = k).map Prod.snd

instance : Membership K (OrderedDict K V) := ⟨fun d k => (d.get? k).isSome = true⟩

instance (d : OrderedDict K V) (k : K) : Decidable (k ∈ d) :=
  inferInstanceAs (Decidable ((d.get? k).isSome = true))

/-- The dictionary without the entry of `k`. -/
def erase (d : OrderedDict K V) (k : K) : OrderedDict K V := d.filter fun k' _ => k' ≠ k

theorem setEntries_nodup (k : K) (v : V) (h : (l.map Prod.fst).Nodup) :
    ((if k ∈ l.map Prod.fst then l.map (fun e => if e.1 = k then (k, v) else e)
      else l ++ [(k, v)]).map Prod.fst).Nodup := by
  split
  · have same : (l.map fun e => if e.1 = k then (k, v) else e).map Prod.fst = l.map Prod.fst := by
      rw [List.map_map]
      refine List.map_congr_left fun e _ => ?_
      by_cases he : e.1 = k <;> simp [he]
    rw [same]
    exact h
  · next absent =>
    rw [List.map_append, List.nodup_append]
    refine ⟨h, by simp, ?_⟩
    intro a ha b hb
    simp only [List.map_cons, List.map_nil, List.mem_singleton] at hb
    rintro rfl
    exact absent (hb ▸ ha)

/-- Stores `v` under `k`: in place when `k` is present, at the end otherwise. -/
def set (d : OrderedDict K V) (k : K) (v : V) : OrderedDict K V :=
  ⟨_, setEntries_nodup k v d.nodup⟩

/-! ## Lookups -/

theorem mem_def : k ∈ d ↔ ∃ v, d.get? k = some v :=
  Option.isSome_iff_exists

theorem not_mem_iff : k ∉ d ↔ d.get? k = none := by
  rw [mem_def]
  cases d.get? k <;> simp

theorem mem_of_get? (h : d.get? k = some v) : k ∈ d :=
  mem_def.mpr ⟨v, h⟩

theorem find?_entry (h : (l.map Prod.fst).Nodup) :
    (l.find? fun e => e.1 = k).map Prod.snd = some v ↔ (k, v) ∈ l := by
  induction l with
  | nil => simp
  | cons e l ih =>
    rw [List.map_cons, List.nodup_cons] at h
    by_cases he : e.1 = k
    · subst he
      rw [List.find?_cons_of_pos (by simp)]
      constructor
      · intro hv
        rw [Option.map_some, Option.some.injEq] at hv
        subst hv
        exact List.mem_cons_self
      · intro hm
        rcases List.mem_cons.mp hm with hm | hm
        · rw [← hm, Option.map_some]
        · exact absurd (List.mem_map_of_mem (f := Prod.fst) hm) h.1
    · rw [List.find?_cons_of_neg (by simp [he]), ih h.2]
      refine ⟨List.mem_cons_of_mem e, fun hm => ?_⟩
      rcases List.mem_cons.mp hm with hm | hm
      · exact absurd (congrArg Prod.fst hm).symm he
      · exact hm

/-- An entry is in the list exactly when a lookup of its key finds its value. -/
theorem mem_entries :
    (k, v) ∈ d.entries ↔ d.get? k = some v :=
  (find?_entry d.nodup).symm

theorem mem_keys : k ∈ d.keys ↔ k ∈ d := by
  rw [mem_def, keys, List.mem_map]
  constructor
  · rintro ⟨⟨_, v⟩, hm, rfl⟩
    exact ⟨v, mem_entries.mp hm⟩
  · rintro ⟨v, hv⟩
    exact ⟨(k, v), mem_entries.mpr hv, rfl⟩

theorem mem_values : v ∈ d.values ↔ ∃ k, d.get? k = some v := by
  rw [values, List.mem_map]
  constructor
  · rintro ⟨⟨k, _⟩, hm, rfl⟩
    exact ⟨k, mem_entries.mp hm⟩
  · rintro ⟨k, hk⟩
    exact ⟨(k, v), mem_entries.mpr hk, rfl⟩

@[simp] theorem get?_empty (k : K) : (empty : OrderedDict K V).get? k = none := rfl

theorem eq_of_some_iff {o o' : Option V} (h : ∀ v, o = some v ↔ o' = some v) : o = o' := by
  cases o with
  | none =>
    cases o' with
    | none => rfl
    | some v => exact (h v).mpr rfl
  | some v => exact ((h v).mp rfl).symm

@[simp] theorem get?_filter (d : OrderedDict K V) (p : K → V → Bool) (k : K) :
    (d.filter p).get? k = (d.get? k).filter (p k) := by
  refine eq_of_some_iff fun v => ?_
  rw [← mem_entries, Option.filter_eq_some_iff, ← mem_entries]
  exact List.mem_filter

@[simp] theorem get?_mapValues {W : Type} (d : OrderedDict K V) (f : K → V → W) (k : K) :
    (d.mapValues f).get? k = (d.get? k).map (f k) := by
  refine eq_of_some_iff fun w => ?_
  rw [← mem_entries, Option.map_eq_some_iff]
  show (k, w) ∈ d.entries.map _ ↔ _
  rw [List.mem_map]
  constructor
  · rintro ⟨⟨k', v⟩, hm, he⟩
    obtain ⟨rfl, rfl⟩ := Prod.mk.inj he
    exact ⟨v, mem_entries.mp hm, rfl⟩
  · rintro ⟨v, hv, rfl⟩
    exact ⟨(k, v), mem_entries.mpr hv, rfl⟩

@[simp] theorem get?_erase (d : OrderedDict K V) (k k' : K) :
    (d.erase k).get? k' = if k' = k then none else d.get? k' := by
  rw [erase, get?_filter]
  by_cases h : k' = k
  · rw [if_pos h]
    cases d.get? k' <;> simp [Option.filter, h]
  · rw [if_neg h]
    cases d.get? k' <;> simp [Option.filter, h]

@[simp] theorem get?_set (d : OrderedDict K V) (k k' : K) (v : V) :
    (d.set k v).get? k' = if k' = k then some v else d.get? k' := by
  refine eq_of_some_iff fun w => ?_
  rw [← mem_entries]
  show (k', w) ∈ (if k ∈ d.entries.map Prod.fst then
      d.entries.map (fun e => if e.1 = k then (k, v) else e) else d.entries ++ [(k, v)]) ↔ _
  have present : k ∈ d.entries.map Prod.fst ↔ k ∈ d := mem_keys
  split
  · next hk =>
    rw [List.mem_map]
    obtain ⟨u, hu⟩ := mem_def.mp (present.mp hk)
    by_cases h : k' = k
    · subst h
      rw [if_pos rfl, Option.some.injEq]
      constructor
      · rintro ⟨e, _, he⟩
        by_cases hek : e.1 = k'
        · rw [if_pos hek] at he
          exact (congrArg Prod.snd he)
        · rw [if_neg hek] at he
          exact absurd (congrArg Prod.fst he) hek
      · rintro rfl
        exact ⟨(k', u), mem_entries.mpr hu, by simp⟩
    · rw [if_neg h, ← mem_entries]
      constructor
      · rintro ⟨e, hm, he⟩
        by_cases hek : e.1 = k
        · rw [if_pos hek] at he
          exact absurd (congrArg Prod.fst he).symm h
        · rw [if_neg hek] at he
          exact he ▸ hm
      · intro hm
        exact ⟨(k', w), hm, by simp [h]⟩
  · next hk =>
    have absent : d.get? k = none := not_mem_iff.mp fun hm => hk (present.mpr hm)
    rw [List.mem_append, List.mem_singleton, mem_entries, Prod.mk.injEq]
    by_cases h : k' = k
    · subst h
      simp [absent, eq_comm]
    · simp [h]

@[simp] theorem mem_set {d : OrderedDict K V} {k k' : K} {v : V} :
    k' ∈ d.set k v ↔ k' = k ∨ k' ∈ d := by
  rw [mem_def, mem_def, get?_set]
  by_cases h : k' = k <;> simp [h]

@[simp] theorem mem_erase {d : OrderedDict K V} {k k' : K} :
    k' ∈ d.erase k ↔ k' ≠ k ∧ k' ∈ d := by
  rw [mem_def, mem_def, get?_erase]
  by_cases h : k' = k <;> simp [h]

theorem erase_eq_self (h : k ∉ d) : d.erase k = d := by
  refine filter_eq_self fun e member => decide_eq_true ?_
  rintro rfl
  exact h (mem_of_get? (mem_entries.mp member))

theorem erase_erase (d : OrderedDict K V) (k : K) : (d.erase k).erase k = d.erase k :=
  erase_eq_self fun member => (mem_erase.mp member).1 rfl

theorem keys_erase (d : OrderedDict K V) (k : K) : (d.erase k).keys = d.keys.filter (· ≠ k) := by
  unfold erase filter keys
  rw [List.filter_map]
  rfl

theorem entries_set_ne_nil : (d.set k v).entries ≠ [] := by
  intro empty
  have found : (d.set k v).get? k = some v := (get?_set ..).trans (if_pos rfl)
  have listed := mem_entries.mpr found
  rw [empty] at listed
  cases listed

/-! ## Counting -/

theorem count_erase_le (p : K → V → Bool) (d : OrderedDict K V) (k : K) :
    (d.erase k).count p ≤ d.count p :=
  count_filter_le _ _ _

theorem countP_erase_entry (h : (l.map Prod.fst).Nodup) (hm : (k, v) ∈ l) (p : K × V → Bool) :
    (l.filter fun e => e.1 ≠ k).countP p + (if p (k, v) then 1 else 0) = l.countP p := by
  induction l with
  | nil => cases hm
  | cons e l ih =>
    rw [List.map_cons, List.nodup_cons] at h
    rcases List.mem_cons.mp hm with rfl | hm
    · have rest : (l.filter fun e => e.1 ≠ k) = l := by
        refine List.filter_eq_self.mpr fun e he => ?_
        have : e.1 ≠ k := fun heq => h.1 (List.mem_map.mpr ⟨e, he, heq⟩)
        simpa using this
      rw [List.filter_cons_of_neg (by simp), rest, List.countP_cons]
    · have hne : e.1 ≠ k := fun heq => h.1 (heq ▸ List.mem_map_of_mem (f := Prod.fst) hm)
      rw [List.filter_cons_of_pos (by simpa using hne), List.countP_cons, List.countP_cons,
        ← ih h.2 hm]
      omega

theorem count_erase (h : d.get? k = some v)
    (p : K → V → Bool) : (d.erase k).count p + (if p k v then 1 else 0) = d.count p :=
  countP_erase_entry d.nodup (mem_entries.mpr h) fun e => p e.1 e.2

theorem set_entries_of_mem (h : k ∈ d) (v : V) :
    (d.set k v).entries = d.entries.map fun e => if e.1 = k then (k, v) else e :=
  if_pos (mem_keys.mpr h)

theorem set_entries_of_not_mem (h : k ∉ d) (v : V) :
    (d.set k v).entries = d.entries ++ [(k, v)] :=
  if_neg fun hm => h (mem_keys.mp hm)

theorem set_of_get? (h : d.get? k = some v) :
    d.set k v = d := by
  have same : (d.set k v).entries = d.entries := by
    rw [set_entries_of_mem (mem_of_get? h)]
    conv_rhs => rw [← List.map_id d.entries]
    refine List.map_congr_left fun e he => ?_
    by_cases hk : e.1 = k
    · have stored : d.get? k = some e.2 := mem_entries.mp (hk ▸ he)
      rw [if_pos hk, Option.some.inj (h.symm.trans stored), ← hk, id]
    · rw [if_neg hk, id]
  exact ext_entries same

theorem set_set (d : OrderedDict K V) (k : K) (v v' : V) : (d.set k v).set k v' = d.set k v' := by
  have stored : k ∈ d.set k v := mem_set.mpr (.inl rfl)
  refine ext_entries ?_
  rw [set_entries_of_mem stored]
  by_cases h : k ∈ d
  · rw [set_entries_of_mem h, set_entries_of_mem h, List.map_map]
    refine List.map_congr_left fun e _ => ?_
    by_cases hk : e.1 = k <;> simp [hk]
  · rw [set_entries_of_not_mem h, set_entries_of_not_mem h, List.map_append]
    have others : (d.entries.map fun e => if e.1 = k then (k, v') else e) = d.entries := by
      conv_rhs => rw [← List.map_id d.entries]
      refine List.map_congr_left fun e he => if_neg ?_
      rintro rfl
      exact h (mem_of_get? (mem_entries.mp he))
    rw [others]
    simp

theorem count_set_new (h : k ∉ d) (v : V) (p : K → V → Bool) :
    (d.set k v).count p = d.count p + (if p k v then 1 else 0) := by
  unfold count
  rw [set_entries_of_not_mem h, List.countP_append, List.countP_singleton]

theorem replace_entry_of_not_mem (absent : k ∉ l.map Prod.fst) (v : V) :
    (l.map fun e => if e.1 = k then (k, v) else e) = l := by
  conv_rhs => rw [← List.map_id l]
  refine List.map_congr_left fun e he => ?_
  have : e.1 ≠ k := fun heq => absent (List.mem_map.mpr ⟨e, he, heq⟩)
  rw [if_neg this, id]

theorem countP_replace_entry (h : (l.map Prod.fst).Nodup) (hm : (k, w) ∈ l) (v : V)
    (p : K × V → Bool) :
    (l.map fun e => if e.1 = k then (k, v) else e).countP p + (if p (k, w) then 1 else 0) =
      l.countP p + (if p (k, v) then 1 else 0) := by
  induction l with
  | nil => cases hm
  | cons e l ih =>
    rw [List.map_cons, List.nodup_cons] at h
    rcases List.mem_cons.mp hm with rfl | hm
    · rw [List.map_cons, replace_entry_of_not_mem h.1 v, List.countP_cons, List.countP_cons,
        if_pos rfl]
      omega
    · have hne : e.1 ≠ k := fun heq => h.1 (heq ▸ List.mem_map_of_mem (f := Prod.fst) hm)
      have := ih h.2 hm
      rw [List.map_cons, if_neg hne, List.countP_cons, List.countP_cons]
      omega

theorem count_set_old (h : d.get? k = some w) (v : V) (p : K → V → Bool) :
    (d.set k v).count p + (if p k w then 1 else 0) = d.count p + (if p k v then 1 else 0) := by
  unfold count
  rw [set_entries_of_mem (mem_of_get? h)]
  exact countP_replace_entry d.nodup (mem_entries.mpr h) v fun e => p e.1 e.2

/-- Overwriting a key with a value that `p` does not distinguish changes no count. -/
theorem count_set_same (h : d.get? k = some w)
    (hp : p k v = p k w) : (d.set k v).count p = d.count p := by
  have := count_set_old h v p
  rw [hp] at this
  omega

theorem count_set_le (d : OrderedDict K V) (k : K) (v : V) (p : K → V → Bool) :
    (d.set k v).count p ≤ d.count p + (if p k v then 1 else 0) := by
  by_cases h : k ∈ d
  · obtain ⟨w, hw⟩ := mem_def.mp h
    have := count_set_old hw v p
    omega
  · exact Nat.le_of_eq (count_set_new h v p)

theorem count_mono {p q : K → V → Bool}
    (h : ∀ k v, d.get? k = some v → p k v = true → q k v = true) : d.count p ≤ d.count q :=
  List.countP_mono_left fun e he => h e.1 e.2 (mem_entries.mp he)

/-- One more entry where the bound left room for its group. -/
theorem count_set_le_of_room {bound : Nat}
    (room : p k v = true → d.count p < bound) (h : d.count p ≤ bound) :
    (d.set k v).count p ≤ bound := by
  have count := d.count_set_le k v p
  split at count
  · next hp => exact Nat.le_trans count (room hp)
  · exact Nat.le_trans count h

theorem size_set_old (h : d.get? k = some w) (v : V) :
    (d.set k v).size = d.size := by
  rw [size_eq_count, size_eq_count]
  exact count_set_same h rfl

theorem size_set_le (d : OrderedDict K V) (k : K) (v : V) : (d.set k v).size ≤ d.size + 1 := by
  rw [size_eq_count, size_eq_count]
  exact d.count_set_le k v _

theorem size_set_le_of_room {bound : Nat} (room : d.size < bound) : (d.set k v).size ≤ bound :=
  Nat.le_trans (d.size_set_le k v) room

theorem size_erase_le (d : OrderedDict K V) (k : K) : (d.erase k).size ≤ d.size := by
  rw [size_eq_count, size_eq_count]
  exact count_erase_le _ d k

/-! ## Sums over the values -/

theorem total_set_new (h : k ∉ d) (v : V) (f : V → Nat) :
    (d.set k v).total f = d.total f + f v := by
  unfold total values
  rw [set_entries_of_not_mem h]
  simp

theorem sum_replace_entry (h : (l.map Prod.fst).Nodup) (hm : (k, w) ∈ l) (v : V) (f : V → Nat) :
    ((l.map fun e => if e.1 = k then (k, v) else e).map fun e => f e.2).sum + f w =
      (l.map fun e => f e.2).sum + f v := by
  induction l with
  | nil => cases hm
  | cons e l ih =>
    rw [List.map_cons, List.nodup_cons] at h
    rcases List.mem_cons.mp hm with rfl | hm
    · rw [List.map_cons, replace_entry_of_not_mem h.1 v, List.map_cons, List.map_cons,
        List.sum_cons, List.sum_cons, if_pos rfl]
      dsimp only
      omega
    · have hne : e.1 ≠ k := fun heq => h.1 (heq ▸ List.mem_map_of_mem (f := Prod.fst) hm)
      have := ih h.2 hm
      rw [List.map_cons, if_neg hne, List.map_cons, List.map_cons, List.sum_cons, List.sum_cons]
      omega

theorem total_set_old (h : d.get? k = some w) (v : V)
    (f : V → Nat) : (d.set k v).total f + f w = d.total f + f v := by
  have replaced := sum_replace_entry d.nodup (mem_entries.mpr h) v f
  simpa [total, values, set_entries_of_mem (mem_of_get? h), Function.comp_def] using replaced

/-! ## Comparing two dictionaries -/

/-- The keys that a larger dictionary has over a smaller one make up the
difference of the sizes. -/
theorem size_add_new_keys {d d' : OrderedDict K V} (kept : ∀ k, k ∈ d → k ∈ d') :
    d.size + (d'.keys.filter fun k => k ∉ d).length = d'.size := by
  have old : (d'.keys.filter fun k => k ∈ d).Perm d.keys := by
    refine (List.perm_ext_iff_of_nodup (d'.nodup.filter _) d.nodup).mpr fun k => ?_
    rw [List.mem_filter, decide_eq_true_iff]
    exact ⟨fun h => mem_keys.mpr h.2, fun h => ⟨mem_keys.mpr (kept k (mem_keys.mp h)), mem_keys.mp h⟩⟩
  have split := List.length_eq_length_filter_add (l := d'.keys) fun k => decide (k ∈ d)
  have sizes : d.keys.length = d.size := List.length_map ..
  have sizes' : d'.keys.length = d'.size := List.length_map ..
  simp only [← decide_not] at split
  rw [old.length_eq] at split
  omega

end OrderedDict
