import Mathlib

/-!
# Least choices and round robin

A dispatcher filters its candidates down to those that are least under some
measure and takes turns among them: it remembers its last choice and takes the
next one in a fixed order, wrapping around.

* `mem_filter_least`: keeping the elements of least measure;
* `IsNext key S c x`: `x` is the first element of `S` past the key `c`, or the
  first of all;
* `perm_of_follows`: as many turns as there are elements, each taking the cyclic
  successor of the one before, take every element once;
* `getElem?_removal_of_ne`, `getElem?_removal_of_eq`: the position that a dispatcher
  keeps when an element is removed.
-/

namespace RoundRobin

variable {α κ : Type*}

/-! ## Least elements -/

instance lawfulMin [LinearOrder κ] : Std.LawfulOrderMin κ where
  le_min_iff _ _ _ := le_min_iff
  min_eq_or a b := min_choice a b

theorem mem_filter_least [LinearOrder κ] {f : α → κ} {l : List α} {default : κ} {x : α} :
    x ∈ l.filter (fun y => f y = (l.map f).min?.getD default) ↔
      x ∈ l ∧ ∀ y ∈ l, f x ≤ f y := by
  rw [List.mem_filter, decide_eq_true_eq]
  refine and_congr_right fun hx => ?_
  have nonempty : l.map f ≠ [] := List.ne_nil_of_mem (List.mem_map_of_mem hx)
  obtain ⟨m, hm⟩ := Option.isSome_iff_exists.mp (List.isSome_min?_of_ne_nil nonempty)
  rw [hm, Option.getD_some]
  obtain ⟨attained, below⟩ := List.min?_eq_some_iff.mp hm
  constructor
  · intro least y hy
    rw [least]
    exact below _ (List.mem_map_of_mem hy)
  · intro least
    obtain ⟨y, hy, rfl⟩ := List.mem_map.mp attained
    exact le_antisymm (least y hy) (below _ (List.mem_map_of_mem hx))

theorem filter_least_ne_nil [LinearOrder κ] {f : α → κ} {l : List α} (default : κ) (h : l ≠ []) :
    l.filter (fun y => f y = (l.map f).min?.getD default) ≠ [] := by
  have nonempty : l.map f ≠ [] := fun empty => h (List.map_eq_nil_iff.mp empty)
  obtain ⟨m, hm⟩ := Option.isSome_iff_exists.mp (List.isSome_min?_of_ne_nil nonempty)
  obtain ⟨x, hx, least⟩ := List.mem_map.mp (List.min?_mem hm)
  refine List.ne_nil_of_mem (List.mem_filter.mpr ⟨hx, ?_⟩)
  rw [hm, Option.getD_some, least, decide_eq_true_eq]

/-! ## The next element -/

/-- `x` is the element of `S` with the least key above `c`; without such a key, or
without `c`, the element with the least key. -/
structure IsNext [LinearOrder κ] (key : α → κ) (S : α → Prop) (c : Option κ) (x : α) : Prop where
  mem : S x
  after : ∀ k ∈ c, (∃ y, S y ∧ k < key y) → k < key x ∧ ∀ y, S y → k < key y → key x ≤ key y
  wraps : (∀ k ∈ c, ∀ y, S y → key y ≤ k) → ∀ y, S y → key x ≤ key y

section

variable [LinearOrder κ] {key : α → κ} {l : List α} {first : α}

theorem isNext_first (sorted : (first :: l).Pairwise fun a b => key a < key b) :
    IsNext key (· ∈ first :: l) none first := by
  refine ⟨List.mem_cons_self, nofun, fun _ y hy => ?_⟩
  rcases List.mem_cons.mp hy with rfl | hy
  · exact le_refl _
  · exact le_of_lt (List.rel_of_pairwise_cons sorted hy)

/-- In a list sorted by key, the next element is the first one past `c`, else the first. -/
theorem isNext_find (sorted : (first :: l).Pairwise fun a b => key a < key b) (c : κ) :
    IsNext key (· ∈ first :: l) (some c)
      (((first :: l).find? fun x => c < key x).getD first) := by
  cases found : (first :: l).find? fun x => c < key x with
  | none =>
    have nothing : ∀ y ∈ first :: l, key y ≤ c := fun y hy => by
      simpa using List.find?_eq_none.mp found y hy
    refine ⟨List.mem_cons_self, ?_, fun _ => (isNext_first sorted).wraps nofun⟩
    rintro k hk ⟨y, hy, hlt⟩
    cases hk
    exact absurd hlt (not_lt.mpr (nothing y hy))
  | some x =>
    obtain ⟨above, before, after, split, skipped⟩ := List.find?_eq_some_iff_append.mp found
    rw [decide_eq_true_eq] at above
    have member : x ∈ first :: l := List.mem_of_find?_eq_some found
    refine ⟨member, ?_, fun below => absurd above (not_lt.mpr (below c rfl x member))⟩
    rintro k hk -
    cases hk
    refine ⟨above, fun y hy hlt => ?_⟩
    rw [split] at hy sorted
    rcases List.mem_append.mp hy with hy | hy
    · exact absurd hlt (by simpa using skipped y hy)
    · rcases List.mem_cons.mp hy with rfl | hy
      · exact le_refl _
      · have rest := (List.pairwise_append.mp sorted).2.1
        exact le_of_lt (List.rel_of_pairwise_cons rest hy)

theorem IsNext.map {β : Type*} {key' : β → κ} {S : α → Prop} {S' : β → Prop} {c : Option κ}
    {x : α} (h : IsNext key S c x) (f : α → β) (keeps : ∀ y, S y → key' (f y) = key y)
    (onto : ∀ b, S' b ↔ ∃ y, S y ∧ f y = b) : IsNext key' S' c (f x) where
  mem := (onto _).mpr ⟨x, h.mem, rfl⟩
  after := by
    rintro k hk ⟨b, hb, hlt⟩
    obtain ⟨y, hy, rfl⟩ := (onto b).mp hb
    rw [keeps y hy] at hlt
    obtain ⟨above, least⟩ := h.after k hk ⟨y, hy, hlt⟩
    rw [keeps x h.mem]
    refine ⟨above, fun b hb hlt => ?_⟩
    obtain ⟨y, hy, rfl⟩ := (onto b).mp hb
    rw [keeps y hy] at hlt ⊢
    exact least y hy hlt
  wraps := by
    intro below b hb
    obtain ⟨y, hy, rfl⟩ := (onto b).mp hb
    rw [keeps x h.mem, keeps y hy]
    refine h.wraps (fun k hk z hz => ?_) y hy
    rw [← keeps z hz]
    exact below k hk _ ((onto _).mpr ⟨z, hz, rfl⟩)

end

/-! ## Turns -/

/-- `b` comes right after `a` in the cyclic order of the list. -/
def Follows (T : List α) (a b : α) : Prop :=
  ∃ p, T[p]? = some a ∧ T[(p + 1) % T.length]? = some b

theorem IsNext.follows [LinearOrder κ] {key : α → κ} {T : List α} {a x : α}
    (sorted : T.Pairwise fun a b => key a < key b) (ha : a ∈ T)
    (h : IsNext key (· ∈ T) (some (key a)) x) : Follows T a x := by
  obtain ⟨p, hp, rfl⟩ := List.mem_iff_getElem.mp ha
  obtain ⟨q, hq, rfl⟩ := List.mem_iff_getElem.mp h.mem
  have increasing : ∀ i j (hi : i < T.length) (hj : j < T.length), i < j → key T[i] < key T[j] :=
    List.pairwise_iff_getElem.mp sorted
  have index : ∀ i j (hi : i < T.length) (hj : j < T.length), key T[i] ≤ key T[j] → i ≤ j :=
    fun i j hi hj hle => not_lt.mp fun hlt => not_lt.mpr hle (increasing j i hj hi hlt)
  refine ⟨p, List.getElem?_eq_getElem hp, ?_⟩
  suffices place : (p + 1) % T.length = q by
    rw [place]
    exact List.getElem?_eq_getElem hq
  by_cases last : p + 1 < T.length
  · obtain ⟨above, least⟩ := h.after _ rfl
      ⟨T[p + 1], List.getElem_mem last, increasing _ _ hp last (Nat.lt_succ_self p)⟩
    have later : p < q := not_le.mp fun hle => by
      rcases Nat.lt_or_eq_of_le hle with hlt | rfl
      · exact absurd above (not_lt.mpr (le_of_lt (increasing q p hq hp hlt)))
      · exact lt_irrefl _ above
    have sooner : q ≤ p + 1 :=
      index _ _ hq last (least _ (List.getElem_mem last)
        (increasing _ _ hp last (Nat.lt_succ_self p)))
    rw [Nat.mod_eq_of_lt last]
    omega
  · have none_above : ∀ k ∈ some (key T[p]), ∀ y ∈ T, key y ≤ k := by
      intro k hk y hy
      cases hk
      obtain ⟨i, hi, rfl⟩ := List.mem_iff_getElem.mp hy
      rcases Nat.lt_or_ge i p with hlt | hge
      · exact le_of_lt (increasing i p hi hp hlt)
      · obtain rfl : i = p := by omega
        exact le_refl _
    have zero : q ≤ 0 :=
      index _ _ hq (by omega) (h.wraps none_above _ (List.getElem_mem (by omega)))
    have whole : p + 1 = T.length := by omega
    rw [whole, Nat.mod_self]
    omega

/-- The choices of a run of turns, from the place of the first one. -/
theorem getElem?_of_follows {T xs : List α} (nodup : T.Nodup) (chain : xs.IsChain (Follows T))
    {p : Nat} (hp : p < T.length) (start : xs[0]? = T[p]?) :
    ∀ t, t < xs.length → xs[t]? = T[(t + p) % T.length]? := by
  intro t
  induction t with
  | zero =>
    intro _
    rw [Nat.zero_add, Nat.mod_eq_of_lt hp]
    exact start
  | succ t ih =>
    intro ht
    have now : t < xs.length := Nat.lt_of_succ_lt ht
    obtain ⟨q, hq, next⟩ := List.isChain_iff_getElem.mp chain t ht
    obtain ⟨hq', -⟩ := List.getElem?_eq_some_iff.mp hq
    have here : T[q]? = T[(t + p) % T.length]? :=
      (hq.trans (List.getElem?_eq_getElem now).symm).trans (ih now)
    have place : q = (t + p) % T.length := (List.getElem?_inj hq' nodup).mp here
    rw [List.getElem?_eq_getElem ht, ← next, place, Nat.mod_add_mod, Nat.add_right_comm]

/-- As many turns as there are elements take every element once. -/
theorem perm_of_turns {T xs : List α} {p : Nat} (length : xs.length = T.length)
    (turns : ∀ t, t < xs.length → xs[t]? = T[(t + p) % T.length]?) : xs.Perm T := by
  have rotated : xs = T.rotate p := by
    refine List.ext_getElem? fun t => ?_
    by_cases ht : t < T.length
    · rw [turns t (length ▸ ht), List.getElem?_rotate ht]
    · rw [List.getElem?_eq_none (by omega),
        List.getElem?_eq_none (by rw [List.length_rotate]; omega)]
  rw [rotated]
  exact List.rotate_perm T p

/-- The same of turns that follow each other, of whose elements each is known to be one of
those that take turns. -/
theorem perm_of_follows {T xs : List α} (length : xs.length = T.length)
    (sound : ∀ x ∈ xs, T.Nodup ∧ x ∈ T) (chain : xs.IsChain (Follows T)) :
    xs.Perm T ∧ T.Nodup := by
  cases xs with
  | nil =>
    rw [List.eq_nil_of_length_eq_zero length.symm]
    exact ⟨.nil, List.nodup_nil⟩
  | cons x xs =>
    obtain ⟨nodup, member⟩ := sound x List.mem_cons_self
    obtain ⟨p, hp, hx⟩ := List.mem_iff_getElem.mp member
    refine ⟨perm_of_turns length (getElem?_of_follows nodup chain hp ?_), nodup⟩
    rw [List.getElem?_eq_getElem hp, hx]
    rfl

/-! ## Removing an element -/

/-- The position that stays with its element when the element at `i` is removed from a cycle
of `n` elements; the removed element's position goes to the one after it. -/
def positionAfterRemoval (n i position : Nat) : Nat :=
  if n ≤ 1 then 0
  else if i < position then (position - 1) % (n - 1)
  else position % (n - 1)

theorem getElem?_removal_of_ne {T : List α} {i position : Nat} (hi : i < T.length)
    (hp : position < T.length) (other : position ≠ i) :
    (T.eraseIdx i)[positionAfterRemoval T.length i position]? = T[position]? := by
  unfold positionAfterRemoval
  rw [if_neg (by omega), List.getElem?_eraseIdx]
  split_ifs with later before before
  · rw [Nat.mod_eq_of_lt (by omega)] at before
    omega
  · rw [Nat.mod_eq_of_lt (by omega), Nat.sub_add_cancel (by omega)]
  · rw [Nat.mod_eq_of_lt (by omega)]
  · rw [Nat.mod_eq_of_lt (by omega)] at before
    omega

theorem getElem?_removal_of_eq {T : List α} {i : Nat} (hi : i < T.length) (some_ : T.length ≠ 1) :
    (T.eraseIdx i)[positionAfterRemoval T.length i i]? = T[(i + 1) % T.length]? := by
  unfold positionAfterRemoval
  rw [if_neg (by omega), if_neg (lt_irrefl i), List.getElem?_eraseIdx]
  rcases Nat.lt_or_ge (i + 1) T.length with inner | last
  · rw [Nat.mod_eq_of_lt (show i < T.length - 1 by omega), if_neg (lt_irrefl i),
      Nat.mod_eq_of_lt inner]
  · have whole : i = T.length - 1 := by omega
    have wrapped : i + 1 = T.length := by omega
    rw [wrapped, Nat.mod_self, ← whole, Nat.mod_self, if_pos (by omega)]

end RoundRobin
