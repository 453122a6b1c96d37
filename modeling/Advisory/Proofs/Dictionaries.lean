import Advisory.Dict
import Mathlib.Data.List.Nodup

/-!
# What a dictionary holds

A dictionary made from pairs holds the last pair of every key. Where no key
comes twice it therefore holds the pairs, no more and no less, and
`getElem?_ofPairs_of_nodup` says so. A dictionary of lists is compared with
the pairs it was grouped from: under a key stand the values of the pairs with
that key.
-/

namespace Advisory

variable {κ α : Type}

/-- The values of the pairs with a key, in the order of the pairs. -/
def valuesOf [DecidableEq κ] (pairs : List (κ × α)) (k : κ) : List α :=
  (pairs.filter (·.1 = k)).map (·.2)

theorem mem_valuesOf [DecidableEq κ] {pairs : List (κ × α)} {k : κ} {v : α} :
    v ∈ valuesOf pairs k ↔ (k, v) ∈ pairs := by
  simp only [valuesOf, List.mem_map, List.mem_filter, decide_eq_true_eq]
  constructor
  · intro h
    obtain ⟨⟨_, _⟩, ⟨hm, rfl⟩, rfl⟩ := h
    exact hm
  · intro hm
    exact ⟨(k, v), ⟨hm, rfl⟩, rfl⟩

/-- Pairs that are not repeated give no list that repeats itself. -/
theorem nodup_valuesOf [DecidableEq κ] {pairs : List (κ × α)}
    (h : pairs.Nodup) (k : κ) : (valuesOf pairs k).Nodup := by
  refine (h.filter _).map_on fun p hp q hq heq => ?_
  have hk := of_decide_eq_true (List.mem_filter.1 hp).2
  have hk' := of_decide_eq_true (List.mem_filter.1 hq).2
  exact Prod.ext (hk.trans hk'.symm) heq

/-- A value is listed under a key as often as it is paired with it. -/
theorem count_valuesOf [DecidableEq κ] [DecidableEq α]
    (pairs : List (κ × α)) (k : κ) (v : α) :
    (valuesOf pairs k).count v = pairs.count (k, v) := by
  rw [valuesOf, List.count_eq_countP, List.countP_map, List.countP_filter,
    List.count_eq_countP]
  refine List.countP_congr fun p _ => ?_
  simp [Prod.ext_iff, and_comm]

namespace Dict

variable [Ord κ] [Std.TransOrd κ]

/-- A list that is not empty is really there. -/
theorem getElem?_of_mem_listAt {d : Dict κ (List α)} {k : κ} {x : α}
    (h : x ∈ d.listAt k) : d[k]? = some (d.listAt k) := by
  rw [listAt] at h ⊢
  cases hd : d[k]? with
  | none => rw [hd] at h; cases h
  | some xs => rfl

theorem listAt_of_getElem? {d : Dict κ (List α)} {k : κ} {xs : List α}
    (h : d[k]? = some xs) : d.listAt k = xs := by
  rw [listAt, h]
  rfl

/-- A dictionary lists rows that become records: each row has its record
under the name of the row, and there are no other records. -/
structure Lists {ρ : Type} (d : Dict κ α) (rows : List ρ) (name : ρ → κ)
    (becomes : ρ → α → Prop) : Prop where
  record : ∀ row ∈ rows, ∃ v, d[name row]? = some v ∧ becomes row v
  row : ∀ k v, d[k]? = some v → ∃ row ∈ rows, name row = k
  size : d.size = rows.length

theorem Lists.imp {ρ : Type} {d : Dict κ α} {rows : List ρ} {name : ρ → κ}
    {P Q : ρ → α → Prop} (h : d.Lists rows name P)
    (hpq : ∀ row v, P row v → Q row v) : d.Lists rows name Q where
  record row hm := by
    obtain ⟨v, hv, hp⟩ := h.record row hm
    exact ⟨v, hv, hpq row v hp⟩
  row := h.row
  size := h.size

variable [Std.LawfulEqOrd κ] [DecidableEq κ]

/-! ## Dictionaries of pairs -/

theorem getElem?_foldl_insert (pairs : List (κ × α)) (d : Dict κ α) (k : κ) :
    (pairs.foldl (fun d (p : κ × α) => d.insert p.1 p.2) d)[k]? =
      ((pairs.filter (·.1 = k)).getLast?.map (·.2)).or d[k]? := by
  induction pairs generalizing d with
  | nil => rfl
  | cons p ps ih =>
      rw [List.foldl_cons, ih, Std.ExtTreeMap.getElem?_insert]
      simp only [Std.LawfulEqOrd.compare_eq_iff_eq, List.filter_cons,
        decide_eq_true_eq]
      by_cases h : p.1 = k
      · rw [if_pos h, if_pos h, List.getLast?_cons]
        cases hl : (ps.filter (·.1 = k)).getLast? with
        | none => rfl
        | some q => rfl
      · rw [if_neg h, if_neg h]

/-- Of the pairs with a key the last one counts. -/
theorem getElem?_ofPairs (pairs : List (κ × α)) (k : κ) :
    (ofPairs pairs)[k]? = (valuesOf pairs k).getLast? := by
  have h := getElem?_foldl_insert pairs (∅ : Dict κ α) k
  rw [Std.ExtTreeMap.getElem?_empty, Option.or_none] at h
  rw [ofPairs, valuesOf, List.getLast?_map]
  exact h

/-- What is found under a key was paired with it. -/
theorem mem_of_getElem?_ofPairs {pairs : List (κ × α)} {k : κ} {v : α}
    (h : (ofPairs pairs)[k]? = some v) : (k, v) ∈ pairs := by
  rw [getElem?_ofPairs] at h
  exact mem_valuesOf.1 (List.mem_of_getLast? h)

/-- A key that is paired with something is found. -/
theorem exists_getElem?_ofPairs {pairs : List (κ × α)} {k : κ} {v : α}
    (h : (k, v) ∈ pairs) : ∃ w, (ofPairs pairs)[k]? = some w := by
  rw [getElem?_ofPairs]
  cases hl : (valuesOf pairs k).getLast? with
  | none =>
      have hm := mem_valuesOf.2 h
      rw [List.getLast?_eq_none_iff.1 hl] at hm
      cases hm
  | some w => exact ⟨w, rfl⟩

/-- Where the pairs of a key agree, a dictionary holds the pairs it was made
from, no more and no less. -/
theorem getElem?_ofPairs_iff {pairs : List (κ × α)}
    (h : ∀ k v w, (k, v) ∈ pairs → (k, w) ∈ pairs → v = w) {k : κ} {v : α} :
    (ofPairs pairs)[k]? = some v ↔ (k, v) ∈ pairs := by
  refine ⟨mem_of_getElem?_ofPairs, fun hm => ?_⟩
  obtain ⟨w, hw⟩ := exists_getElem?_ofPairs hm
  rw [hw, h k v w hm (mem_of_getElem?_ofPairs hw)]

theorem getElem?_ofPairs_of_nodup {pairs : List (κ × α)}
    (h : (pairs.map (·.1)).Nodup) {k : κ} {v : α} :
    (ofPairs pairs)[k]? = some v ↔ (k, v) ∈ pairs :=
  getElem?_ofPairs_iff fun _ _ _ hv hw =>
    congrArg Prod.snd (List.inj_on_of_nodup_map h hv hw rfl)

/-- Where no value comes twice, a key is found under the value that is found
under it. -/
theorem getElem?_ofPairs_swap [Ord α] [Std.TransOrd α] [Std.LawfulEqOrd α]
    [DecidableEq α] {pairs : List (κ × α)} (h : (pairs.map (·.2)).Nodup)
    {k : κ} {v : α} (hv : (ofPairs pairs)[k]? = some v) :
    (ofPairs (pairs.map Prod.swap))[v]? = some k := by
  refine (getElem?_ofPairs_of_nodup ?_).2
    (List.mem_map.2 ⟨(k, v), mem_of_getElem?_ofPairs hv, rfl⟩)
  rw [List.map_map]
  exact h

/-- Where rows are unique by number and by name, the name of a row is found
under its number and nowhere else. -/
theorem getElem?_ofPairs_eq_name_iff {ρ : Type} {rows : List ρ} {id : ρ → κ}
    {name : ρ → α} (hids : (rows.map id).Nodup)
    (hnames : (rows.map name).Nodup) {row : ρ} (hrow : row ∈ rows) (k : κ) :
    (ofPairs (rows.map fun r => (id r, name r)))[k]? = some (name row) ↔
      k = id row := by
  constructor
  · intro h
    obtain ⟨row', hrow', heq⟩ := List.mem_map.1 (mem_of_getElem?_ofPairs h)
    have hsame : row' = row := List.inj_on_of_nodup_map hnames hrow' hrow
      (congrArg Prod.snd heq)
    rw [← hsame]
    exact (congrArg Prod.fst heq).symm
  · intro h
    subst h
    refine (getElem?_ofPairs_of_nodup ?_).2
      (List.mem_map.2 ⟨row, hrow, rfl⟩)
    rw [List.map_map]
    exact hids

/-- Where values can be told apart by a part of them, so can their keys. -/
theorem key_eq_of_nodup {β : Type} {pairs : List (κ × α)} {g : α → β}
    (h : (pairs.map fun p => g p.2).Nodup) {k k' : κ} {v v' : α}
    (hv : (ofPairs pairs)[k]? = some v) (hv' : (ofPairs pairs)[k']? = some v')
    (heq : g v = g v') : k = k' :=
  congrArg Prod.fst (List.inj_on_of_nodup_map h (mem_of_getElem?_ofPairs hv)
    (mem_of_getElem?_ofPairs hv') heq)

theorem mem_keys_ofPairs {pairs : List (κ × α)} {k : κ} :
    k ∈ (ofPairs pairs).keys ↔ k ∈ pairs.map (·.1) := by
  rw [Std.ExtTreeMap.mem_keys, Std.ExtTreeMap.mem_iff_isSome_getElem?,
    Option.isSome_iff_exists, List.mem_map]
  constructor
  · intro h
    obtain ⟨v, hv⟩ := h
    exact ⟨(k, v), mem_of_getElem?_ofPairs hv, rfl⟩
  · intro h
    obtain ⟨⟨_, v⟩, hm, rfl⟩ := h
    exact exists_getElem?_ofPairs hm

/-- Where no key comes twice no pair is lost. -/
theorem size_ofPairs {pairs : List (κ × α)} (h : (pairs.map (·.1)).Nodup) :
    (ofPairs pairs).size = pairs.length := by
  have hkeys : (ofPairs pairs).keys.Nodup :=
    Std.ExtTreeMap.distinct_keys.imp fun hne heq =>
      hne (Std.LawfulEqOrd.compare_eq_iff_eq.2 heq)
  have hperm := (List.perm_ext_iff_of_nodup hkeys h).2
    fun _ => mem_keys_ofPairs
  rw [← Std.ExtTreeMap.length_keys, hperm.length_eq, List.length_map]

/-- A dictionary of what a function says about those keys for which it says
something. -/
theorem getElem?_ofPairs_filterMap (f : κ → Option α) (keys : List κ)
    (k : κ) :
    (ofPairs (keys.filterMap fun x => (f x).map (x, ·)))[k]? =
      if k ∈ keys then f k else none := by
  have hpair : ∀ {x v}, (x, v) ∈ keys.filterMap (fun x =>
      (f x).map (x, ·)) ↔ x ∈ keys ∧ f x = some v := by
    intro x v
    simp only [List.mem_filterMap, Option.map_eq_some_iff, Prod.mk.injEq]
    constructor
    · intro h
      obtain ⟨y, hy, w, hw, rfl, rfl⟩ := h
      exact ⟨hy, hw⟩
    · intro h
      exact ⟨x, h.1, v, h.2, rfl, rfl⟩
  refine Option.ext fun v => ?_
  rw [getElem?_ofPairs_iff fun x v w hv hw => Option.some.inj
    ((hpair.1 hv).2.symm.trans (hpair.1 hw).2), hpair,
    Option.ite_none_right_eq_some]

/-- A dictionary of what a function says about some keys. -/
theorem getElem?_ofPairs_map (f : κ → α) (keys : List κ) (k : κ) :
    (ofPairs (keys.map fun x => (x, f x)))[k]? =
      if k ∈ keys then some (f k) else none := by
  rw [← getElem?_ofPairs_filterMap (fun x => some (f x)) keys k,
    ← List.filterMap_eq_map]
  rfl

/-- Where no two rows have one name, the dictionary of their records lists
them. -/
theorem ofPairs_lists {ρ : Type} {rows : List ρ} {name : ρ → κ}
    {record : ρ → α} (h : (rows.map name).Nodup) :
    Lists (ofPairs (rows.map fun row => (name row, record row))) rows name
      (fun row v => record row = v) := by
  have hkeys : ((rows.map fun row => (name row, record row)).map
      (·.1)).Nodup := by
    rw [List.map_map]
    exact h
  refine ⟨fun row hm => ⟨record row, ?_, rfl⟩, fun k v hv => ?_, ?_⟩
  · exact (getElem?_ofPairs_of_nodup hkeys).2
      (List.mem_map.2 ⟨row, hm, rfl⟩)
  · obtain ⟨row, hm, heq⟩ := List.mem_map.1 (mem_of_getElem?_ofPairs hv)
    exact ⟨row, hm, congrArg Prod.fst heq⟩
  · rw [size_ofPairs hkeys, List.length_map]

/-! ## Dictionaries of lists -/

/-- A dictionary of lists holds under each key the values of the pairs with
that key, in their order and as often as they occur, and nothing under a key
without a pair. -/
def Groups (d : Dict κ (List α)) (pairs : List (κ × α)) : Prop :=
  ∀ k, (d[k]? = none ↔ ∀ v, (k, v) ∉ pairs) ∧
    ∀ vs, d[k]? = some vs → vs = valuesOf pairs k

theorem listAt_group_eq_valuesOf (pairs : List (κ × α)) (k : κ) :
    (group pairs).listAt k = valuesOf pairs k :=
  listAt_group pairs k

theorem mem_listAt_group {pairs : List (κ × α)} {k : κ} {v : α} :
    v ∈ (group pairs).listAt k ↔ (k, v) ∈ pairs := by
  rw [listAt_group_eq_valuesOf, mem_valuesOf]

theorem nodup_listAt_group {pairs : List (κ × α)} (h : pairs.Nodup) (k : κ) :
    ((group pairs).listAt k).Nodup := by
  rw [listAt_group_eq_valuesOf]
  exact nodup_valuesOf h k

theorem group_groups (pairs : List (κ × α)) :
    Groups (group pairs) pairs := by
  intro k
  rw [getElem?_group]
  split
  · next h =>
      obtain ⟨p, hp, hk⟩ := List.any_eq_true.1 h
      have hm : (k, p.2) ∈ pairs := by
        rw [← of_decide_eq_true hk]
        exact hp
      refine ⟨⟨fun hn => (by cases hn), fun hn => absurd hm (hn p.2)⟩, ?_⟩
      intro vs hvs
      exact (Option.some.inj hvs).symm
  · next h =>
      refine ⟨⟨fun _ v hv => h ?_, fun _ => rfl⟩, fun vs hvs => ?_⟩
      · exact List.any_eq_true.2 ⟨(k, v), hv, decide_eq_true rfl⟩
      · cases hvs

/-- What is under a key depends on the values of the pairs with that key
alone. -/
theorem getElem?_group_eq_valuesOf (pairs : List (κ × α)) (k : κ) :
    (group pairs)[k]? = if (valuesOf pairs k).isEmpty then none
      else some (valuesOf pairs k) := by
  have hany : pairs.any (·.1 = k) = !(valuesOf pairs k).isEmpty := by
    rw [Bool.eq_iff_iff]
    simp [valuesOf]
  rw [getElem?_group, hany]
  cases (valuesOf pairs k).isEmpty with
  | false => rfl
  | true => rfl

/-- Pairs that give every key the same values in the same order are grouped
the same, however the keys alternate. -/
theorem group_congr {pairs pairs' : List (κ × α)}
    (h : ∀ k, valuesOf pairs k = valuesOf pairs' k) :
    group pairs = group pairs' := by
  refine Std.ExtTreeMap.ext_getElem? fun k => ?_
  rw [getElem?_group_eq_valuesOf, getElem?_group_eq_valuesOf, h k]

end Dict

/-! ## Marked lists and lists in ascending order -/

/-- Marking the first ones keeps all elements. -/
theorem markFirst_map_fst [Ord κ] [Std.TransOrd κ] (key : α → κ)
    (seen : Std.ExtTreeSet κ) (xs : List α) :
    (markFirst key seen xs).map (·.1) = xs := by
  induction xs generalizing seen with
  | nil => rfl
  | cons x xs ih => rw [markFirst, List.map_cons, ih]

/-- Where no key comes twice every element is the first one with its key. -/
theorem markFirst_of_nodup [Ord κ] [Std.TransOrd κ] [Std.LawfulEqOrd κ]
    {key : α → κ} {seen : Std.ExtTreeSet κ} {xs : List α}
    (h : (xs.map key).Nodup) (hseen : ∀ x ∈ xs, key x ∉ seen) :
    markFirst key seen xs = xs.map (·, true) := by
  induction xs generalizing seen with
  | nil => rfl
  | cons x xs ih =>
      rw [List.map_cons, List.nodup_cons] at h
      have hx : seen.contains (key x) = false := by
        rw [← Bool.not_eq_true, ← Std.ExtTreeSet.mem_iff_contains]
        exact hseen x List.mem_cons_self
      rw [markFirst, hx, ih h.2, List.map_cons]
      · rfl
      · intro y hy hm
        rcases Std.ExtTreeSet.mem_insert.1 hm with heq | hm
        · refine h.1 (List.mem_map.2 ⟨y, hy, ?_⟩)
          exact (Std.LawfulEqOrd.eq_of_compare heq).symm
        · exact hseen y (List.mem_cons_of_mem x hy) hm

theorem ascending_sorted [Ord α] [Std.TransOrd α] (xs : List α) :
    (ascending xs).Pairwise fun a b => compare a b = .lt :=
  Std.ExtTreeSet.ordered_toList

@[simp] theorem mem_ascending [Ord α] [Std.TransOrd α] [Std.LawfulEqOrd α]
    [DecidableEq α] {xs : List α} {x : α} : x ∈ ascending xs ↔ x ∈ xs := by
  rw [ascending, Std.ExtTreeSet.mem_toList, Std.ExtTreeSet.mem_ofList,
    List.contains_iff_mem]

/-- Texts are ordered as comparing them says. -/
theorem compare_text_eq_lt {a b : String} : compare a b = .lt ↔ a < b :=
  compareOfLessAndEq_eq_lt

end Advisory
