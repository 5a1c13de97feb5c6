import Mathlib.Data.List.Dedup
import Mathlib.Data.List.Nodup
import Snip36.Library.Fallible

/-!
Maps that remember the order in which their keys were first inserted, with the
keys pairwise distinct by construction. Writing a key that is present replaces
the value in place; writing a new key puts it at the end. A hash map whose
iteration order is not specified is one of these with an arbitrary order.
-/

namespace Snip36.Library

open Fallible

structure IndexMap (κ ν : Type) where
  entries : List (κ × ν)
  nodup : (entries.map Prod.fst).Nodup

namespace IndexMap

variable {κ ν ω : Type} [DecidableEq κ]

def keys (m : IndexMap κ ν) : List κ := m.entries.map Prod.fst

def values (m : IndexMap κ ν) : List ν := m.entries.map Prod.snd

def isEmpty (m : IndexMap κ ν) : Bool := m.entries.isEmpty

def empty : IndexMap κ ν := ⟨[], List.nodup_nil⟩

def get? (m : IndexMap κ ν) (k : κ) : Option ν := m.entries.lookup k

/-- Replace the value at a key that is present. -/
def overwrite (k : κ) (v : ν) : List (κ × ν) → List (κ × ν)
  | [] => []
  | e :: rest => if e.1 = k then (k, v) :: rest else e :: overwrite k v rest

theorem map_fst_overwrite (k : κ) (v : ν) (entries : List (κ × ν)) :
    (overwrite k v entries).map Prod.fst = entries.map Prod.fst := by
  induction entries with
  | nil => rfl
  | cons e rest ih =>
      rw [overwrite]
      split
      · next h => simp [h]
      · simp [ih]

def insert (m : IndexMap κ ν) (k : κ) (v : ν) : IndexMap κ ν :=
  if h : k ∈ m.keys then
    ⟨overwrite k v m.entries, by rw [map_fst_overwrite]; exact m.nodup⟩
  else
    ⟨m.entries ++ [(k, v)], by
      rw [List.map_append, List.nodup_append]
      exact ⟨m.nodup, by simp, by rintro a ha b hb rfl; simp at hb; exact h (hb ▸ ha)⟩⟩

/-- Insert a list of pairs, one after the other; a later pair wins. -/
def extend (m : IndexMap κ ν) (pairs : List (κ × ν)) : IndexMap κ ν :=
  pairs.foldl (fun acc e => acc.insert e.1 e.2) m

def ofList (pairs : List (κ × ν)) : IndexMap κ ν := empty.extend pairs

def mapValues (f : ν → ω) (m : IndexMap κ ν) : IndexMap κ ω where
  entries := m.entries.map fun e => (e.1, f e.2)
  nodup := by simpa [List.map_map, Function.comp_def] using m.nodup

/-! ### Lookups -/

@[simp] theorem get?_empty (k : κ) : (empty : IndexMap κ ν).get? k = none := rfl

omit [DecidableEq κ] in
@[simp] theorem keys_empty : (empty : IndexMap κ ν).keys = [] := rfl

theorem lookup_cons_eq_ite (e : κ × ν) (rest : List (κ × ν)) (k : κ) :
    (e :: rest).lookup k = if k = e.1 then some e.2 else rest.lookup k := by
  obtain ⟨j, v⟩ := e
  rw [List.lookup_cons]
  by_cases h : k = j
  · simp [h]
  · have hbeq : (k == j) = false := beq_eq_false_iff_ne.mpr h
    simp only [hbeq, h, if_false]

theorem lookup_overwrite (k j : κ) (v : ν) (entries : List (κ × ν)) :
    (overwrite k v entries).lookup j =
      if j = k then (entries.lookup k).map (fun _ => v) else entries.lookup j := by
  induction entries with
  | nil => simp [overwrite]
  | cons e rest ih =>
      rw [overwrite]
      split
      · next hek =>
        by_cases hj : j = k <;> simp [lookup_cons_eq_ite, hek, hj]
      · next hek =>
        have hke : ¬ k = e.1 := fun h => hek h.symm
        by_cases hj : j = k
        · subst hj
          simp [lookup_cons_eq_ite, ih, hke]
        · simp [lookup_cons_eq_ite, ih, hj]

theorem get?_eq_none_iff {m : IndexMap κ ν} {k : κ} : m.get? k = none ↔ k ∉ m.keys := by
  simp only [get?, keys]
  induction m.entries with
  | nil => simp
  | cons e rest ih =>
      rw [lookup_cons_eq_ite, List.map_cons, List.mem_cons, not_or, ← ih]
      by_cases h : k = e.1 <;> simp [h]

theorem isSome_get?_iff {m : IndexMap κ ν} {k : κ} : (m.get? k).isSome ↔ k ∈ m.keys := by
  rw [← not_iff_not, ← get?_eq_none_iff]
  simp

theorem mem_keys_of_get? {m : IndexMap κ ν} {k : κ} {v : ν} (h : m.get? k = some v) :
    k ∈ m.keys :=
  isSome_get?_iff.mp (by simp [h])

/-- With distinct keys the recorded pairs are exactly the lookups. -/
theorem get?_eq_some_iff {m : IndexMap κ ν} {k : κ} {v : ν} :
    m.get? k = some v ↔ (k, v) ∈ m.entries := by
  obtain ⟨entries, hnodup⟩ := m
  simp only [get?]
  induction entries with
  | nil => simp
  | cons e rest ih =>
      obtain ⟨a, b⟩ := e
      rw [List.map_cons, List.nodup_cons] at hnodup
      by_cases hk : k = a
      · subst hk
        have hfresh : (k, v) ∉ rest := fun hmem =>
          hnodup.1 (List.mem_map.mpr ⟨(k, v), hmem, rfl⟩)
        simp [hfresh, eq_comm]
      · simp [lookup_cons_eq_ite, hk, ih hnodup.2]

theorem get?_insert (m : IndexMap κ ν) (k j : κ) (v : ν) :
    (m.insert k v).get? j = if j = k then some v else m.get? j := by
  rw [insert]
  split
  · next h =>
    simp only [get?, lookup_overwrite]
    by_cases hj : j = k
    · obtain ⟨w, hw⟩ := Option.isSome_iff_exists.mp (isSome_get?_iff.mpr h)
      rw [get?] at hw
      simp [hj, hw]
    · simp [hj]
  · next h =>
    simp only [get?, List.lookup_append]
    by_cases hj : j = k
    · have hnone : m.entries.lookup k = none := get?_eq_none_iff.mpr h
      simp [hj, hnone]
    · simp [hj, lookup_cons_eq_ite]

@[simp] theorem get?_insert_self (m : IndexMap κ ν) (k : κ) (v : ν) :
    (m.insert k v).get? k = some v := by
  simp [get?_insert]

theorem get?_insert_of_ne {m : IndexMap κ ν} {k j : κ} {v : ν} (h : j ≠ k) :
    (m.insert k v).get? j = m.get? j := by
  simp [get?_insert, h]

theorem mem_keys_insert {m : IndexMap κ ν} {k j : κ} {v : ν} :
    j ∈ (m.insert k v).keys ↔ j = k ∨ j ∈ m.keys := by
  rw [← isSome_get?_iff, ← isSome_get?_iff, get?_insert]
  by_cases h : j = k <;> simp [h]

/-! ### Many insertions -/

@[simp] theorem extend_nil (m : IndexMap κ ν) : m.extend [] = m := rfl

@[simp] theorem extend_cons (m : IndexMap κ ν) (e : κ × ν) (pairs : List (κ × ν)) :
    m.extend (e :: pairs) = (m.insert e.1 e.2).extend pairs := rfl

theorem extend_append (m : IndexMap κ ν) (first second : List (κ × ν)) :
    m.extend (first ++ second) = (m.extend first).extend second := by
  simp [extend, List.foldl_append]

theorem mem_keys_extend {m : IndexMap κ ν} {pairs : List (κ × ν)} {k : κ} :
    k ∈ (m.extend pairs).keys ↔ k ∈ pairs.map Prod.fst ∨ k ∈ m.keys := by
  induction pairs generalizing m with
  | nil => simp
  | cons e rest ih =>
      rw [extend_cons, ih, mem_keys_insert, List.map_cons, List.mem_cons]
      tauto

theorem get?_extend_of_notMem {m : IndexMap κ ν} {pairs : List (κ × ν)} {k : κ}
    (h : k ∉ pairs.map Prod.fst) : (m.extend pairs).get? k = m.get? k := by
  induction pairs generalizing m with
  | nil => rfl
  | cons e rest ih =>
      rw [List.map_cons, List.mem_cons, not_or] at h
      rw [extend_cons, ih h.2, get?_insert_of_ne h.1]

/-- A pair whose key is written nowhere else survives the whole loop. -/
theorem get?_extend_of_mem {m : IndexMap κ ν} {pairs : List (κ × ν)} {k : κ} {v : ν}
    (hnodup : (pairs.map Prod.fst).Nodup) (h : (k, v) ∈ pairs) :
    (m.extend pairs).get? k = some v := by
  induction pairs generalizing m with
  | nil => simp at h
  | cons e rest ih =>
      rw [List.map_cons, List.nodup_cons] at hnodup
      rcases List.mem_cons.mp h with rfl | hrest
      · rw [extend_cons, get?_extend_of_notMem hnodup.1, get?_insert_self]
      · exact ih hnodup.2 hrest

theorem get?_ofList_of_mem {pairs : List (κ × ν)} {k : κ} {v : ν}
    (hnodup : (pairs.map Prod.fst).Nodup) (h : (k, v) ∈ pairs) :
    (ofList pairs).get? k = some v :=
  get?_extend_of_mem hnodup h

theorem mem_keys_ofList {pairs : List (κ × ν)} {k : κ} :
    k ∈ (ofList pairs).keys ↔ k ∈ pairs.map Prod.fst := by
  simp [ofList, mem_keys_extend]

/-- Copying a map pair by pair changes no lookup. -/
theorem get?_ofList_entries (m : IndexMap κ ν) (k : κ) : (ofList m.entries).get? k = m.get? k := by
  rcases h : m.get? k with _ | v
  · have hk : k ∉ m.entries.map Prod.fst := get?_eq_none_iff.mp h
    exact (get?_extend_of_notMem hk).trans (get?_empty k)
  · exact get?_ofList_of_mem m.nodup (get?_eq_some_iff.mp h)

theorem get?_mapValues (f : ν → ω) (m : IndexMap κ ν) (k : κ) :
    (m.mapValues f).get? k = (m.get? k).map f := by
  obtain ⟨entries, hnodup⟩ := m
  simp only [get?, mapValues]
  clear hnodup
  induction entries with
  | nil => rfl
  | cons e rest ih =>
      rw [List.map_cons, List.lookup_cons, List.lookup_cons, ih]
      cases k == e.1 <;> rfl

/-! ### Maps that agree with one global table

When every pair of a map is taken from one table, the map is determined by its
set of keys, and unions of such maps never conflict. -/

/-- Every pair of the map is a line of the table. -/
def DrawnFrom (table : κ → ν) (m : IndexMap κ ν) : Prop :=
  ∀ k v, m.get? k = some v → v = table k

theorem drawnFrom_empty (table : κ → ν) : DrawnFrom table (empty : IndexMap κ ν) := by
  intro k v h
  simp at h

theorem DrawnFrom.get?_eq {table : κ → ν} {m : IndexMap κ ν} (h : DrawnFrom table m) (k : κ)
    [Decidable (k ∈ m.keys)] :
    m.get? k = if k ∈ m.keys then some (table k) else none := by
  split
  · next hk =>
    obtain ⟨v, hv⟩ := Option.isSome_iff_exists.mp (isSome_get?_iff.mpr hk)
    rw [hv, h k v hv]
  · next hk => exact get?_eq_none_iff.mpr hk

theorem DrawnFrom.get?_congr {table : κ → ν} {m n : IndexMap κ ν} (hm : DrawnFrom table m)
    (hn : DrawnFrom table n) {k : κ} (hkeys : k ∈ m.keys ↔ k ∈ n.keys) :
    m.get? k = n.get? k := by
  classical
  rw [hm.get?_eq, hn.get?_eq]
  simp only [hkeys]

theorem DrawnFrom.insert {table : κ → ν} {m : IndexMap κ ν} (h : DrawnFrom table m) (k : κ) :
    DrawnFrom table (m.insert k (table k)) := by
  intro j v hj
  rw [get?_insert] at hj
  split at hj
  · next heq => rw [heq]; exact (Option.some.inj hj).symm
  · exact h j v hj

theorem DrawnFrom.extend {table : κ → ν} {m n : IndexMap κ ν} (hm : DrawnFrom table m)
    (hn : DrawnFrom table n) : DrawnFrom table (m.extend n.entries) := by
  have hpairs : ∀ e ∈ n.entries, e.2 = table e.1 := fun e he =>
    hn e.1 e.2 (get?_eq_some_iff.mpr he)
  revert hpairs
  generalize n.entries = pairs
  intro hpairs
  induction pairs generalizing m with
  | nil => exact hm
  | cons e rest ih =>
      rw [extend_cons, hpairs e (by simp)]
      exact ih (hm.insert e.1) fun e' he' => hpairs e' (by simp [he'])

/-! ### Loops that fill a map

Every pair that is written comes from a relation that gives a key one value at
most, so that no pass of a loop undoes another. -/

/-- From `m` to `m'` no pair is lost, the keys in `W` are written, and all pairs
come from `R`. -/
structure Fills (R : κ → ν → Prop) (W : κ → Prop) (m m' : IndexMap κ ν) : Prop where
  within : ∀ k v, m'.get? k = some v → R k v
  keeps : ∀ k v, m.get? k = some v → m'.get? k = some v
  writes : ∀ k, W k → (m'.get? k).isSome

section Fills

variable {R : κ → ν → Prop} {W W' : κ → Prop} {m m' m'' : IndexMap κ ν}

theorem fills_refl (hwithin : ∀ k v, m.get? k = some v → R k v)
    (hwrites : ∀ k, W k → (m.get? k).isSome) : Fills R W m m :=
  ⟨hwithin, fun _ _ h => h, hwrites⟩

theorem Fills.isSome (h : Fills R W m m') {k : κ} (hk : (m.get? k).isSome) :
    (m'.get? k).isSome := by
  obtain ⟨v, hv⟩ := Option.isSome_iff_exists.mp hk
  rw [h.keeps k v hv]
  rfl

theorem Fills.trans (h : Fills R W m m') (h' : Fills R W' m' m'') :
    Fills R (fun k => W k ∨ W' k) m m'' := by
  refine ⟨h'.within, fun k v hv => h'.keeps k v (h.keeps k v hv), ?_⟩
  rintro k (hk | hk)
  · exact h'.isSome (h.writes k hk)
  · exact h'.writes k hk

theorem fills_insert (hfunctional : ∀ k v v', R k v → R k v' → v = v')
    (hwithin : ∀ k v, m.get? k = some v → R k v) {k : κ} {v : ν} (hkv : R k v) :
    Fills R (· = k) m (m.insert k v) := by
  refine ⟨fun j w hj => ?_, fun j w hj => ?_, ?_⟩
  · rw [get?_insert] at hj
    split at hj
    · next heq =>
      cases hj
      exact heq ▸ hkv
    · exact hwithin j w hj
  · by_cases heq : j = k
    · subst heq
      rw [get?_insert_self, hfunctional j v w hkv (hwithin j w hj)]
    · rw [get?_insert_of_ne heq, hj]
  · rintro j rfl
    rw [get?_insert_self]
    rfl

/-- A loop whose passes fill the map, as long as the keys in `K` are there. -/
theorem fills_foldlM {ε α : Type} {K : κ → Prop} {P : α → κ → Prop} {items : List α}
    {step : IndexMap κ ν → α → Except ε (IndexMap κ ν)}
    (hstep : ∀ a ∈ items, ∀ m m', (∀ k v, m.get? k = some v → R k v) →
      (∀ k, K k → (m.get? k).isSome) → step m a = .ok m' → Fills R (P a) m m')
    (hwithin : ∀ k v, m.get? k = some v → R k v) (hkeys : ∀ k, K k → (m.get? k).isSome)
    (h : items.foldlM step m = .ok m') : Fills R (fun k => ∃ a ∈ items, P a k) m m' := by
  induction items generalizing m with
  | nil =>
      cases h
      exact fills_refl hwithin (by simp)
  | cons a rest ih =>
      rw [List.foldlM_cons, bind_eq_ok_iff] at h
      obtain ⟨middle, hmiddle, hrest⟩ := h
      have hfirst := hstep a (by simp) m middle hwithin hkeys hmiddle
      have hlater := ih (fun b hb => hstep b (by simp [hb])) hfirst.within
        (fun k hk => hfirst.isSome (hkeys k hk)) hrest
      have hboth := hfirst.trans hlater
      refine ⟨hboth.within, hboth.keeps, ?_⟩
      rintro k ⟨b, hb, hk⟩
      rcases List.mem_cons.mp hb with rfl | hb
      · exact hboth.writes k (Or.inl hk)
      · exact hboth.writes k (Or.inr ⟨b, hb, hk⟩)

theorem fills_foldl {α : Type} {K : κ → Prop} {P : α → κ → Prop} {items : List α}
    {step : IndexMap κ ν → α → IndexMap κ ν}
    (hstep : ∀ a ∈ items, ∀ m, (∀ k v, m.get? k = some v → R k v) →
      (∀ k, K k → (m.get? k).isSome) → Fills R (P a) m (step m a))
    (hwithin : ∀ k v, m.get? k = some v → R k v) (hkeys : ∀ k, K k → (m.get? k).isSome) :
    Fills R (fun k => ∃ a ∈ items, P a k) m (items.foldl step m) := by
  have hpure : items.foldlM (fun m a => (pure (step m a) : Except Unit _)) m =
      .ok (items.foldl step m) := List.foldlM_pure
  refine fills_foldlM ?_ hwithin hkeys hpure
  rintro a ha m m' hm hk ⟨⟩
  exact hstep a ha m hm hk

end Fills

/-! ### Unions of paths through one table -/

/-- The lines of the table at the points of some paths, and no others. -/
def UnionOf (table : κ → ν) (paths : List (List κ)) (m : IndexMap κ ν) : Prop :=
  DrawnFrom table m ∧ ∀ k, k ∈ m.keys ↔ k ∈ paths.flatten

theorem unionOf_empty (table : κ → ν) : UnionOf table [] (empty : IndexMap κ ν) :=
  ⟨drawnFrom_empty table, by simp⟩

theorem unionOf_ofList (table : κ → ν) (paths : List (List κ)) :
    UnionOf table paths (ofList (paths.flatten.map fun k => (k, table k))) := by
  constructor
  · generalize paths.flatten = points
    suffices h : ∀ m, DrawnFrom table m →
        DrawnFrom table (m.extend (points.map fun k => (k, table k))) from
      h _ (drawnFrom_empty table)
    induction points with
    | nil => exact fun m hm => hm
    | cons k rest ih => exact fun m hm => ih _ (hm.insert k)
  · intro k
    rw [mem_keys_ofList, List.map_map]
    simp [Function.comp_def]

theorem UnionOf.extend {table : κ → ν} {ps qs : List (List κ)} {m n : IndexMap κ ν}
    (hm : UnionOf table ps m) (hn : UnionOf table qs n) :
    UnionOf table (ps ++ qs) (m.extend n.entries) := by
  refine ⟨hm.1.extend hn.1, fun k => ?_⟩
  have hkeys : k ∈ n.entries.map Prod.fst ↔ k ∈ qs.flatten := hn.2 k
  rw [mem_keys_extend, hkeys, hm.2, List.flatten_append, List.mem_append, or_comm]

/-- The union of many unions, taken in one loop over all their entries. -/
theorem UnionOf.extend_flatMap {ι : Type} {table : κ → ν} {items : List ι}
    {paths : ι → List (List κ)} {maps : ι → IndexMap κ ν}
    (hitems : ∀ i ∈ items, UnionOf table (paths i) (maps i))
    {ps : List (List κ)} {m : IndexMap κ ν} (hm : UnionOf table ps m) :
    UnionOf table (ps ++ items.flatMap paths)
      (m.extend (items.flatMap fun i => (maps i).entries)) := by
  induction items generalizing ps m with
  | nil => simpa using hm
  | cons i rest ih =>
      have hfirst := hm.extend (hitems i (by simp))
      have hrest := ih (fun j hj => hitems j (by simp [hj])) hfirst
      simpa [extend_append] using hrest

/-- The order of the paths, and how often each is listed, does not matter. -/
theorem UnionOf.of_mem_iff {table : κ → ν} {ps qs : List (List κ)} {m : IndexMap κ ν}
    (h : UnionOf table ps m) (hpaths : ∀ p, p ∈ ps ↔ p ∈ qs) : UnionOf table qs m := by
  refine ⟨h.1, fun k => ?_⟩
  rw [h.2]
  simp only [List.mem_flatten, hpaths]

theorem UnionOf.get?_congr {table : κ → ν} {paths : List (List κ)} {m n : IndexMap κ ν}
    (hm : UnionOf table paths m) (hn : UnionOf table paths n) (k : κ) :
    m.get? k = n.get? k := by
  apply hm.1.get?_congr hn.1
  rw [hm.2, hn.2]

theorem UnionOf.get?_eq {table : κ → ν} {paths : List (List κ)} {m : IndexMap κ ν}
    (h : UnionOf table paths m) (k : κ) :
    m.get? k = if k ∈ paths.flatten then some (table k) else none := by
  rw [h.1.get?_eq]
  simp only [h.2]

end IndexMap

end Snip36.Library
