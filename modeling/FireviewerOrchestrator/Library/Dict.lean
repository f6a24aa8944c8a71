/-
  Insertion-ordered dictionaries.

  The dictionaries of scripting languages: at most one entry per key (a field of the structure, so
  a duplicate cannot be built), entries kept in the order their keys were first inserted, and
  assignment to a present key overwrites it in place.  `setEntries`/`getEntry` are the two
  recursions on the entry list; everything else is derived from what they do to each other.
-/
import Mathlib.Data.List.Induction
import Mathlib.Data.List.Nodup

/-- A dictionary: entries in insertion order, at most one per key. -/
structure Dict (κ ν : Type) where
  entries : List (κ × ν)
  nodup : (entries.map Prod.fst).Nodup

namespace Dict

variable {κ ν μ : Type}

def keys (d : Dict κ ν) : List κ := d.entries.map Prod.fst

def values (d : Dict κ ν) : List ν := d.entries.map Prod.snd

def empty : Dict κ ν := ⟨[], List.nodup_nil⟩

instance : Inhabited (Dict κ ν) := ⟨empty⟩

@[ext] theorem ext {d d' : Dict κ ν} (h : d.entries = d'.entries) : d = d' := by
  cases d
  cases d'
  cases h
  rfl

/-! ## Lookup and assignment -/

variable [DecidableEq κ]

def getEntry (k : κ) : List (κ × ν) → Option ν
  | [] => none
  | e :: es => if e.1 = k then some e.2 else getEntry k es

def setEntries (k : κ) (v : ν) : List (κ × ν) → List (κ × ν)
  | [] => [(k, v)]
  | e :: es => if e.1 = k then (k, v) :: es else e :: setEntries k v es

theorem getEntry_eq_none {k : κ} {es : List (κ × ν)} :
    getEntry k es = none ↔ k ∉ es.map Prod.fst := by
  induction es with
  | nil => simp [getEntry]
  | cons e es ih =>
    by_cases h : e.1 = k
    · simp [getEntry, h]
    · simp [getEntry, h, ih, Ne.symm h]

theorem getEntry_eq_some {k : κ} {v : ν} {es : List (κ × ν)} (hn : (es.map Prod.fst).Nodup) :
    getEntry k es = some v ↔ (k, v) ∈ es := by
  induction es with
  | nil => simp [getEntry]
  | cons e es ih =>
    rw [List.map_cons, List.nodup_cons] at hn
    by_cases h : e.1 = k
    · subst h
      have habs : ∀ v, (e.1, v) ∉ es := fun v hm => hn.1 (List.mem_map.mpr ⟨(e.1, v), hm, rfl⟩)
      rw [getEntry, if_pos rfl, List.mem_cons]
      constructor
      · rintro ⟨rfl⟩
        exact Or.inl rfl
      · rintro (heq | hm)
        · rw [← heq]
        · exact absurd hm (habs v)
    · rw [getEntry, if_neg h, ih hn.2, List.mem_cons]
      constructor
      · exact Or.inr
      · rintro (heq | hm)
        · exact absurd (congrArg Prod.fst heq).symm h
        · exact hm

theorem getEntry_setEntries (k k' : κ) (v : ν) (es : List (κ × ν)) :
    getEntry k' (setEntries k v es) = if k' = k then some v else getEntry k' es := by
  induction es with
  | nil =>
    by_cases h : k' = k
    · simp [setEntries, getEntry, h]
    · simp [setEntries, getEntry, h, Ne.symm h]
  | cons e es ih =>
    by_cases he : e.1 = k
    · by_cases h : k' = k
      · simp [setEntries, getEntry, he, h]
      · simp [setEntries, getEntry, he, h, Ne.symm h]
    · by_cases h : k' = k
      · subst h
        simp [setEntries, getEntry, he, ih]
      · simp [setEntries, getEntry, he, ih, h]

/-- Assignment touches the key list only at its end, and only for a new key. -/
theorem map_fst_setEntries (k : κ) (v : ν) (es : List (κ × ν)) :
    (setEntries k v es).map Prod.fst
      = if k ∈ es.map Prod.fst then es.map Prod.fst else es.map Prod.fst ++ [k] := by
  induction es with
  | nil => rfl
  | cons e es ih =>
    by_cases he : e.1 = k
    · simp [setEntries, he]
    · have hk : k ≠ e.1 := Ne.symm he
      by_cases hm : k ∈ es.map Prod.fst
      · rw [if_pos hm] at ih
        simp only [setEntries, he, if_false, List.map_cons, ih, List.mem_cons, hm, or_true, if_true]
      · rw [if_neg hm] at ih
        simp only [setEntries, he, if_false, List.map_cons, ih, List.mem_cons, hk, hm, or_self,
          List.cons_append]

theorem nodup_setEntries (k : κ) (v : ν) {es : List (κ × ν)} (hn : (es.map Prod.fst).Nodup) :
    ((setEntries k v es).map Prod.fst).Nodup := by
  rw [map_fst_setEntries]
  split
  · exact hn
  · rename_i hk
    exact List.nodup_append.mpr ⟨hn, List.nodup_singleton k, by
      intro a ha b hb hab
      rw [List.mem_singleton] at hb
      exact hk (hb ▸ hab ▸ ha)⟩

/-- `d.get(k)`. -/
def get? (d : Dict κ ν) (k : κ) : Option ν := getEntry k d.entries

/-- `d[k] = v`. -/
def set (d : Dict κ ν) (k : κ) (v : ν) : Dict κ ν := ⟨setEntries k v d.entries, nodup_setEntries k v d.nodup⟩

/-- `k in d`. -/
def contains (d : Dict κ ν) (k : κ) : Bool := (d.get? k).isSome

theorem get?_set (d : Dict κ ν) (k k' : κ) (v : ν) :
    (d.set k v).get? k' = if k' = k then some v else d.get? k' :=
  getEntry_setEntries k k' v d.entries

theorem get?_eq_none {d : Dict κ ν} {k : κ} : d.get? k = none ↔ k ∉ d.keys := getEntry_eq_none

theorem get?_eq_some {d : Dict κ ν} {k : κ} {v : ν} : d.get? k = some v ↔ (k, v) ∈ d.entries :=
  getEntry_eq_some d.nodup

theorem keys_set (d : Dict κ ν) (k : κ) (v : ν) :
    (d.set k v).keys = if k ∈ d.keys then d.keys else d.keys ++ [k] :=
  map_fst_setEntries k v d.entries

theorem keys_set_of_mem {d : Dict κ ν} {k : κ} (v : ν) (h : k ∈ d.keys) :
    (d.set k v).keys = d.keys := by
  rw [keys_set, if_pos h]

omit [DecidableEq κ] in
theorem mem_keys_of_mem {d : Dict κ ν} {k : κ} {v : ν} (h : (k, v) ∈ d.entries) : k ∈ d.keys :=
  List.mem_map.mpr ⟨(k, v), h, rfl⟩

@[simp] theorem get?_empty (k : κ) : (empty : Dict κ ν).get? k = none := rfl

omit [DecidableEq κ] in
@[simp] theorem keys_empty : (empty : Dict κ ν).keys = [] := rfl

/-- A dictionary is determined by its keys, in order, and by what it holds under each. -/
theorem ext_get? {d d' : Dict κ ν} (hkeys : d.keys = d'.keys) (hget : ∀ k, d.get? k = d'.get? k) :
    d = d' := by
  have hlists : ∀ es es' : List (κ × ν), (es.map Prod.fst).Nodup →
      es.map Prod.fst = es'.map Prod.fst → (∀ k, getEntry k es = getEntry k es') → es = es' := by
    intro es
    induction es with
    | nil =>
      intro es' _ hk _
      exact (List.map_eq_nil_iff.mp hk.symm).symm
    | cons e es ih =>
      intro es' hn hk hg
      cases es' with
      | nil => cases hk
      | cons e' es' =>
        rw [List.map_cons, List.map_cons, List.cons.injEq] at hk
        rw [List.map_cons, List.nodup_cons] at hn
        obtain ⟨hfst, hrest⟩ := hk
        have hsnd : e.2 = e'.2 := by
          have := hg e.1
          simpa [getEntry, hfst] using this
        have htail : es = es' := by
          refine ih es' hn.2 hrest fun k => ?_
          by_cases hkey : e.1 = k
          · have hnone : getEntry k es = none := getEntry_eq_none.mpr (hkey ▸ hn.1)
            have hnone' : getEntry k es' = none := getEntry_eq_none.mpr (hrest ▸ hkey ▸ hn.1)
            rw [hnone, hnone']
          · have := hg k
            simpa [getEntry, hkey, hfst ▸ hkey] using this
        rw [htail, Prod.ext hfst hsnd]
  exact ext (hlists d.entries d'.entries d.nodup hkeys hget)

/-! ## Comprehensions -/

/-- `{k: v for k, v in pairs}`: the last pair of a repeated key wins, at the first one's place. -/
def ofPairs (pairs : List (κ × ν)) : Dict κ ν := pairs.foldl (fun d e => d.set e.1 e.2) empty

/-- `{k: f(k, v) for k, v in d.items()}`. -/
def mapValues (f : κ → ν → μ) (d : Dict κ ν) : Dict κ μ :=
  ⟨d.entries.map fun e => (e.1, f e.1 e.2), by simpa [List.map_map, Function.comp_def] using d.nodup⟩

omit [DecidableEq κ] in
@[simp] theorem keys_mapValues (f : κ → ν → μ) (d : Dict κ ν) : (d.mapValues f).keys = d.keys := by
  simp [keys, mapValues, List.map_map, Function.comp_def]

theorem get?_mapValues (f : κ → ν → μ) (d : Dict κ ν) (k : κ) :
    (d.mapValues f).get? k = (d.get? k).map (f k) := by
  have hlist : ∀ es : List (κ × ν),
      getEntry k (es.map fun e => (e.1, f e.1 e.2)) = (getEntry k es).map (f k) := by
    intro es
    induction es with
    | nil => rfl
    | cons e es ih =>
      by_cases h : e.1 = k
      · subst h
        simp [getEntry]
      · simp [getEntry, h, ih]
  exact hlist d.entries

/-- Distinct keys: the comprehension keeps every pair, in order. -/
theorem foldl_set_of_nodup (pairs : List (κ × ν)) : ∀ d : Dict κ ν,
    (d.keys ++ pairs.map Prod.fst).Nodup →
    (pairs.foldl (fun d e => d.set e.1 e.2) d).entries = d.entries ++ pairs := by
  induction pairs with
  | nil => intro d _; simp
  | cons e pairs ih =>
    intro d hn
    have hnew : e.1 ∉ d.keys := by
      intro hm
      rw [List.map_cons, List.nodup_append] at hn
      exact hn.2.2 e.1 hm e.1 List.mem_cons_self rfl
    have hset : (d.set e.1 e.2).entries = d.entries ++ [e] := by
      have hfresh : ∀ es : List (κ × ν), e.1 ∉ es.map Prod.fst → setEntries e.1 e.2 es = es ++ [e] := by
        intro es
        induction es with
        | nil => intro _; rfl
        | cons x es ihx =>
          intro hx
          rw [List.map_cons, List.mem_cons, not_or] at hx
          rw [setEntries, if_neg (Ne.symm hx.1), ihx hx.2, List.cons_append]
      exact hfresh d.entries hnew
    have hkeys : (d.set e.1 e.2).keys = d.keys ++ [e.1] := by rw [keys_set, if_neg hnew]
    rw [List.foldl_cons, ih (d.set e.1 e.2) (by rw [hkeys]; simpa using hn), hset]
    simp

theorem entries_ofPairs {pairs : List (κ × ν)} (hn : (pairs.map Prod.fst).Nodup) :
    (ofPairs pairs).entries = pairs := by
  rw [ofPairs, foldl_set_of_nodup pairs empty (by simpa using hn)]
  rfl

/-- The pair is the last one of its key. -/
def LastOf (pairs : List (κ × ν)) (k : κ) (v : ν) : Prop :=
  ∃ before after, pairs = before ++ (k, v) :: after ∧ k ∉ after.map Prod.fst

omit [DecidableEq κ] in
/-- A further pair is the last one of its key, and leaves the other keys alone. -/
theorem lastOf_concat {pairs : List (κ × ν)} {e : κ × ν} {k : κ} {v : ν} :
    LastOf (pairs ++ [e]) k v ↔ (k = e.1 ∧ v = e.2) ∨ (k ≠ e.1 ∧ LastOf pairs k v) := by
  constructor
  · rintro ⟨before, after, heq, hlast⟩
    rcases List.eq_nil_or_concat' after with rfl | ⟨rest, x, rfl⟩
    · obtain ⟨-, rfl⟩ := List.append_singleton_inj.mp heq
      exact Or.inl ⟨rfl, rfl⟩
    · rw [← List.cons_append, ← List.append_assoc] at heq
      obtain ⟨rfl, rfl⟩ := List.append_singleton_inj.mp heq
      rw [List.map_append, List.mem_append, not_or] at hlast
      exact Or.inr ⟨by simpa using hlast.2, before, rest, rfl, hlast.1⟩
  · rintro (⟨rfl, rfl⟩ | ⟨hk, before, after, rfl, hlast⟩)
    · exact ⟨pairs, [], rfl, List.not_mem_nil⟩
    · refine ⟨before, after ++ [e], by simp, ?_⟩
      rw [List.map_append, List.mem_append, not_or]
      exact ⟨hlast, by simpa using hk⟩

/-- **The last pair of a key wins.** -/
theorem get?_ofPairs_eq_some {pairs : List (κ × ν)} : ∀ {k : κ} {v : ν},
    (ofPairs pairs).get? k = some v ↔ LastOf pairs k v := by
  induction pairs using List.reverseRecOn with
  | nil =>
    intro k v
    constructor
    · intro h
      cases h
    · rintro ⟨before, after, h, -⟩
      exact absurd h.symm (by simp)
  | append_singleton pairs e ih =>
    intro k v
    have hset : ofPairs (pairs ++ [e]) = (ofPairs pairs).set e.1 e.2 := by
      rw [ofPairs, List.foldl_append]
      rfl
    rw [hset, get?_set, lastOf_concat]
    by_cases hk : k = e.1
    · rw [if_pos hk, Option.some_inj, eq_comm]
      constructor
      · exact fun hv => Or.inl ⟨hk, hv⟩
      · rintro (⟨-, hv⟩ | ⟨hne, -⟩)
        · exact hv
        · exact absurd hk hne
    · rw [if_neg hk, ih]
      constructor
      · exact fun hlast => Or.inr ⟨hk, hlast⟩
      · rintro (⟨heq, -⟩ | ⟨-, hlast⟩)
        · exact absurd heq hk
        · exact hlast

/-- So the values are those of the pairs that are the last of their keys. -/
theorem mem_values_ofPairs {pairs : List (κ × ν)} {v : ν} :
    v ∈ (ofPairs pairs).values ↔ ∃ k, LastOf pairs k v := by
  unfold values
  rw [List.mem_map]
  constructor
  · rintro ⟨⟨k, v'⟩, hentry, rfl⟩
    exact ⟨k, get?_ofPairs_eq_some.mp (get?_eq_some.mpr hentry)⟩
  · rintro ⟨k, hlast⟩
    exact ⟨(k, v), get?_eq_some.mp (get?_ofPairs_eq_some.mpr hlast), rfl⟩

theorem keys_ofPairs {pairs : List (κ × ν)} (hn : (pairs.map Prod.fst).Nodup) :
    (ofPairs pairs).keys = pairs.map Prod.fst := by
  rw [keys, entries_ofPairs hn]

end Dict
