import FlowTalk.Flow.Table
import Mathlib.Data.List.Nodup

/-! What the operations on tables do to the keys, the values and the entry of each key. -/
namespace FlowTalk.Table

variable {α : Type} {t : Table α} {key other : Text} {value : α} {f : α → α} {id : α → Text}

theorem find?_cons {entry : Text × α} :
    find? key (entry :: t) = if entry.1 = key then some entry.2 else find? key t := by
  obtain ⟨k, v⟩ := entry
  by_cases h : k = key
  · simp [find?, h]
  · have hne : (key == k) = false := by simpa using fun he => h he.symm
    simp [find?, List.lookup_cons, h, hne]

theorem has_iff_mem_keys : t.has key = true ↔ key ∈ t.keys := by
  simp [has, keys]

theorem has_eq_isSome : t.has key = (t.find? key).isSome := by
  induction t with
  | nil => rfl
  | cons entry t ih =>
    by_cases h : entry.1 = key
    · simp [has, find?_cons, h]
    · have hne : (entry.1 == key) = false := by simpa using h
      simpa [has, find?_cons, h, hne] using ih

theorem find?_eq_none (h : t.has key = false) : t.find? key = none := by
  simpa [has_eq_isSome] using h

theorem mem_of_find? (h : t.find? key = some value) : (key, value) ∈ t := by
  induction t with
  | nil => simp [find?] at h
  | cons entry t ih =>
    obtain ⟨k, v⟩ := entry
    by_cases hk : k = key
    · simp_all [find?_cons]
    · simp only [find?_cons, hk, if_false] at h
      exact List.mem_cons_of_mem _ (ih h)

theorem find?_of_mem (hn : t.keys.Nodup) (h : (key, value) ∈ t) : t.find? key = some value := by
  induction t with
  | nil => simp at h
  | cons entry t ih =>
    obtain ⟨hne, hn⟩ := List.nodup_cons.mp hn
    rcases List.mem_cons.mp h with rfl | h
    · simp [find?_cons]
    · have hk : key ∈ keys t := List.mem_map_of_mem h
      have hek : entry.1 ≠ key := fun he => hne (he ▸ hk)
      simpa [find?_cons, hek] using ih hn h

/-! Changing, putting and erasing -/

theorem keys_adjust : (t.adjust key f).keys = t.keys := by
  simp only [keys, adjust, List.map_map]
  refine List.map_congr_left fun entry _ => ?_
  by_cases h : entry.1 = key <;> simp [h]

theorem has_adjust : (t.adjust key f).has other = t.has other := by
  rw [Bool.eq_iff_iff, has_iff_mem_keys, has_iff_mem_keys, keys_adjust]

theorem find?_adjust :
    (t.adjust key f).find? other =
      if other = key then (t.find? other).map f else t.find? other := by
  induction t with
  | nil => simp [adjust, find?]
  | cons entry t ih =>
    have ih' : find? other (t.map fun entry => if entry.1 == key then (entry.1, f entry.2)
        else entry) = _ := ih
    obtain ⟨k, v⟩ := entry
    rw [adjust, List.map_cons, find?_cons, find?_cons, ih']
    by_cases ho : k = other
    · subst other
      by_cases hk : k = key <;> simp [hk]
    · have ho' : other ≠ k := Ne.symm ho
      by_cases hk : k = key
      · subst key
        simp [ho, ho']
      · simp [hk, ho]

theorem put_of_not_has (h : t.has key = false) : t.put key value = t ++ [(key, value)] := by
  simp [put, h]

theorem keys_put_of_not_has (h : t.has key = false) : (t.put key value).keys = t.keys ++ [key] := by
  simp [put_of_not_has h, keys]

theorem values_put_of_not_has (h : t.has key = false) :
    (t.put key value).values = t.values ++ [value] := by
  simp [put_of_not_has h, values]

theorem find?_append {u : Table α} : find? key (t ++ u) = (t.find? key).or (u.find? key) := by
  induction t with
  | nil => simp [find?]
  | cons entry t ih =>
    rw [List.cons_append, find?_cons, find?_cons, ih]
    by_cases h : entry.1 = key <;> simp [h]

theorem find?_put_of_not_has (h : t.has key = false) :
    (t.put key value).find? other = if other = key then some value else t.find? other := by
  rw [put_of_not_has h, find?_append]
  by_cases ho : other = key
  · subst other
    simp [find?_eq_none h, find?_cons]
  · rw [find?_cons]
    simp [Ne.symm ho, ho, find?]

theorem has_put_of_not_has (h : t.has key = false) :
    (t.put key value).has other = (other == key || t.has other) := by
  rw [has_eq_isSome, find?_put_of_not_has h, has_eq_isSome]
  by_cases ho : other = key <;> simp [ho]

theorem keys_erase : (t.erase key).keys = t.keys.filter (· != key) := by
  simp [keys, erase, List.filter_map, Function.comp_def]

theorem find?_erase :
    (t.erase key).find? other = if other = key then none else t.find? other := by
  induction t with
  | nil => simp [erase, find?]
  | cons entry t ih =>
    have ih' : find? other (t.filter fun entry => entry.1 != key) = _ := ih
    by_cases hk : entry.1 = key <;> by_cases ho : entry.1 = other <;>
      simp_all [erase, find?_cons]

theorem has_erase : (t.erase key).has other = (other != key && t.has other) := by
  rw [has_eq_isSome, find?_erase, has_eq_isSome]
  by_cases ho : other = key <;> simp [ho]

/-- What is put under a new key is gone without a trace once the key is erased. -/
theorem erase_put_of_not_has (h : t.has key = false) : (t.put key value).erase key = t := by
  have hstay : t.erase key = t := by
    apply List.filter_eq_self.2
    intro entry hentry
    have hne : entry.1 ≠ key := by
      rintro rfl
      have hmem : t.has entry.1 = true := has_iff_mem_keys.2 (List.mem_map_of_mem hentry)
      simp [h] at hmem
    simpa using hne
  rw [put_of_not_has h, erase, List.filter_append]
  simpa [erase] using hstay

theorem erase_comm (key other : Text) :
    (t.erase key).erase other = (t.erase other).erase key := by
  simp [erase, List.filter_filter, Bool.and_comm]

/-! Changing every value, and tables that cannot be told apart -/

/-- Changes every value, with its key at hand. -/
def mapAll (g : Text → α → α) (t : Table α) : Table α :=
  t.map fun entry => (entry.1, g entry.1 entry.2)

theorem keys_mapAll {g : Text → α → α} : (t.mapAll g).keys = t.keys := by
  simp [keys, mapAll]

theorem find?_mapAll {g : Text → α → α} :
    (t.mapAll g).find? key = (t.find? key).map (g key) := by
  induction t with
  | nil => rfl
  | cons entry t ih =>
    have ih' : find? key (t.map fun entry => (entry.1, g entry.1 entry.2)) = _ := ih
    rw [mapAll, List.map_cons, find?_cons, find?_cons, ih']
    by_cases h : entry.1 = key
    · simp [h]
    · simp [h]

theorem mapAll_erase {g : Text → α → α} : (t.erase key).mapAll g = (t.mapAll g).erase key := by
  simp [erase, mapAll, List.filter_map, Function.comp_def]

theorem find?_of_not_mem_keys (h : key ∉ t.keys) : t.find? key = none :=
  find?_eq_none (by rw [Bool.eq_false_iff, Ne, has_iff_mem_keys]; exact h)

/-- A table is told by the order of its keys and by what is found under each of them. -/
theorem eq_of_find?_eq {u : Table α} (hn : t.keys.Nodup) (hkeys : t.keys = u.keys)
    (hfind : ∀ key, t.find? key = u.find? key) : t = u := by
  induction t generalizing u with
  | nil => exact (List.map_eq_nil_iff.1 hkeys.symm).symm
  | cons entry t ih =>
    cases u with
    | nil => cases hkeys
    | cons entry' u =>
      obtain ⟨k, v⟩ := entry
      obtain ⟨k', v'⟩ := entry'
      obtain ⟨rfl, hrest⟩ : k = k' ∧ keys t = keys u := List.cons.inj hkeys
      obtain ⟨hne, hn⟩ := List.nodup_cons.1 hn
      have hvalue : v = v' := by simpa [find?_cons] using hfind k
      have htail : t = u := by
        refine ih hn hrest fun key => ?_
        by_cases hk : k = key
        · subst hk
          rw [find?_of_not_mem_keys hne, find?_of_not_mem_keys (hrest ▸ hne)]
        · simpa [find?_cons, hk] using hfind key
      rw [hvalue, htail]

/-! Tables whose keys are the ids of their values -/

/-- Each value stands under its own id, and no id stands twice. -/
structure Keyed (id : α → Text) (t : Table α) : Prop where
  key_eq : ∀ entry ∈ t, entry.1 = id entry.2
  nodup : t.keys.Nodup

namespace Keyed

theorem nil : Keyed id ([] : Table α) := ⟨by simp, List.nodup_nil⟩

theorem put (h : t.Keyed id) (hv : t.has (id value) = false) :
    (t.put (id value) value).Keyed id := by
  refine ⟨fun entry he => ?_, ?_⟩
  · rw [put_of_not_has hv] at he
    rcases List.mem_append.mp he with he | he
    · exact h.key_eq entry he
    · simp_all
  · have hk : id value ∉ t.keys := fun hk => by simp [has_iff_mem_keys.mpr hk] at hv
    rw [keys_put_of_not_has hv, List.nodup_append]
    refine ⟨h.nodup, by simp, fun a ha b hb => ?_⟩
    rw [List.mem_singleton.mp hb]
    exact fun he => hk (he ▸ ha)

theorem adjust (h : t.Keyed id) (hf : ∀ v, id (f v) = id v) : (t.adjust key f).Keyed id := by
  refine ⟨fun entry he => ?_, by rw [keys_adjust]; exact h.nodup⟩
  obtain ⟨old, ho, rfl⟩ := List.mem_map.mp he
  have := h.key_eq old ho
  by_cases hk : old.1 = key <;> simp_all

theorem erase (h : t.Keyed id) : (t.erase key).Keyed id := by
  refine ⟨fun entry he => h.key_eq entry (List.mem_of_mem_filter he), ?_⟩
  rw [keys_erase]
  exact h.nodup.filter _

theorem find?_eq_some (h : t.Keyed id) :
    t.find? key = some value ↔ value ∈ t.values ∧ id value = key := by
  constructor
  · intro hf
    have hm := mem_of_find? hf
    exact ⟨List.mem_map_of_mem hm, (h.key_eq _ hm).symm⟩
  · rintro ⟨hv, rfl⟩
    obtain ⟨entry, hm, rfl⟩ := List.mem_map.mp hv
    rw [← h.key_eq entry hm]
    exact find?_of_mem h.nodup hm

theorem has_iff (h : t.Keyed id) : t.has key = true ↔ ∃ v ∈ t.values, id v = key := by
  rw [has_eq_isSome, Option.isSome_iff_exists]
  exact exists_congr fun v => h.find?_eq_some

theorem nodup_ids (h : t.Keyed id) : (t.values.map id).Nodup := by
  have hkeys : t.values.map id = t.keys := by
    rw [values, keys, List.map_map]
    exact List.map_congr_left fun entry he => (h.key_eq entry he).symm
  rw [hkeys]
  exact h.nodup

/-- A value does not stand in a table if it comes after the values there, and no id stands twice. -/
theorem not_has_of_nodup (h : t.Keyed id) {vs : List α}
    (hnodup : ((t.values ++ value :: vs).map id).Nodup) : t.has (id value) = false := by
  rw [Bool.eq_false_iff]
  intro hhas
  obtain ⟨v, hv, hid⟩ := h.has_iff.1 hhas
  rw [List.map_append, List.map_cons, List.nodup_append] at hnodup
  exact hnodup.2.2 (id v) (List.mem_map_of_mem hv) (id value) List.mem_cons_self hid

/-- Two values with one id are one value. -/
theorem eq_of_id_eq (h : t.Keyed id) {v w : α} (hv : v ∈ t.values) (hw : w ∈ t.values)
    (he : id v = id w) : v = w := by
  have hv' := h.find?_eq_some.mpr ⟨hv, rfl⟩
  have hw' := h.find?_eq_some.mpr ⟨hw, he.symm⟩
  exact Option.some.inj (hv'.symm.trans hw')

theorem values_erase (h : t.Keyed id) :
    (t.erase key).values = t.values.filter fun v => id v != key := by
  rw [values, values, List.filter_map, Table.erase]
  refine congrArg _ (List.filter_congr fun entry he => ?_)
  simp [h.key_eq entry he]

theorem values_adjust (h : t.Keyed id) :
    (t.adjust key f).values = t.values.map fun v => if id v = key then f v else v := by
  rw [values, values, Table.adjust, List.map_map, List.map_map]
  refine List.map_congr_left fun entry he => ?_
  by_cases hk : id entry.2 = key <;> simp [h.key_eq entry he, hk]

end Keyed

end FlowTalk.Table
