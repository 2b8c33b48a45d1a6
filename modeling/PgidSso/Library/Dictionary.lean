import Mathlib

/-! The `Map` of ECMAScript: values under distinct keys, in the order in which the keys were
first set. -/

structure Dictionary (κ ν : Type) where
  entries : List (κ × ν)
  distinct : (entries.map Prod.fst).Nodup
  deriving DecidableEq

namespace Dictionary

variable {κ ν : Type}

def empty : Dictionary κ ν :=
  ⟨[], List.nodup_nil⟩

def keys (dictionary : Dictionary κ ν) : List κ :=
  dictionary.entries.map Prod.fst

def values (dictionary : Dictionary κ ν) : List ν :=
  dictionary.entries.map Prod.snd

@[simp] theorem keys_empty : (empty : Dictionary κ ν).keys = [] := rfl

@[simp] theorem entries_empty : (empty : Dictionary κ ν).entries = [] := rfl

theorem keys_nodup (dictionary : Dictionary κ ν) : dictionary.keys.Nodup :=
  dictionary.distinct

theorem distinct_append {entries : List (κ × ν)} (hdistinct : (entries.map Prod.fst).Nodup) {key : κ}
    (hfresh : key ∉ entries.map Prod.fst) (value : ν) : ((entries ++ [(key, value)]).map Prod.fst).Nodup := by
  rw [List.map_append, List.map_singleton]
  apply List.nodup_append.mpr
  refine ⟨hdistinct, List.nodup_singleton _, ?_⟩
  rintro first hfirst last hlast rfl
  obtain rfl := List.mem_singleton.mp hlast
  exact hfresh hfirst

variable [DecidableEq κ]

/-- `dictionary.get(key)`. -/
def get (dictionary : Dictionary κ ν) (key : κ) : Option ν :=
  (dictionary.entries.find? fun entry => entry.1 = key).map Prod.snd

theorem distinct_replace {entries : List (κ × ν)} (hdistinct : (entries.map Prod.fst).Nodup) (key : κ) (value : ν) :
    ((entries.map fun entry => if entry.1 = key then (key, value) else entry).map Prod.fst).Nodup := by
  rw [List.map_map]
  have hsame : ∀ entry ∈ entries,
      (Prod.fst ∘ fun entry : κ × ν => if entry.1 = key then (key, value) else entry) entry = entry.1 := by
    intro entry _
    rw [Function.comp_apply]
    split
    · rename_i heq
      exact heq.symm
    · rfl
  rw [List.map_congr_left hsame]
  exact hdistinct

/-- `dictionary.set(key, value)`. -/
def set (dictionary : Dictionary κ ν) (key : κ) (value : ν) : Dictionary κ ν :=
  if hmem : key ∈ dictionary.keys then
    ⟨dictionary.entries.map fun entry => if entry.1 = key then (key, value) else entry,
      distinct_replace dictionary.distinct key value⟩
  else ⟨dictionary.entries ++ [(key, value)], distinct_append dictionary.distinct hmem value⟩

section lemmas

variable {dictionary : Dictionary κ ν} {key : κ} {value : ν}

theorem get_eq_some_iff : dictionary.get key = some value ↔ (key, value) ∈ dictionary.entries := by
  rw [get, Option.map_eq_some_iff]
  constructor
  · rintro ⟨⟨found, _⟩, hfind, rfl⟩
    have hkey := List.find?_some hfind
    simp only [decide_eq_true_eq] at hkey
    subst hkey
    exact List.mem_of_find?_eq_some hfind
  · intro hmem
    have hsome : (dictionary.entries.find? fun entry => entry.1 = key).isSome := by
      rw [List.find?_isSome]
      exact ⟨(key, value), hmem, decide_eq_true rfl⟩
    obtain ⟨entry, hfind⟩ := Option.isSome_iff_exists.mp hsome
    have hkey := List.find?_some hfind
    simp only [decide_eq_true_eq] at hkey
    have hsame : entry = (key, value) :=
      List.inj_on_of_nodup_map dictionary.distinct (List.mem_of_find?_eq_some hfind) hmem hkey
    exact ⟨entry, hfind, by rw [hsame]⟩

theorem get_eq_none_iff : dictionary.get key = none ↔ key ∉ dictionary.keys := by
  rw [get, Option.map_eq_none_iff, List.find?_eq_none, keys, List.mem_map]
  constructor
  · rintro hnone ⟨entry, hentry, rfl⟩
    exact hnone entry hentry (decide_eq_true rfl)
  · intro hmissing entry hentry hkey
    exact hmissing ⟨entry, hentry, of_decide_eq_true hkey⟩

theorem mem_values_iff : value ∈ dictionary.values ↔ ∃ key, dictionary.get key = some value := by
  simp only [values, List.mem_map, get_eq_some_iff]
  constructor
  · rintro ⟨⟨key, _⟩, hentry, rfl⟩
    exact ⟨key, hentry⟩
  · rintro ⟨key, hentry⟩
    exact ⟨(key, value), hentry, rfl⟩

theorem mem_keys_of_get (hget : dictionary.get key = some value) : key ∈ dictionary.keys :=
  List.mem_map_of_mem (f := Prod.fst) (get_eq_some_iff.mp hget)

theorem entries_set_of_not_mem (hfresh : key ∉ dictionary.keys) :
    (dictionary.set key value).entries = dictionary.entries ++ [(key, value)] := by
  rw [set, dif_neg hfresh]

theorem values_set_of_not_mem (hfresh : key ∉ dictionary.keys) :
    (dictionary.set key value).values = dictionary.values ++ [value] := by
  rw [values, entries_set_of_not_mem hfresh, List.map_append, values, List.map_singleton]

theorem keys_set_of_not_mem (hfresh : key ∉ dictionary.keys) :
    (dictionary.set key value).keys = dictionary.keys ++ [key] := by
  rw [keys, entries_set_of_not_mem hfresh, List.map_append, keys, List.map_singleton]

/-- Setting a key leaves the entries of the others as they are. -/
theorem mem_entries_set_iff {entry : κ × ν} :
    entry ∈ (dictionary.set key value).entries ↔ entry = (key, value) ∨ (entry ∈ dictionary.entries ∧ entry.1 ≠ key) := by
  rw [set]
  split
  · rename_i hmem
    rw [List.mem_map]
    constructor
    · rintro ⟨other, hother, rfl⟩
      split
      · exact .inl rfl
      · rename_i hne
        exact .inr ⟨hother, hne⟩
    · rintro (rfl | ⟨hentry, hne⟩)
      · obtain ⟨other, hother, hkey⟩ := List.mem_map.mp hmem
        exact ⟨other, hother, by rw [if_pos hkey]⟩
      · exact ⟨entry, hentry, by rw [if_neg hne]⟩
  · rename_i hfresh
    rw [List.mem_append, List.mem_singleton, or_comm]
    refine or_congr_right (iff_self_and.mpr ?_)
    rintro hentry rfl
    exact hfresh (List.mem_map_of_mem hentry)

theorem mem_keys_set_iff {other : κ} :
    other ∈ (dictionary.set key value).keys ↔ other = key ∨ other ∈ dictionary.keys := by
  simp only [keys, List.mem_map, mem_entries_set_iff]
  constructor
  · rintro ⟨entry, rfl | ⟨hentry, -⟩, rfl⟩
    · exact .inl rfl
    · exact .inr ⟨entry, hentry, rfl⟩
  · rintro (rfl | ⟨entry, hentry, rfl⟩)
    · exact ⟨_, .inl rfl, rfl⟩
    · by_cases hsame : entry.1 = key
      · exact ⟨(key, value), .inl rfl, hsame.symm⟩
      · exact ⟨entry, .inr ⟨hentry, hsame⟩, rfl⟩

/-- `new Map(entries)`. -/
def ofEntries (entries : List (κ × ν)) : Dictionary κ ν :=
  entries.foldl (fun dictionary entry => dictionary.set entry.1 entry.2) empty

theorem entries_foldl_set {entries : List (κ × ν)} {dictionary : Dictionary κ ν}
    (hdistinct : (dictionary.keys ++ entries.map Prod.fst).Nodup) :
    (entries.foldl (fun dictionary entry => dictionary.set entry.1 entry.2) dictionary).entries =
      dictionary.entries ++ entries := by
  induction entries generalizing dictionary with
  | nil => simp
  | cons entry entries ih =>
    have hfresh : entry.1 ∉ dictionary.keys := by
      intro hmem
      exact (List.nodup_append.mp hdistinct).2.2 _ hmem _ List.mem_cons_self rfl
    rw [List.foldl_cons, ih, entries_set_of_not_mem hfresh, List.append_assoc, List.singleton_append]
    rw [keys_set_of_not_mem hfresh, List.append_assoc, List.singleton_append]
    exact hdistinct

/-- Entries with distinct keys are those of the dictionary. -/
theorem entries_ofEntries {entries : List (κ × ν)} (hdistinct : (entries.map Prod.fst).Nodup) :
    (ofEntries entries).entries = entries := by
  rw [ofEntries, entries_foldl_set, entries_empty, List.nil_append]
  rw [keys_empty, List.nil_append]
  exact hdistinct

/-- A sum over keys, of which the dictionary has some, is the sum over its values. -/
theorem sum_get {all : List κ} (hnodup : all.Nodup) (hkeys : ∀ key ∈ dictionary.keys, key ∈ all) (amount : ν → Int) :
    (all.map fun key => (dictionary.get key).elim 0 amount).sum = (dictionary.values.map amount).sum := by
  obtain ⟨entries, hdistinct⟩ := dictionary
  induction entries generalizing all with
  | nil =>
    have hzero : ∀ key ∈ all, ((⟨[], hdistinct⟩ : Dictionary κ ν).get key).elim 0 amount = 0 := fun _ _ => rfl
    rw [List.map_congr_left hzero, List.map_const', List.sum_replicate]
    simp [values]
  | cons entry entries ih =>
    obtain ⟨first, value⟩ := entry
    obtain ⟨hfresh, hrest⟩ := List.nodup_cons.mp hdistinct
    have hfirst : first ∈ all := hkeys first List.mem_cons_self
    have hperm := List.perm_cons_erase hfirst
    have htail : ∀ key ∈ all.erase first, ((⟨(first, value) :: entries, hdistinct⟩ : Dictionary κ ν).get key).elim 0
        amount = ((⟨entries, hrest⟩ : Dictionary κ ν).get key).elim 0 amount := by
      intro key hkey
      have hne : first ≠ key := by
        rintro rfl
        exact (hnodup.mem_erase_iff.mp hkey).1 rfl
      rw [get, get, List.find?_cons_of_neg (by simpa using hne)]
    have hmem : ∀ key ∈ (⟨entries, hrest⟩ : Dictionary κ ν).keys, key ∈ all.erase first := by
      intro key hkey
      rw [hnodup.mem_erase_iff]
      refine ⟨?_, hkeys key (List.mem_cons_of_mem _ hkey)⟩
      rintro rfl
      exact hfresh hkey
    have hhead : (⟨(first, value) :: entries, hdistinct⟩ : Dictionary κ ν).get first = some value :=
      get_eq_some_iff.mpr List.mem_cons_self
    rw [(hperm.map _).sum_eq, List.map_cons, List.sum_cons, List.map_congr_left htail,
      ih (hnodup.erase first) hrest hmem, hhead, Option.elim_some, values, values, List.map_cons, List.map_cons,
      List.sum_cons]

/-- Such a sum with a fallback that counts for nothing. -/
theorem sum_getD {all : List κ} (hnodup : all.Nodup) (hkeys : ∀ key ∈ dictionary.keys, key ∈ all) {fallback : ν}
    (amount : ν → Int) (hzero : amount fallback = 0) :
    (all.map fun key => amount ((dictionary.get key).getD fallback)).sum = (dictionary.values.map amount).sum := by
  rw [← sum_get hnodup hkeys amount]
  congr 1
  apply List.map_congr_left
  intro key _
  cases dictionary.get key with
  | none => exact hzero
  | some value => rfl

end lemmas

/-- `new Set(values)` keeps the first of equal values. -/
theorem nodup_eraseDups {α : Type} [BEq α] [LawfulBEq α] (values : List α) : values.eraseDups.Nodup := by
  induction hlength : values.length using Nat.strongRecOn generalizing values with
  | ind length ih =>
    cases values with
    | nil => exact List.nodup_nil
    | cons value values =>
      rw [List.eraseDups_cons, List.nodup_cons]
      constructor
      · rw [List.mem_eraseDups, List.mem_filter]
        rintro ⟨-, hne⟩
        simp at hne
      · have hle := List.length_filter_le (fun other => !other == value) values
        rw [List.length_cons] at hlength
        exact ih _ (by omega) _ rfl

end Dictionary
