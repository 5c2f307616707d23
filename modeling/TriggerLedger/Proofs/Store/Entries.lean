import Mathlib.Data.List.Perm.Basic
import TriggerLedger.Store.Entries
/-!
# Keyed entries looked up

A key that was just given a value has that value.  When no key comes twice, the
order of the entries does not matter.
-/

namespace TriggerLedger.Entries

variable {α : Type} {key : String} {value : α} {entries others : List (String × α)}

@[simp]
theorem lookup_replace_self (key : String) (value : α) (entries : List (String × α)) :
    (replace key value entries).lookup key = some value := by
  induction entries with
  | nil => simp [replace]
  | cons entry entries induction =>
      rw [replace]
      split
      case isTrue same => simp
      case isFalse different =>
        have notFirst : (key == entry.1) = false := by simpa using Ne.symm different
        rw [List.lookup_cons, notFirst, induction]

theorem lookup_replace_of_ne {other : String} (different : other ≠ key) :
    (replace key value entries).lookup other = entries.lookup other := by
  have notFirst : (other == key) = false := by simpa using different
  induction entries with
  | nil => rw [replace, List.lookup_cons, notFirst]
  | cons entry entries induction =>
      rw [replace]
      split
      case isTrue same => rw [List.lookup_cons, List.lookup_cons, same, notFirst]
      case isFalse => rw [List.lookup_cons, List.lookup_cons, induction]

@[simp]
theorem lookup_erase_self (key : String) (entries : List (String × α)) :
    (erase key entries).lookup key = none := by
  rw [List.lookup_eq_none_iff]
  intro entry member
  have different : entry.1 ≠ key := by simpa using (List.mem_filter.mp member).2
  simpa using different.symm

theorem lookup_erase_of_ne {other : String} (different : other ≠ key) :
    (erase key entries).lookup other = entries.lookup other := by
  induction entries with
  | nil => rfl
  | cons entry entries induction =>
      rw [erase] at induction ⊢
      by_cases same : entry.1 = key
      · have notFirst : (other == entry.1) = false := by simpa [same] using different
        rw [List.filter_cons_of_neg (by simpa using same), induction, List.lookup_cons, notFirst]
      · rw [List.filter_cons_of_pos (by simpa using same), List.lookup_cons, List.lookup_cons,
          induction]

@[simp]
theorem erase_replace (key : String) (value : α) (entries : List (String × α)) :
    erase key (replace key value entries) = erase key entries := by
  induction entries with
  | nil => simp [erase, replace]
  | cons entry entries induction =>
      rw [replace]
      split
      case isTrue same => simp [erase, same]
      case isFalse different =>
        rw [erase] at induction ⊢
        simp [different, induction, erase]

theorem erase_eq_self (absent : key ∉ entries.map Prod.fst) : erase key entries = entries := by
  rw [erase, List.filter_eq_self]
  intro entry member
  have different : entry.1 ≠ key := by
    rintro rfl
    exact absent (List.mem_map_of_mem member)
  simpa using different

/-- Where no key comes twice, replacing is dropping the key and adding the entry. -/
theorem replace_perm (unique : (entries.map Prod.fst).Nodup) :
    (replace key value entries).Perm ((key, value) :: erase key entries) := by
  induction entries with
  | nil => exact .refl _
  | cons entry entries induction =>
      rw [List.map_cons, List.nodup_cons] at unique
      rw [replace]
      split
      case isTrue same =>
        have absent : key ∉ entries.map Prod.fst := same ▸ unique.1
        have erased : erase key (entry :: entries) = entries := by
          rw [← erase_eq_self absent]
          simp [erase, same]
        rw [erased]
      case isFalse different =>
        have kept : erase key (entry :: entries) = entry :: erase key entries := by
          simp [erase, different]
        rw [kept]
        exact ((induction unique.2).cons entry).trans (List.Perm.swap _ _ _)

theorem erase_perm (key : String) (same : entries.Perm others) :
    (erase key entries).Perm (erase key others) :=
  same.filter _

theorem nodup_erase (unique : (entries.map Prod.fst).Nodup) :
    ((erase key entries).map Prod.fst).Nodup :=
  unique.sublist (List.filter_sublist.map Prod.fst)

theorem nodup_replace (unique : (entries.map Prod.fst).Nodup) :
    ((replace key value entries).map Prod.fst).Nodup := by
  rw [((replace_perm unique).map Prod.fst).nodup_iff, List.map_cons, List.nodup_cons]
  exact ⟨by simp [erase], nodup_erase unique⟩

theorem replace_of_absent (absent : key ∉ entries.map Prod.fst) :
    replace key value entries = entries ++ [(key, value)] := by
  induction entries with
  | nil => rfl
  | cons entry entries induction =>
      rw [List.map_cons, List.mem_cons, not_or] at absent
      rw [replace, if_neg (Ne.symm absent.1), induction absent.2, List.cons_append]

theorem mem_of_mem_replace {entry : String × α} (unique : (entries.map Prod.fst).Nodup)
    (member : entry ∈ replace key value entries) : entry = (key, value) ∨ entry ∈ entries := by
  rw [(replace_perm unique).mem_iff, List.mem_cons] at member
  exact member.imp_right fun kept => (List.mem_filter.mp kept).1

/-- Where no key comes twice, a value is found exactly if its entry is there. -/
theorem lookup_eq_some_iff (unique : (entries.map Prod.fst).Nodup) :
    entries.lookup key = some value ↔ (key, value) ∈ entries := by
  induction entries with
  | nil => simp
  | cons entry entries induction =>
      rw [List.map_cons, List.nodup_cons] at unique
      rw [List.lookup_cons, List.mem_cons]
      by_cases same : key = entry.1
      · have absent : (key, value) ∉ entries := by
          intro member
          exact unique.1 (same ▸ List.mem_map_of_mem member)
        subst same
        simp [absent, Prod.ext_iff, eq_comm]
      · have notFirst : (key, value) ≠ entry := by
          rintro rfl
          exact same rfl
        have notEqual : (key == entry.1) = false := by simpa using same
        simp [notFirst, notEqual, induction unique.2]

theorem lookup_perm (unique : (entries.map Prod.fst).Nodup) (same : entries.Perm others) :
    entries.lookup key = others.lookup key := by
  have otherUnique : (others.map Prod.fst).Nodup := (same.map Prod.fst).nodup_iff.mp unique
  ext value
  rw [lookup_eq_some_iff unique, lookup_eq_some_iff otherUnique, same.mem_iff]

/-- Entries whose keys are kept are found among those that are kept. -/
theorem lookup_filter (keeps : String → Bool) (kept : keeps key = true) :
    (entries.filter fun entry => keeps entry.1).lookup key = entries.lookup key := by
  induction entries with
  | nil => rfl
  | cons entry entries induction =>
      obtain ⟨name, value⟩ := entry
      by_cases same : key = name
      · subst same
        simp [kept]
      · have notFirst : (key == name) = false := by simpa using same
        cases here : keeps name <;> simp [List.lookup_cons, here, notFirst, induction]

theorem filter_replace_of_kept (keeps : String → Bool) (kept : keeps key = true) :
    ((replace key value entries).filter fun entry => keeps entry.1) =
      replace key value (entries.filter fun entry => keeps entry.1) := by
  induction entries with
  | nil => simp [replace, kept]
  | cons entry entries induction =>
      rw [replace]
      split
      case isTrue same => simp [replace, same, kept]
      case isFalse different =>
        rw [List.filter_cons, List.filter_cons, induction]
        split
        · rw [replace, if_neg different]
        · rfl

theorem filter_replace_of_dropped (keeps : String → Bool) (dropped : keeps key = false) :
    ((replace key value entries).filter fun entry => keeps entry.1) =
      entries.filter fun entry => keeps entry.1 := by
  induction entries with
  | nil => simp [replace, dropped]
  | cons entry entries induction =>
      rw [replace]
      split
      case isTrue same => simp [same, dropped]
      case isFalse => rw [List.filter_cons, List.filter_cons, induction]

theorem filter_erase_comm (keeps : String → Bool) (key : String) (entries : List (String × α)) :
    ((erase key entries).filter fun entry => keeps entry.1) =
      erase key (entries.filter fun entry => keeps entry.1) := by
  simp only [erase, List.filter_filter, Bool.and_comm]

theorem filter_erase_of_dropped (keeps : String → Bool) (dropped : keeps key = false) :
    ((erase key entries).filter fun entry => keeps entry.1) =
      entries.filter fun entry => keeps entry.1 := by
  rw [erase, List.filter_filter]
  refine List.filter_congr fun entry _ => ?_
  by_cases same : entry.1 = key <;> simp [same, dropped]

end TriggerLedger.Entries
