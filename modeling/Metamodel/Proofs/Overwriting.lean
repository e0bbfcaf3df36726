/-
Entries inserted one after the other under names.

Everything that a table of names answers can be read off the entries that came into it, and it does
not matter to that which names count as the same. The last entry for a name is the one that is
found, and the one that the next entry for the name displaces. It is listed where the first entry for
the name was put, so that the order of a table is the order in which its keys came up.
-/

import Metamodel.Proofs.Tables

namespace Metamodel

namespace Keyed

variable {α κ : Type} [DecidableEq κ] {key : α → κ}

/-- A key that is there already is not kept again. -/
theorem eraseDups_concat (keys : List κ) (last : κ) :
    (keys ++ [last]).eraseDups =
      if last ∈ keys then keys.eraseDups else keys.eraseDups ++ [last] := by
  rw [List.eraseDups_append]
  split
  · simp_all [List.removeAll]
  · simp_all [List.removeAll, List.eraseDups_cons]

/-- Keys without their repetitions stand in the order in which they first came up. -/
theorem pairwise_eraseDups (keys : List κ) :
    keys.eraseDups.Pairwise fun first second => keys.idxOf first < keys.idxOf second := by
  induction keys using List.reverseRecOn with
  | nil => exact List.Pairwise.nil
  | append_singleton keys last inductionHypothesis =>
    have kept : keys.eraseDups.Pairwise fun first second =>
        (keys ++ [last]).idxOf first < (keys ++ [last]).idxOf second := by
      refine inductionHypothesis.imp_of_mem fun firstMember secondMember before => ?_
      rw [List.idxOf_append_of_mem (List.mem_eraseDups.mp firstMember),
        List.idxOf_append_of_mem (List.mem_eraseDups.mp secondMember)]
      exact before
    rw [eraseDups_concat]
    by_cases known : last ∈ keys
    · rw [if_pos known]
      exact kept
    · rw [if_neg known, List.pairwise_append]
      refine ⟨kept, List.pairwise_singleton _ _, fun first firstMember second secondMember => ?_⟩
      rw [List.mem_singleton.mp secondMember,
        List.idxOf_append_of_mem (List.mem_eraseDups.mp firstMember),
        List.idxOf_append_of_notMem known]
      exact Nat.lt_add_right _ (List.idxOf_lt_length_of_mem (List.mem_eraseDups.mp firstMember))

/-- A table filled from nothing lists its items in the order in which their keys came up. -/
theorem pairwise_items_ofList (items : List α) :
    (ofList items : Keyed key).items.Pairwise fun first second =>
      (items.map key).idxOf (key first) < (items.map key).idxOf (key second) := by
  have ordered := pairwise_eraseDups (items.map key)
  rw [← keys_ofList items, List.pairwise_map] at ordered
  exact ordered

/-- An item lengthens a table unless its key is there already. -/
theorem size_insert (table : Keyed key) (item : α) :
    (table.insert item).size + (if (table.find? (key item)).isSome then 1 else 0) =
      table.size + 1 := by
  have known : (table.find? (key item)).isSome = true ↔ key item ∈ table.items.map key := by
    unfold find?
    rw [List.find?_isSome, List.mem_map]
    simp only [decide_eq_true_eq]
  have sizes : ∀ filled : Keyed key, filled.size = (filled.items.map key).length := fun filled =>
    (List.length_map key).symm
  rw [sizes, sizes]
  show ((insertItem key item table.items).map key).length + _ = _
  rw [keys_insertItem]
  by_cases present : key item ∈ table.items.map key
  · rw [if_pos present, if_pos (known.mpr present)]
  · rw [if_neg present, if_neg (mt known.mp present), List.length_append]
    rfl

end Keyed

/-- The last of some entries whose name counts as a given one. -/
structure Casing.LastEntry {α : Type} (casing : Casing) (entries : List (String × α))
    (name : String) (entry : String × α) : Prop where
  counts : casing.key entry.1 = casing.key name
  last : ∃ earlier later, entries = earlier ++ entry :: later ∧
    ∀ other ∈ later, casing.key other.1 ≠ casing.key name

namespace NameTable

variable {α : Type}

/-! ### Finding -/

theorem find?_ofList_eq_some_iff (casing : Casing) (entries : List (String × α)) (name : String)
    (entry : String × α) :
    (ofList casing entries).find? name = some entry ↔ casing.LastEntry entries name entry := by
  rw [find?_ofList, List.find?_eq_some_iff_append]
  constructor
  · rintro ⟨counts, later, earlier, split, passed⟩
    refine ⟨of_decide_eq_true counts, earlier.reverse, later.reverse, ?_, fun other member => ?_⟩
    · rw [← List.reverse_reverse entries, split, List.reverse_append, List.reverse_cons,
        List.append_assoc, List.singleton_append]
    · simpa using passed other (List.mem_reverse.mp member)
  · rintro ⟨counts, earlier, later, rfl, passed⟩
    refine ⟨decide_eq_true counts, later.reverse, earlier.reverse, ?_, fun other member => ?_⟩
    · rw [List.reverse_append, List.reverse_cons, List.append_assoc, List.singleton_append]
    · simpa using passed other (List.mem_reverse.mp member)

theorem find?_ofList_eq_none_iff (casing : Casing) (entries : List (String × α)) (name : String) :
    (ofList casing entries).find? name = none ↔
      ∀ entry ∈ entries, casing.key entry.1 ≠ casing.key name := by
  rw [find?_ofList, List.find?_eq_none]
  simp only [List.mem_reverse, decide_eq_true_eq, ne_eq]

theorem get?_ofList_eq_some_iff (casing : Casing) (entries : List (String × α)) (name : String)
    (value : α) :
    (ofList casing entries).get? name = some value ↔
      ∃ spelled, casing.LastEntry entries name (spelled, value) := by
  unfold get?
  rw [Option.map_eq_some_iff]
  constructor
  · rintro ⟨⟨spelled, _⟩, found, rfl⟩
    exact ⟨spelled, (find?_ofList_eq_some_iff casing entries name _).mp found⟩
  · rintro ⟨spelled, last⟩
    exact ⟨_, (find?_ofList_eq_some_iff casing entries name _).mpr last, rfl⟩

/-- A name that is given again in other letters is found in the letters given last. -/
example : (ofList .insensitive [("Name", 1), ("name", 2)]).find? "nAmE" = some ("name", 2) := by
  decide

/-! ### Listing -/

/-- What a table lists is what it finds. -/
theorem mem_toList_iff (table : NameTable α) (entry : String × α) :
    entry ∈ table.toList ↔ table.find? entry.1 = some entry := by
  unfold find?
  rw [Keyed.find?_eq_some_iff]
  exact (and_iff_left rfl).symm

theorem nodup_keys (table : NameTable α) :
    (table.toList.map fun entry => table.casing.key entry.1).Nodup := table.entries.distinct

theorem casing_ofList (casing : Casing) (entries : List (String × α)) :
    (ofList casing entries).casing = casing := by
  rw [ofList_eq]

theorem pairwise_toList_ofList (casing : Casing) (entries : List (String × α)) :
    (ofList casing entries).toList.Pairwise fun first second =>
      (entries.map fun entry => casing.key entry.1).idxOf (casing.key first.1) <
        (entries.map fun entry => casing.key entry.1).idxOf (casing.key second.1) := by
  rw [ofList_eq]
  exact Keyed.pairwise_items_ofList entries

/-! ### Displacing -/

/-- What insertions one after the other give back, each the entry whose place it took. -/
def displaced (table : NameTable α) : List (String × α) → List (Option (String × α))
  | [] => []
  | entry :: rest =>
    let (old, next) := table.exchange entry.1 entry.2
    old :: next.displaced rest

theorem insertAll_cons (table : NameTable α) (entry : String × α) (rest : List (String × α)) :
    table.insertAll (entry :: rest) = (table.insert entry.1 entry.2).insertAll rest := rfl

theorem displaced_cons (table : NameTable α) (entry : String × α) (rest : List (String × α)) :
    table.displaced (entry :: rest) =
      table.find? entry.1 :: (table.insert entry.1 entry.2).displaced rest := rfl

/-- An insertion displaces what the table made by those before it finds. -/
theorem getElem?_displaced (table : NameTable α) (earlier later : List (String × α))
    (entry : String × α) :
    (table.displaced (earlier ++ entry :: later))[earlier.length]? =
      some ((table.insertAll earlier).find? entry.1) := by
  induction earlier generalizing table with
  | nil => rfl
  | cons head rest inductionHypothesis =>
    rw [List.cons_append, displaced_cons, List.length_cons, List.getElem?_cons_succ,
      inductionHypothesis, insertAll_cons]

/-- Every insertion either lengthens a table or displaces an entry. -/
theorem size_insertAll (table : NameTable α) (entries : List (String × α)) :
    (table.insertAll entries).size + (table.displaced entries).countP Option.isSome =
      table.size + entries.length := by
  induction entries generalizing table with
  | nil => rfl
  | cons entry rest inductionHypothesis =>
    have inserted : (table.insert entry.1 entry.2).size +
        (if (table.find? entry.1).isSome then 1 else 0) = table.size + 1 :=
      Keyed.size_insert table.entries (entry.1, entry.2)
    have others := inductionHypothesis (table.insert entry.1 entry.2)
    rw [insertAll_cons, displaced_cons, List.countP_cons, List.length_cons]
    omega

/-! ### All answers -/

/-- What a table answers after entries came into it when it was empty. -/
structure Recalls (casing : Casing) (entries : List (String × α)) : Prop where
  finds : ∀ name entry, (ofList casing entries).find? name = some entry ↔
    casing.LastEntry entries name entry
  gets : ∀ name value, (ofList casing entries).get? name = some value ↔
    ∃ spelled, casing.LastEntry entries name (spelled, value)
  contains : ∀ name, (ofList casing entries).contains name = true ↔
    ∃ entry, casing.LastEntry entries name entry
  /-- There is no answer for a name under which nothing came in. -/
  misses : ∀ name, (∀ entry ∈ entries, casing.key entry.1 ≠ casing.key name) →
    (ofList casing entries).find? name = none ∧ (ofList casing entries).get? name = none ∧
      (ofList casing entries).contains name = false
  /-- An insertion gives back what the table found for its name before, which is the entry that came
  last until then. -/
  displaces : ∀ earlier entry later, entries = earlier ++ entry :: later →
    ((empty casing).displaced entries)[earlier.length]? =
        some ((ofList casing earlier).find? entry.1) ∧
      ∀ old, (ofList casing earlier).find? entry.1 = some old ↔
        casing.LastEntry earlier entry.1 old
  /-- What is listed are the entries that came last for their names. -/
  lists : ∀ entry, entry ∈ (ofList casing entries).toList ↔
    casing.LastEntry entries entry.1 entry
  /-- No key is listed twice. -/
  once : ((ofList casing entries).toList.map fun entry => casing.key entry.1).Nodup
  /-- The keys are listed in the order in which they first came up. -/
  ordered : (ofList casing entries).toList.Pairwise fun first second =>
    (entries.map fun entry => casing.key entry.1).idxOf (casing.key first.1) <
      (entries.map fun entry => casing.key entry.1).idxOf (casing.key second.1)
  /-- Names and values are those of the list, in its order. -/
  names : (ofList casing entries).names = (ofList casing entries).toList.map Prod.fst
  values : (ofList casing entries).values = (ofList casing entries).toList.map Prod.snd
  /-- Every insertion counts, either as an entry or as one that was displaced. -/
  counted : (ofList casing entries).size +
    ((empty casing).displaced entries).countP Option.isSome = entries.length

/-- A table recalls the last entry for every key, whichever names count as the same. -/
theorem recalls (casing : Casing) (entries : List (String × α)) : Recalls casing entries where
  finds := find?_ofList_eq_some_iff casing entries
  gets := get?_ofList_eq_some_iff casing entries
  contains name := by
    unfold contains
    rw [Option.isSome_iff_exists]
    exact exists_congr fun entry => find?_ofList_eq_some_iff casing entries name entry
  misses name absent := by
    have missing := (find?_ofList_eq_none_iff casing entries name).mpr absent
    unfold get? contains
    rw [missing]
    exact ⟨rfl, rfl, rfl⟩
  displaces earlier entry later split := by
    subst split
    exact ⟨getElem?_displaced (empty casing) earlier later entry,
      find?_ofList_eq_some_iff casing earlier entry.1⟩
  lists entry := by
    rw [mem_toList_iff, find?_ofList_eq_some_iff]
  once := by
    have distinct := nodup_keys (ofList casing entries)
    rw [casing_ofList] at distinct
    exact distinct
  ordered := pairwise_toList_ofList casing entries
  names := rfl
  values := rfl
  counted := by
    have counted := size_insertAll (empty casing) entries
    rw [show (empty casing : NameTable α).size = 0 from rfl, Nat.zero_add] at counted
    exact counted

end NameTable

end Metamodel
