/-
What a table holds after any number of insertions.

A single insertion is described beside the tables themselves. Models are made by long runs of them:
the declarations of a draft go over the tables of the model below, one after the other. The last
item inserted under a key is the one that the key finds, and where none was inserted the table below
answers. When the items of a run have different keys, which of them came last does not matter, and a
table filled from nothing lists them as they were given.
-/

import Metamodel.Name
import Mathlib.Data.List.Induction
import Mathlib.Data.List.Nodup

namespace Metamodel

namespace Keyed

variable {α κ : Type} {key : α → κ}

/-! ### The items of a table -/

/-- A key has one place in a table. -/
theorem place_unique (table : Keyed key) {first second : Nat} {item other : α}
    (atFirst : table.items[first]? = some item) (atSecond : table.items[second]? = some other)
    (same : key item = key other) : first = second := by
  have bound : first < (table.items.map key).length := by
    rw [List.length_map]
    exact (List.getElem?_eq_some_iff.mp atFirst).1
  refine (List.getElem?_inj bound table.distinct).mp ?_
  rw [List.getElem?_map, List.getElem?_map, atFirst, atSecond, Option.map_some, Option.map_some,
    same]

/-- A key has one item in a table. -/
theorem item_unique (table : Keyed key) {item other : α} (member : item ∈ table.items)
    (otherMember : other ∈ table.items) (same : key item = key other) : item = other :=
  List.inj_on_of_nodup_map table.distinct member otherMember same

variable [DecidableEq κ]

theorem find?_eq_some_iff (table : Keyed key) {wanted : κ} {item : α} :
    table.find? wanted = some item ↔ item ∈ table.items ∧ key item = wanted := by
  constructor
  · intro found
    exact ⟨mem_of_find? found, key_of_find? found⟩
  · intro reason
    obtain ⟨member, carries⟩ := reason
    cases found : table.find? wanted with
    | none =>
      have absent := List.find?_eq_none.mp found item member
      simp only [carries, decide_true, not_true_eq_false] at absent
    | some other =>
      rw [table.item_unique (mem_of_find? found) member ((key_of_find? found).trans carries.symm)]

theorem index?_eq_some_iff (table : Keyed key) {wanted : κ} {place : Nat} :
    table.index? wanted = some place ↔
      ∃ item, table.items[place]? = some item ∧ key item = wanted := by
  unfold index?
  rw [List.findIdx?_eq_some_iff_getElem]
  constructor
  · intro reason
    obtain ⟨bound, carries, -⟩ := reason
    exact ⟨table.items[place], List.getElem?_eq_getElem bound, by simpa using carries⟩
  · intro reason
    obtain ⟨item, there, carries⟩ := reason
    obtain ⟨bound, rfl⟩ := List.getElem?_eq_some_iff.mp there
    refine ⟨bound, by simpa using carries, fun earlier before found => ?_⟩
    have carriesToo : key table.items[earlier] = wanted := by simpa using found
    have collide := table.place_unique (List.getElem?_eq_getElem (Nat.lt_trans before bound))
      there (carriesToo.trans carries.symm)
    omega

theorem index?_eq_none_iff (table : Keyed key) {wanted : κ} :
    table.index? wanted = none ↔ ∀ item ∈ table.items, key item ≠ wanted := by
  unfold index?
  rw [List.findIdx?_eq_none_iff]
  simp only [decide_eq_false_iff_not, ne_eq]

/-! ### Runs of insertions -/

theorem insertAll_cons (table : Keyed key) (head : α) (rest : List α) :
    table.insertAll (head :: rest) = (table.insert head).insertAll rest := rfl

/-- The last item inserted under a key is found, and else what was there before. -/
theorem find?_insertAll (table : Keyed key) (items : List α) (wanted : κ) :
    (table.insertAll items).find? wanted =
      (items.reverse.find? (fun item => key item = wanted)).or (table.find? wanted) := by
  induction items generalizing table with
  | nil => rfl
  | cons head rest inductionHypothesis =>
    rw [insertAll_cons, inductionHypothesis, List.reverse_cons, List.find?_append, Option.or_assoc]
    congr 1
    by_cases same : key head = wanted
    · rw [← same, find?_insert_self]
      simp
    · rw [find?_insert_other table head (fun equal => same equal.symm)]
      simp [same]

/-- Whatever is in a table after a run of insertions was there before or inserted. -/
theorem mem_insertAll {table : Keyed key} {items : List α} {item : α}
    (member : item ∈ (table.insertAll items).items) : item ∈ table.items ∨ item ∈ items := by
  have found : (table.insertAll items).find? (key item) = some item :=
    (find?_eq_some_iff _).mpr ⟨member, rfl⟩
  rw [find?_insertAll] at found
  cases last : items.reverse.find? (fun other => key other = key item) with
  | none =>
    rw [last, Option.none_or] at found
    exact Or.inl (mem_of_find? found)
  | some other =>
    rw [last, Option.some_or] at found
    rw [← Option.some.inj found]
    exact Or.inr (List.mem_reverse.mp (List.mem_of_find?_eq_some last))

/-- A key that no item of a run carries finds what it found before. -/
theorem find?_insertAll_of_absent (table : Keyed key) {items : List α} {wanted : κ}
    (absent : ∀ item ∈ items, key item ≠ wanted) :
    (table.insertAll items).find? wanted = table.find? wanted := by
  have missing : items.reverse.find? (fun item => key item = wanted) = none := by
    rw [List.find?_eq_none]
    intro item member
    simpa using absent item (List.mem_reverse.mp member)
  rw [find?_insertAll, missing, Option.none_or]

/-- An item of a run of insertions under different keys is what its key finds. -/
theorem find?_insertAll_of_mem (table : Keyed key) {items : List α}
    (distinct : (items.map key).Nodup) {item : α} (member : item ∈ items) :
    (table.insertAll items).find? (key item) = some item := by
  rw [find?_insertAll]
  cases last : items.reverse.find? (fun other => key other = key item) with
  | none =>
    have unequal := List.find?_eq_none.mp last item (List.mem_reverse.mpr member)
    simp only [decide_true, not_true_eq_false] at unequal
  | some other =>
    have otherMember : other ∈ items := List.mem_reverse.mp (List.mem_of_find?_eq_some last)
    have same : key other = key item := by simpa using List.find?_some last
    rw [Option.some_or, List.inj_on_of_nodup_map distinct otherMember member same]

/-- Items with new keys go to the end, in their order. -/
theorem items_insertAll (table : Keyed key) {items : List α}
    (distinct : ((table.items ++ items).map key).Nodup) :
    (table.insertAll items).items = table.items ++ items := by
  induction items generalizing table with
  | nil => rw [List.append_nil]; rfl
  | cons head rest inductionHypothesis =>
    have appended : (table.insert head).items = table.items ++ [head] := by
      show insertItem key head table.items = _
      unfold insertItem
      rw [if_neg]
      intro found
      obtain ⟨other, member, same⟩ := List.any_eq_true.mp found
      rw [List.map_append, List.nodup_append] at distinct
      exact distinct.2.2 (key other) (List.mem_map_of_mem member) (key head) (by simp)
        (by simpa using same)
    rw [insertAll_cons, inductionHypothesis, appended, List.append_assoc, List.singleton_append]
    rw [appended, List.append_assoc, List.singleton_append]
    exact distinct

/-- A table filled with items of different keys lists them as they were given. -/
theorem items_ofList {items : List α} (distinct : (items.map key).Nodup) :
    (ofList items : Keyed key).items = items :=
  items_insertAll empty distinct

/-- If keys differ, it does not matter from which end one looks for them. -/
theorem find?_reverse {items : List α} (distinct : (items.map key).Nodup) (wanted : κ) :
    items.reverse.find? (fun item => key item = wanted) =
      items.find? fun item => key item = wanted := by
  have found := find?_insertAll (empty : Keyed key) items wanted
  rw [show (empty : Keyed key).find? wanted = none from rfl, Option.or_none] at found
  rw [← found]
  show (ofList items : Keyed key).items.find? _ = _
  rw [items_ofList distinct]

/-- A table filled from nothing has every key once, where it first came up. -/
theorem keys_ofList (items : List α) :
    (ofList items : Keyed key).items.map key = (items.map key).eraseDups := by
  induction items using List.reverseRecOn with
  | nil => rfl
  | append_singleton items last inductionHypothesis =>
    have inserted : (ofList (items ++ [last]) : Keyed key) = (ofList items).insert last := by
      unfold ofList insertAll
      rw [List.foldl_append]
      rfl
    rw [inserted]
    show (insertItem key last (ofList items : Keyed key).items).map key = _
    rw [keys_insertItem, inductionHypothesis, List.map_append, List.map_singleton,
      List.eraseDups_append]
    unfold List.removeAll
    rw [List.filter_singleton]
    by_cases known : key last ∈ items.map key
    · rw [if_pos (List.mem_eraseDups.mpr known), List.elem_eq_true_of_mem known]
      exact (List.append_nil _).symm
    · rw [if_neg (mt List.mem_eraseDups.mp known),
        Bool.eq_false_iff.mpr (mt List.mem_of_elem_eq_true known)]
      rfl

/-- The last item whose key has a property is the one under the last such key. -/
theorem find?_reverse_items (table : Keyed key) (wanted : κ → Bool) :
    table.items.reverse.find? (fun item => wanted (key item)) =
      ((table.items.map key).reverse.find? wanted).bind table.find? := by
  rw [← List.map_reverse, List.find?_map]
  show _ = ((table.items.reverse.find? fun item => wanted (key item)).map key).bind _
  cases last : table.items.reverse.find? fun item => wanted (key item) with
  | none => rfl
  | some item =>
    have member := List.mem_reverse.mp (List.mem_of_find?_eq_some last)
    exact (table.find?_eq_some_iff.mpr ⟨member, rfl⟩).symm

end Keyed

/-! ### Pairs -/

namespace Table

variable {κ α : Type} [DecidableEq κ]

theorem get?_eq_some_iff (table : Table κ α) {wanted : κ} {value : α} :
    table.get? wanted = some value ↔ (wanted, value) ∈ table.items := by
  unfold get?
  rw [Option.map_eq_some_iff]
  constructor
  · intro reason
    obtain ⟨⟨key, other⟩, found, rfl⟩ := reason
    have carries : key = wanted := Keyed.key_of_find? found
    exact carries ▸ Keyed.mem_of_find? found
  · intro member
    exact ⟨(wanted, value), (Keyed.find?_eq_some_iff table).mpr ⟨member, rfl⟩, rfl⟩

theorem get?_of_mem_keys (table : Table κ α) {key : κ} (member : key ∈ table.keys) :
    ∃ value, table.get? key = some value := by
  obtain ⟨⟨_, value⟩, listed, rfl⟩ := List.mem_map.mp member
  exact ⟨value, (get?_eq_some_iff table).mpr listed⟩

theorem get?_of_mem_values (table : Table κ α) {value : α} (member : value ∈ table.values) :
    ∃ key, table.get? key = some value := by
  obtain ⟨⟨key, _⟩, listed, rfl⟩ := List.mem_map.mp member
  exact ⟨key, (get?_eq_some_iff table).mpr listed⟩

/-- A key to which a run of insertions gives no value keeps the one it had. -/
theorem get?_insertAll_of_absent (table : Table κ α) {entries : List (κ × α)} {wanted : κ}
    (absent : ∀ entry ∈ entries, entry.1 ≠ wanted) :
    Table.get? (Keyed.insertAll table entries) wanted = table.get? wanted := by
  unfold get?
  rw [Keyed.find?_insertAll_of_absent table absent]

/-- A run of insertions under different keys gives a key the value it lists for it. -/
theorem get?_insertAll_of_mem (table : Table κ α) {entries : List (κ × α)}
    (distinct : (entries.map Prod.fst).Nodup) {wanted : κ} {value : α}
    (member : (wanted, value) ∈ entries) :
    Table.get? (Keyed.insertAll table entries) wanted = some value := by
  unfold get?
  rw [show wanted = Prod.fst (wanted, value) from rfl,
    Keyed.find?_insertAll_of_mem table distinct member]
  rfl

end Table

/-! ### Members -/

namespace Members

variable {α : Type} {name : α → String} {members : Members name}

/-- Where every member is kept under its own name, no two have the same name. -/
theorem KeepsNames.nodup (keeps : members.KeepsNames) : members.names.Nodup := by
  have keys : members.names = members.table.items.map Prod.fst := by
    unfold names items Table.values
    rw [List.map_map]
    exact (List.map_congr_left keeps).symm
  rw [keys]
  exact members.table.distinct

/-- Where members are kept under their own names, the members are all there is to know. -/
theorem KeepsNames.eq_of_items_eq {other : Members name} (keeps : members.KeepsNames)
    (otherKeeps : other.KeepsNames) (same : members.items = other.items) : members = other := by
  have entries {members : Members name} (keeps : members.KeepsNames) :
      members.table.items = members.items.map fun member => (name member, member) := by
    unfold items Table.values
    rw [List.map_map]
    refine (List.map_id _).symm.trans (List.map_congr_left fun entry listed => ?_)
    exact Prod.ext (keeps entry listed) rfl
  refine congrArg Members.mk (Keyed.ext ?_)
  rw [entries keeps, entries otherKeeps, same]

theorem table_insertAll (members : Members name) (list : List α) :
    (members.insertAll list).table =
      members.table.insertAll (list.map fun member => (name member, member)) := by
  induction list generalizing members with
  | nil => rfl
  | cons head rest inductionHypothesis => exact inductionHypothesis (members.insert head)

theorem KeepsNames.insertAll (keeps : members.KeepsNames) (list : List α) :
    (members.insertAll list).KeepsNames := by
  intro entry listed
  rw [table_insertAll] at listed
  rcases Keyed.mem_insertAll listed with before | inserted
  · exact keeps entry before
  · obtain ⟨member, -, rfl⟩ := List.mem_map.mp inserted
    rfl

theorem keepsNames_ofList (list : List α) : (ofList list : Members name).KeepsNames :=
  KeepsNames.insertAll (fun _ listed => absurd listed List.not_mem_nil) list

/-- Members with different names are listed as they were given. -/
theorem items_ofList {list : List α} (distinct : (list.map name).Nodup) :
    (ofList list : Members name).items = list := by
  unfold items ofList Table.values
  rw [table_insertAll]
  show (Keyed.ofList _ : Keyed _).items.map Prod.snd = list
  rw [Keyed.items_ofList, List.map_map]
  · exact List.map_id _
  · rw [List.map_map]
    exact distinct

end Members

/-! ### Names -/

namespace NameTable

variable {α : Type}

theorem insertAll_eq (table : NameTable α) (entries : List (String × α)) :
    table.insertAll entries = ⟨table.casing, table.entries.insertAll entries⟩ := by
  unfold insertAll
  induction entries generalizing table with
  | nil => rfl
  | cons head rest inductionHypothesis =>
    rw [List.foldl_cons, inductionHypothesis]
    rfl

theorem ofList_eq (casing : Casing) (entries : List (String × α)) :
    ofList casing entries = ⟨casing, Keyed.ofList entries⟩ :=
  insertAll_eq (empty casing) entries

theorem find?_ofList (casing : Casing) (entries : List (String × α)) (name : String) :
    (ofList casing entries).find? name =
      entries.reverse.find? (fun entry => casing.key entry.1 = casing.key name) := by
  rw [ofList_eq]
  show (Keyed.ofList entries : Keyed _).find? (casing.key name) = _
  unfold Keyed.ofList
  rw [Keyed.find?_insertAll]
  exact Option.or_none

theorem contains_ofList (casing : Casing) (entries : List (String × α)) (name : String) :
    (ofList casing entries).contains name = true ↔
      ∃ entry ∈ entries, casing.key entry.1 = casing.key name := by
  unfold contains
  rw [find?_ofList, List.find?_isSome]
  simp only [List.mem_reverse, decide_eq_true_eq]

/-- A table of names that are all different lists them as they were given. -/
theorem toList_ofList {casing : Casing} {entries : List (String × α)}
    (distinct : (entries.map fun entry => casing.key entry.1).Nodup) :
    (ofList casing entries).toList = entries := by
  rw [ofList_eq]
  exact Keyed.items_ofList distinct

/-- The last entries find themselves, if they do not count as each other. -/
theorem get?_ofList_append {casing : Casing} {earlier later : List (String × α)}
    (distinct : (later.map fun entry => casing.key entry.1).Nodup) {entry : String × α}
    (member : entry ∈ later) : (ofList casing (earlier ++ later)).get? entry.1 = some entry.2 := by
  unfold get? find?
  rw [ofList_eq]
  show ((Keyed.insertAll Keyed.empty (earlier ++ later)).find? (casing.key entry.1)).map _ = _
  unfold Keyed.insertAll
  rw [List.foldl_append]
  exact congrArg (Option.map Prod.snd) (Keyed.find?_insertAll_of_mem _ distinct member)

theorem mem_of_mem_ofList {casing : Casing} {entries : List (String × α)} {entry : String × α}
    (member : entry ∈ (ofList casing entries).toList) : entry ∈ entries := by
  rw [ofList_eq] at member
  exact (Keyed.mem_insertAll member).resolve_left List.not_mem_nil

end NameTable

end Metamodel
