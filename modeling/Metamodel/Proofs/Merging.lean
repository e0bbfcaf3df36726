/-
Tables laid over tables.

An item that comes into a table under a known key may replace the item with that key, or it may be
joined with it, as capabilities are that are enabled for a type in several places. A whole table is
laid over another one by letting its items come in one after the other. If joining is associative,
it does not matter whether an item comes into the upper table before the tables are laid over each
other or into the result: neither for what is found under a key nor for the order in which the keys
are listed.
-/

import Metamodel.Proofs.Tables

namespace Metamodel

namespace Keyed

variable {α κ : Type} {key : α → κ}

/-- What becomes of an item that comes in, given the item with its key that is there already. -/
structure Join (key : α → κ) where
  join : Option α → α → α
  key_join : ∀ present item, key (join present item) = key item
  /-- Nothing is added to an item that comes in first. -/
  join_none : ∀ present item, join present (join none item) = join present item
  assoc : ∀ present earlier item, key earlier = key item →
    join present (join (some earlier) item) = join (some (join present earlier)) item

/-- The item that comes in takes the place of the one that is there. -/
def Join.replace : Join key where
  join _ item := item
  key_join _ _ := rfl
  join_none _ _ := rfl
  assoc _ _ _ _ := rfl

/-- Values under the same key are combined. -/
def Join.combine {β : Type} (operation : β → β → β) (unit : β)
    (unit_left : ∀ value, operation unit value = value)
    (assoc : ∀ first second third,
      operation first (operation second third) = operation (operation first second) third) :
    Join (Prod.fst : κ × β → κ) where
  join present item := (item.1, operation ((present.map Prod.snd).getD unit) item.2)
  key_join _ _ := rfl
  join_none _ item := by
    simp only [Option.map_none, Option.getD_none, unit_left]
  assoc _ _ _ _ := by
    simp only [Option.map_some, Option.getD_some, assoc]

variable [DecidableEq κ]

def insertWith (join : Join key) (table : Keyed key) (item : α) : Keyed key :=
  table.insert (join.join (table.find? (key item)) item)

/-- The first table with the items of the second one laid over it. -/
def merge (join : Join key) (table other : Keyed key) : Keyed key :=
  other.items.foldl (insertWith join) table

/-! ### Insertions one after the other -/

theorem insertItem_of_mem {item : α} {items : List α} (present : key item ∈ items.map key) :
    insertItem key item items =
      items.map fun other => if key other = key item then item else other := by
  obtain ⟨other, member, same⟩ := List.mem_map.mp present
  exact if_pos (List.any_eq_true.mpr ⟨other, member, decide_eq_true same⟩)

theorem insertItem_of_not_mem {item : α} {items : List α} (absent : key item ∉ items.map key) :
    insertItem key item items = items ++ [item] := by
  refine if_neg fun found => absent ?_
  obtain ⟨other, member, same⟩ := List.any_eq_true.mp found
  exact List.mem_map.mpr ⟨other, member, of_decide_eq_true same⟩

theorem mem_keys_insertItem (item : α) (items : List α) (wanted : κ) :
    wanted ∈ (insertItem key item items).map key ↔ wanted ∈ items.map key ∨ wanted = key item := by
  rw [keys_insertItem]
  split
  · next present =>
    exact ⟨Or.inl, fun known => known.elim id fun same => same ▸ present⟩
  · rw [List.mem_append, List.mem_singleton]

/-- Where no item carries a key, there is none to replace. -/
theorem map_replace_of_not_mem {item : α} {items : List α} (absent : key item ∉ items.map key) :
    (items.map fun other => if key other = key item then item else other) = items := by
  refine (List.map_congr_left fun other member => if_neg fun same => absent ?_).trans
    (List.map_id _)
  exact List.mem_map.mpr ⟨other, member, same⟩

theorem insertItem_cons_of_ne {head item : α} (rest : List α) (different : key head ≠ key item) :
    insertItem key item (head :: rest) = head :: insertItem key item rest := by
  by_cases present : key item ∈ rest.map key
  · rw [insertItem_of_mem present, insertItem_of_mem (List.mem_cons_of_mem _ present),
      List.map_cons, if_neg different]
  · have absent : key item ∉ (head :: rest).map key := by
      rw [List.map_cons, List.mem_cons, not_or]
      exact ⟨fun same => different same.symm, present⟩
    rw [insertItem_of_not_mem present, insertItem_of_not_mem absent, List.cons_append]

theorem insert_insert (table : Keyed key) {first second : α} (same : key first = key second) :
    (table.insert first).insert second = table.insert second := by
  refine ext ?_
  show insertItem key second (insertItem key first table.items) = insertItem key second table.items
  rw [insertItem_of_mem ((mem_keys_insertItem first _ _).mpr (Or.inr same.symm))]
  by_cases present : key second ∈ table.items.map key
  · rw [insertItem_of_mem present, insertItem_of_mem (same ▸ present), List.map_map]
    refine List.map_congr_left fun other _ => ?_
    by_cases equal : key other = key second <;> simp [same, equal]
  · rw [insertItem_of_not_mem present, insertItem_of_not_mem (same ▸ present), List.map_append,
      map_replace_of_not_mem present, List.map_singleton, if_pos same]

/-- An item that takes a place which is there does not mind what comes in elsewhere before. -/
theorem insert_comm (table : Keyed key) {first second : α} (different : key second ≠ key first)
    (present : key first ∈ table.items.map key) :
    (table.insert first).insert second = (table.insert second).insert first := by
  refine ext ?_
  show insertItem key second (insertItem key first table.items) =
    insertItem key first (insertItem key second table.items)
  rw [insertItem_of_mem ((mem_keys_insertItem second _ _).mpr (Or.inl present))]
  by_cases known : key second ∈ table.items.map key
  · rw [insertItem_of_mem ((mem_keys_insertItem first _ _).mpr (Or.inl known)),
      insertItem_of_mem present, insertItem_of_mem known, List.map_map, List.map_map]
    refine List.map_congr_left fun other _ => ?_
    by_cases isFirst : key other = key first
    · simp [isFirst, different.symm]
    · by_cases isSecond : key other = key second <;> simp [isFirst, isSecond, different]
  · have absent : key second ∉ (insertItem key first table.items).map key := fun found =>
      ((mem_keys_insertItem first _ _).mp found).elim known different
    rw [insertItem_of_not_mem absent, insertItem_of_not_mem known, insertItem_of_mem present,
      List.map_append, List.map_singleton, if_neg different]

/-- What comes in under different keys takes the places that are there and goes to the end where
there are none. -/
theorem items_insertAll_of_nodup (table : Keyed key) {items : List α}
    (distinct : (items.map key).Nodup) :
    (table.insertAll items).items =
      (table.items.map fun item => (items.find? fun other => key other = key item).getD item) ++
        items.filter fun item => key item ∉ table.items.map key := by
  induction items generalizing table with
  | nil =>
    rw [List.filter_nil, List.append_nil]
    exact (List.map_id table.items).symm
  | cons head rest inductionHypothesis =>
    rw [List.map_cons, List.nodup_cons] at distinct
    rw [insertAll_cons, inductionHypothesis _ distinct.2]
    have unreplaced : rest.find? (fun other => key other = key head) = none := by
      refine List.find?_eq_none.mpr fun other member same => distinct.1 ?_
      exact List.mem_map.mpr ⟨other, member, of_decide_eq_true same⟩
    show (insertItem key head table.items).map _ ++
      rest.filter (fun item => key item ∉ (insertItem key head table.items).map key) = _
    by_cases present : key head ∈ table.items.map key
    · rw [keys_insertItem, if_pos present, insertItem_of_mem present, List.map_map,
        List.filter_cons_of_neg (by simpa using present)]
      refine congrArg (· ++ _) (List.map_congr_left fun item _ => ?_)
      by_cases same : key item = key head
      · simp [same, unreplaced]
      · simp [same, Ne.symm same]
    · rw [keys_insertItem, if_neg present, insertItem_of_not_mem present, List.map_append,
        List.map_singleton, unreplaced, Option.getD_none,
        List.filter_cons_of_pos (by simpa using present), List.append_assoc,
        List.singleton_append]
      refine congrArg₂ (· ++ head :: ·) (List.map_congr_left fun item member => ?_)
        (List.filter_congr fun item member => ?_)
      · have different : key head ≠ key item := fun same =>
          present (same ▸ List.mem_map_of_mem member)
        simp [different]
      · have different : key item ≠ key head := fun same =>
          distinct.1 (same ▸ List.mem_map_of_mem member)
        simp [different]

/-! ### What is found after merging -/

variable (join : Join key)

theorem find?_insertWith_self (table : Keyed key) (item : α) :
    (table.insertWith join item).find? (key item) =
      some (join.join (table.find? (key item)) item) := by
  have found := find?_insert_self table (join.join (table.find? (key item)) item)
  rw [join.key_join] at found
  exact found

theorem find?_insertWith_other (table : Keyed key) {item : α} {wanted : κ}
    (other : wanted ≠ key item) :
    (table.insertWith join item).find? wanted = table.find? wanted :=
  find?_insert_other table _ (by rw [join.key_join]; exact other)

theorem find?_foldl_insertWith_other (table : Keyed key) {items : List α} {wanted : κ}
    (absent : wanted ∉ items.map key) :
    (items.foldl (insertWith join) table).find? wanted = table.find? wanted := by
  induction items generalizing table with
  | nil => rfl
  | cons head rest inductionHypothesis =>
    rw [List.map_cons, List.mem_cons, not_or] at absent
    rw [List.foldl_cons, inductionHypothesis _ absent.2, find?_insertWith_other join _ absent.1]

/-- Under a key the items of both tables are found, joined. -/
theorem find?_merge (table other : Keyed key) (wanted : κ) :
    (table.merge join other).find? wanted =
      ((other.find? wanted).map (join.join (table.find? wanted))).or (table.find? wanted) := by
  obtain ⟨items, distinct⟩ := other
  show (items.foldl (insertWith join) table).find? wanted =
    ((items.find? fun item => key item = wanted).map _).or _
  induction items generalizing table with
  | nil => rfl
  | cons head rest inductionHypothesis =>
    rw [List.map_cons, List.nodup_cons] at distinct
    rw [List.foldl_cons]
    by_cases same : key head = wanted
    · obtain rfl := same
      rw [find?_foldl_insertWith_other join _ distinct.1, find?_insertWith_self,
        List.find?_cons_of_pos (by simp), Option.map_some, Option.some_or]
    · rw [inductionHypothesis _ distinct.2, List.find?_cons_of_neg (by simpa using same),
        find?_insertWith_other join _ fun equal => same equal.symm]

/-! ### One more item -/

/-- Two items with the same key come in one after the other or joined. -/
theorem insertWith_insertWith (table : Keyed key) {head item : α} (same : key head = key item) :
    (table.insertWith join head).insertWith join item =
      table.insertWith join (join.join (some head) item) := by
  have found := find?_insertWith_self join table head
  rw [same] at found
  show Keyed.insert _ (join.join (Keyed.find? _ (key item)) item) = _
  rw [found]
  unfold insertWith
  rw [join.key_join, join.assoc _ _ _ same, same]
  refine insert_insert table ?_
  rw [join.key_join, join.key_join, same]

/-- An item for which there is a place does not mind what comes in elsewhere before. -/
theorem foldl_insertWith_comm (table : Keyed key) {items : List α} {item : α}
    (present : key item ∈ table.items.map key) (absent : key item ∉ items.map key) :
    items.foldl (insertWith join) (table.insertWith join item) =
      (items.foldl (insertWith join) table).insertWith join item := by
  induction items generalizing table with
  | nil => rfl
  | cons head rest inductionHypothesis =>
    rw [List.map_cons, List.mem_cons, not_or] at absent
    have passes : (table.insertWith join item).insertWith join head =
        (table.insertWith join head).insertWith join item := by
      have headFound := find?_insertWith_other join table fun same => absent.1 same.symm
      have itemFound := find?_insertWith_other join table absent.1
      show Keyed.insert _ (join.join (Keyed.find? _ _) head) =
        Keyed.insert _ (join.join (Keyed.find? _ _) item)
      rw [headFound, itemFound]
      refine insert_comm table ?_ ?_ <;> rw [join.key_join]
      · rw [join.key_join]
        exact fun same => absent.1 same.symm
      · exact present
    rw [List.foldl_cons, List.foldl_cons, passes, inductionHypothesis _ _ absent.2]
    exact (mem_keys_insertItem _ _ _).mpr (Or.inl present)

/-- An item may come into the upper table first or into the merged one afterwards. -/
theorem merge_insertWith (table other : Keyed key) (item : α) :
    table.merge join (other.insertWith join item) =
      (table.merge join other).insertWith join item := by
  obtain ⟨items, distinct⟩ := other
  show (insertItem key (join.join (items.find? fun other => key other = key item) item) items).foldl
      (insertWith join) table = (items.foldl (insertWith join) table).insertWith join item
  induction items generalizing table with
  | nil =>
    show table.insertWith join (join.join none item) = table.insertWith join item
    unfold insertWith
    rw [join.key_join, join.join_none]
  | cons head rest inductionHypothesis =>
    rw [List.map_cons, List.nodup_cons] at distinct
    by_cases same : key head = key item
    · -- The item is joined with the head, and the rest of the table has nothing to do with it.
      have foreign : key item ∉ rest.map key := same ▸ distinct.1
      rw [List.find?_cons_of_pos (by simpa using same), insertItem_of_mem (by
        rw [join.key_join, List.map_cons, same]
        exact List.mem_cons_self), List.map_cons, if_pos (by rw [join.key_join, same]),
        map_replace_of_not_mem (by rw [join.key_join]; exact foreign), List.foldl_cons,
        List.foldl_cons, ← insertWith_insertWith join table same]
      refine foldl_insertWith_comm join _ ((mem_keys_insertItem _ _ _).mpr (Or.inr ?_)) foreign
      rw [join.key_join, same]
    · rw [List.find?_cons_of_neg (by simpa using same),
        insertItem_cons_of_ne _ (by rw [join.key_join]; exact same), List.foldl_cons,
        List.foldl_cons]
      exact inductionHypothesis _ distinct.2

theorem insertAll_insertAll (table other : Keyed key) (items : List α) :
    table.insertAll (other.insertAll items).items =
      (table.insertAll other.items).insertAll items := by
  induction items generalizing other with
  | nil => rfl
  | cons head rest inductionHypothesis =>
    rw [insertAll_cons, inductionHypothesis, insertAll_cons]
    exact congrArg (insertAll · rest) (merge_insertWith .replace table other head)

end Keyed

namespace Table

variable {κ α : Type} [DecidableEq κ]

/-- Under a key of merged tables there is what both of them have there, combined. -/
theorem getD_merge_combine {operation : α → α → α} {unit : α}
    {unit_left : ∀ value, operation unit value = value}
    {assoc : ∀ first second third,
      operation first (operation second third) = operation (operation first second) third}
    (unit_right : ∀ value, operation value unit = value) (table other : Table κ α) (wanted : κ) :
    (Table.get? (table.merge (.combine operation unit unit_left assoc) other) wanted).getD unit =
      operation ((table.get? wanted).getD unit) ((other.get? wanted).getD unit) := by
  unfold get?
  rw [Keyed.find?_merge]
  cases other.find? wanted with
  | none => exact (unit_right _).symm
  | some entry => rfl

end Table

end Metamodel
