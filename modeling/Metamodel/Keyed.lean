/-
Tables in the order in which their keys first arrived.

Declarations, attributes, functions and rules are all kept this way: a second item under a known
key takes the place of the first one, it does not move to the end. What the key of an item is
differs from table to table (a declared name, a folded name, the first half of a pair), so the key
is a parameter, and that no two items share one is part of the type.
-/

namespace Metamodel

/-- Items in the order in which their keys first arrived, no two of them with the same key. -/
structure Keyed {α κ : Type} (key : α → κ) where
  items : List α
  distinct : (items.map key).Nodup

namespace Keyed

variable {α κ : Type} {key : α → κ}

def empty : Keyed key := ⟨[], List.Pairwise.nil⟩

instance : Inhabited (Keyed key) := ⟨empty⟩

/-- A table is the list of its items; that their keys differ adds nothing to compare. -/
theorem ext {first second : Keyed key} (same : first.items = second.items) : first = second := by
  cases first; cases second; cases same; rfl

def size (table : Keyed key) : Nat := table.items.length

def isEmpty (table : Keyed key) : Bool := table.items.isEmpty

variable [DecidableEq κ]

def find? (table : Keyed key) (wanted : κ) : Option α :=
  table.items.find? (fun item => key item = wanted)

def contains (table : Keyed key) (wanted : κ) : Bool := (table.find? wanted).isSome

/-- The place of a key, counted in order of first arrival. -/
def index? (table : Keyed key) (wanted : κ) : Option Nat :=
  table.items.findIdx? (fun item => key item = wanted)

/-! ### Inserting -/

/-- The items after an insertion: the newcomer takes the place of the item with its key, or goes to
the end when there is none. -/
def insertItem (key : α → κ) (item : α) (items : List α) : List α :=
  if items.any (fun other => key other = key item) then
    items.map (fun other => if key other = key item then item else other)
  else items ++ [item]

theorem keys_insertItem (item : α) (items : List α) :
    (insertItem key item items).map key =
      if key item ∈ items.map key then items.map key else items.map key ++ [key item] := by
  have known : items.any (fun other => key other = key item) = true ↔
      key item ∈ items.map key := by
    simp [List.any_eq_true, List.mem_map]
  unfold insertItem
  by_cases present : key item ∈ items.map key
  · rw [if_pos (known.mpr present), if_pos present, List.map_map]
    apply List.map_congr_left
    intro other _
    by_cases same : key other = key item <;> simp [same]
  · rw [if_neg (fun found => present (known.mp found)), if_neg present, List.map_append]
    rfl

theorem nodup_insertItem (item : α) {items : List α} (distinct : (items.map key).Nodup) :
    ((insertItem key item items).map key).Nodup := by
  rw [keys_insertItem]
  split
  · exact distinct
  · next absent =>
    refine List.nodup_append.mpr ⟨distinct, by simp, ?_⟩
    intro first inFront second atEnd same
    rw [List.mem_singleton] at atEnd
    exact absent (atEnd ▸ same ▸ inFront)

/-- Add an item, in the place of the one with the same key if there is one. -/
def insert (table : Keyed key) (item : α) : Keyed key where
  items := insertItem key item table.items
  distinct := nodup_insertItem item table.distinct

def insertAll (table : Keyed key) (items : List α) : Keyed key := items.foldl insert table

def ofList (items : List α) : Keyed key := empty.insertAll items

/-! ### Finding what was inserted -/

theorem find?_insertItem_self (item : α) (items : List α) :
    (insertItem key item items).find? (fun other => key other = key item) = some item := by
  unfold insertItem
  induction items with
  | nil => simp
  | cons head rest inductionHypothesis =>
    by_cases same : key head = key item
    · simp [same]
    · by_cases found : rest.any (fun other => key other = key item)
      · rw [if_pos found] at inductionHypothesis
        rw [if_pos (by simp only [List.any_cons, found, Bool.or_true])]
        simp only [List.map_cons, if_neg same]
        rw [List.find?_cons_of_neg (by simpa using same)]
        exact inductionHypothesis
      · rw [if_neg found] at inductionHypothesis
        rw [if_neg (by simpa [same] using found)]
        rw [List.cons_append, List.find?_cons_of_neg (by simpa using same)]
        exact inductionHypothesis

theorem find?_insertItem_other (item : α) (items : List α) {wanted : κ}
    (other : wanted ≠ key item) :
    (insertItem key item items).find? (fun next => key next = wanted) =
      items.find? (fun next => key next = wanted) := by
  have replaced : ∀ rest : List α,
      (rest.map (fun next => if key next = key item then item else next)).find?
          (fun next => key next = wanted) =
        rest.find? (fun next => key next = wanted) := by
    intro rest
    induction rest with
    | nil => rfl
    | cons head rest inductionHypothesis =>
      by_cases same : key head = key item
      · have headOther : ¬ key head = wanted := fun found => other (found ▸ same)
        have itemOther : ¬ key item = wanted := fun found => other found.symm
        simp [same, itemOther, inductionHypothesis]
      · simp [same, List.find?_cons, inductionHypothesis]
  unfold insertItem
  split
  · exact replaced items
  · have itemOther : ¬ key item = wanted := fun found => other found.symm
    simp [List.find?_append, itemOther]

/-- What was inserted last under a key is what the key finds. -/
theorem find?_insert_self (table : Keyed key) (item : α) :
    (table.insert item).find? (key item) = some item :=
  find?_insertItem_self item table.items

/-- An insertion leaves every other key alone. -/
theorem find?_insert_other (table : Keyed key) (item : α) {wanted : κ}
    (other : wanted ≠ key item) : (table.insert item).find? wanted = table.find? wanted :=
  find?_insertItem_other item table.items other

/-- What a key finds carries that key. -/
theorem key_of_find? {table : Keyed key} {wanted : κ} {item : α}
    (found : table.find? wanted = some item) : key item = wanted := by
  simpa using List.find?_some found

theorem mem_of_find? {table : Keyed key} {wanted : κ} {item : α}
    (found : table.find? wanted = some item) : item ∈ table.items :=
  List.mem_of_find?_eq_some found

/-! ### Clashes -/

/-- The pairs of an item and the latest one before it that has the same key, in the order of the
later items; `earlier` lists what came before, latest first. Items without a key clash with
nothing. -/
def clashesAfter (key : α → Option κ) (earlier : List α) : List α → List (α × α)
  | [] => []
  | item :: rest =>
    let found := earlier.find? (fun other => (key other).isSome ∧ key other = key item)
    (found.map (·, item)).toList ++ clashesAfter key (item :: earlier) rest

/-- The clashes among items, each given as the earlier and the later item. -/
def clashes (key : α → Option κ) (items : List α) : List (α × α) := clashesAfter key [] items

end Keyed

/-! ### Pairs -/

/-- A table from keys to values. -/
abbrev Table (κ α : Type) := Keyed (Prod.fst : κ × α → κ)

namespace Table

variable {κ α : Type}

def keys (table : Table κ α) : List κ := table.items.map Prod.fst

def values (table : Table κ α) : List α := table.items.map Prod.snd

variable [DecidableEq κ]

def get? (table : Table κ α) (key : κ) : Option α := (table.find? key).map Prod.snd

def set (table : Table κ α) (key : κ) (value : α) : Table κ α := table.insert (key, value)

theorem get?_set_self (table : Table κ α) (key : κ) (value : α) :
    (table.set key value).get? key = some value := by
  unfold get? set
  rw [show key = Prod.fst (key, value) from rfl, Keyed.find?_insert_self]
  rfl

theorem get?_set_other (table : Table κ α) {key wanted : κ} (value : α) (other : wanted ≠ key) :
    (table.set key value).get? wanted = table.get? wanted := by
  unfold get? set
  rw [Keyed.find?_insert_other table (key, value) other]

end Table

/-! ### Members -/

/-- Members of something, each with a name. Inserting keeps a member under its name, so that one that
is inserted again under the very same name is replaced; a table may still come with any other keys,
and then nothing keeps two members from having the same name. -/
structure Members {α : Type} (name : α → String) where
  table : Table String α

namespace Members

variable {α : Type} {name : α → String}

def empty : Members name := ⟨Keyed.empty⟩

instance : Inhabited (Members name) := ⟨empty⟩

/-- The members in order, whatever they are kept under. -/
def items (members : Members name) : List α := members.table.values

def size (members : Members name) : Nat := members.table.size

def find? (members : Members name) (key : String) : Option α := members.table.get? key

def insert (members : Members name) (member : α) : Members name :=
  ⟨members.table.set (name member) member⟩

def insertAll (members : Members name) (list : List α) : Members name := list.foldl insert members

def ofList (list : List α) : Members name := empty.insertAll list

/-- The names of the members, which need not differ. -/
def names (members : Members name) : List String := members.items.map name

/-- Every member is kept under its own name. -/
def KeepsNames (members : Members name) : Prop :=
  ∀ entry ∈ members.table.items, entry.1 = name entry.2

instance (members : Members name) : Decidable members.KeepsNames :=
  inferInstanceAs (Decidable (∀ entry ∈ members.table.items, entry.1 = name entry.2))

end Members

end Metamodel
