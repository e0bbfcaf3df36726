/-
Lists of findings that leave nothing out and repeat nothing.

A check walks over what it checks and lists what it finds. To say that the list is right is to say
where things can be wrong and what is to be said there, and then that the list has one finding for
each place at which something is wrong, in the order of the places. Such lists can be put together
as the walks are: one after the other, item by item, and with the findings put into other words.

The walk that looks for clashing names is the one that is not made of others. It finds an item
together with the latest one before it that has the same key.
-/

import Metamodel.Proofs.Tables
import Mathlib.Data.List.Forall2

namespace Metamodel

/-- The findings are one for each place at which something is wrong, in the order of the places. -/
def Reports {Place Finding : Type} (before : Place → Place → Prop)
    (wrong : Place → Finding → Prop) (findings : List Finding) : Prop :=
  ∃ places : List Place, places.Pairwise before ∧ List.Forall₂ wrong places findings ∧
    ∀ place finding, wrong place finding → place ∈ places

namespace Reports

variable {Place Finding : Type} {before : Place → Place → Prop}
  {wrong : Place → Finding → Prop} {findings : List Finding}

/-- Nothing is found exactly if nothing is wrong. -/
theorem eq_nil_iff (reports : Reports before wrong findings) :
    findings = [] ↔ ∀ place finding, ¬ wrong place finding := by
  obtain ⟨places, -, paired, complete⟩ := reports
  constructor
  · rintro rfl place finding isWrong
    have member := complete place finding isWrong
    rw [List.forall₂_nil_right_iff.mp paired] at member
    exact List.not_mem_nil member
  · intro fine
    cases paired with
    | nil => rfl
    | cons head rest => exact absurd head (fine _ _)

theorem congr {other : Place → Finding → Prop} (reports : Reports before wrong findings)
    (same : ∀ place finding, wrong place finding ↔ other place finding) :
    Reports before other findings := by
  have equal : wrong = other := funext fun place => funext fun finding =>
    propext (same place finding)
  exact equal ▸ reports

theorem nil (fine : ∀ place finding, ¬ wrong place finding) : Reports before wrong [] :=
  ⟨[], List.Pairwise.nil, List.Forall₂.nil, fun place finding isWrong =>
    absurd isWrong (fine place finding)⟩

/-- A place at which one thing can be wrong. -/
theorem option (place : Place) {found : Option Finding}
    (exact : ∀ other finding, wrong other finding ↔ other = place ∧ found = some finding) :
    Reports before wrong found.toList := by
  cases found with
  | none =>
    exact nil fun other finding isWrong => absurd ((exact other finding).mp isWrong).2 (by simp)
  | some finding =>
    refine ⟨[place], List.pairwise_singleton _ _, ?_, ?_⟩
    · exact .cons ((exact place finding).mpr ⟨rfl, rfl⟩) .nil
    · intro other next isWrong
      exact List.mem_singleton.mpr ((exact other next).mp isWrong).1

theorem append {other : Place → Finding → Prop} {rest : List Finding}
    (reports : Reports before wrong findings) (next : Reports before other rest)
    (ordered : ∀ first second finding later, wrong first finding → other second later →
      before first second) :
    Reports before (fun place finding => wrong place finding ∨ other place finding)
      (findings ++ rest) := by
  obtain ⟨places, sorted, paired, complete⟩ := reports
  obtain ⟨more, moreSorted, morePaired, moreComplete⟩ := next
  have wrongOf : ∀ place ∈ places, ∃ finding, wrong place finding := by
    intro place member
    obtain ⟨index, bound, rfl⟩ := List.getElem_of_mem member
    exact ⟨_, paired.get bound (paired.length_eq ▸ bound)⟩
  have otherOf : ∀ place ∈ more, ∃ finding, other place finding := by
    intro place member
    obtain ⟨index, bound, rfl⟩ := List.getElem_of_mem member
    exact ⟨_, morePaired.get bound (morePaired.length_eq ▸ bound)⟩
  refine ⟨places ++ more, ?_, ?_, ?_⟩
  · refine List.pairwise_append.mpr ⟨sorted, moreSorted, fun first firstIn second secondIn => ?_⟩
    obtain ⟨finding, isWrong⟩ := wrongOf first firstIn
    obtain ⟨later, isOther⟩ := otherOf second secondIn
    exact ordered first second finding later isWrong isOther
  · exact List.rel_append (paired.imp fun _ _ => Or.inl) (morePaired.imp fun _ _ => Or.inr)
  · rintro place finding (isWrong | isOther)
    · exact List.mem_append_left _ (complete place finding isWrong)
    · exact List.mem_append_right _ (moreComplete place finding isOther)

/-- A walk over items, with what can be wrong about each of them. -/
theorem flatMap {α : Type} {items : List α} {find : α → List Finding}
    (wrong : Nat → Place → Finding → Prop)
    (each : ∀ index item, items[index]? = some item → Reports before (wrong index) (find item))
    (inside : ∀ index place finding, wrong index place finding → index < items.length)
    (ordered : ∀ first second place other finding later, first < second →
      wrong first place finding → wrong second other later → before place other) :
    Reports before (fun place finding => ∃ index, wrong index place finding)
      (items.flatMap find) := by
  induction items generalizing wrong with
  | nil => exact nil fun place finding ⟨index, isWrong⟩ => absurd (inside _ _ _ isWrong) (by simp)
  | cons head rest inductionHypothesis =>
    have first := each 0 head rfl
    have others := inductionHypothesis (fun index => wrong (index + 1))
      (fun index item there => each (index + 1) item there)
      (fun index place finding isWrong => Nat.lt_of_succ_lt_succ (inside _ _ _ isWrong))
      (fun first second place other finding later less =>
        ordered _ _ _ _ _ _ (Nat.succ_lt_succ less))
    rw [List.flatMap_cons]
    refine (first.append others ?_).congr ?_
    · rintro place other finding later isWrong ⟨index, isOther⟩
      exact ordered 0 (index + 1) _ _ _ _ (Nat.succ_pos index) isWrong isOther
    · intro place finding
      constructor
      · intro reason
        rcases reason with isWrong | ⟨index, isWrong⟩
        · exact ⟨0, isWrong⟩
        · exact ⟨index + 1, isWrong⟩
      · intro reason
        obtain ⟨index, isWrong⟩ := reason
        cases index with
        | zero => exact Or.inl isWrong
        | succ index => exact Or.inr ⟨index, isWrong⟩

/-- A walk over items about each of which one thing can be wrong. -/
theorem filterMap {α : Type} (items : List α) (find : α → Option Finding) (place : Nat → Place)
    (ordered : ∀ first second, first < second → before (place first) (place second)) :
    Reports before (fun other finding => ∃ index item, items[index]? = some item ∧
        other = place index ∧ find item = some finding)
      (items.filterMap find) := by
  rw [List.filterMap_eq_flatMap_toList]
  refine flatMap (fun index other finding => ∃ item, items[index]? = some item ∧
    other = place index ∧ find item = some finding) ?_ ?_ ?_
  · intro index item there
    refine option (place index) fun other finding => ?_
    rw [there]
    simp only [Option.some.injEq, exists_eq_left']
  · rintro index other finding ⟨item, there, -⟩
    exact (List.getElem?_eq_some_iff.mp there).1
  · rintro first second other next finding later less ⟨-, -, rfl, -⟩ ⟨-, -, rfl, -⟩
    exact ordered first second less

/-- The same findings in other words, at places under other names. -/
theorem reword {Other Wording : Type} {after : Other → Other → Prop}
    (reports : Reports before wrong findings) (place : Place → Other)
    (say : Finding → Option Wording)
    (ordered : ∀ first second, before first second → after (place first) (place second))
    (said : ∀ here finding, wrong here finding → ∃ words, say finding = some words) :
    Reports after (fun other words => ∃ here finding, wrong here finding ∧ other = place here ∧
        say finding = some words)
      (findings.filterMap say) := by
  obtain ⟨places, sorted, paired, complete⟩ := reports
  refine ⟨places.map place, sorted.map place ordered, ?_, ?_⟩
  · clear complete sorted
    induction paired with
    | nil => exact .nil
    | @cons here finding rest others isWrong paired inductionHypothesis =>
      obtain ⟨words, saying⟩ := said here finding isWrong
      rw [List.filterMap_cons_some saying, List.map_cons]
      exact .cons ⟨here, finding, isWrong, rfl, saying⟩ inductionHypothesis
  · rintro other words ⟨here, finding, isWrong, rfl, -⟩
    exact List.mem_map_of_mem (complete here finding isWrong)

end Reports

/-! ### Clashes -/

namespace Keyed

variable {α κ : Type} [DecidableEq κ] {key : α → Option κ}

/-- At a place in a list stands the second item of the pair, and the first one is the latest before
it that has the same key. -/
def Clash (key : α → Option κ) (items : List α) (place : Nat) (pair : α × α) : Prop :=
  items[place]? = some pair.2 ∧ (key pair.2).isSome ∧
    ∃ earlier < place, items[earlier]? = some pair.1 ∧ key pair.1 = key pair.2 ∧
      ∀ between other, earlier < between → between < place → items[between]? = some other →
        key other ≠ key pair.2

/-- Looking back from the end of a list finds the latest item. -/
theorem find?_iff_latest (earlier : List α) (wanted : α → Bool) (found : α) :
    earlier.find? wanted = some found ↔
      wanted found = true ∧ ∃ place < earlier.length, earlier.reverse[place]? = some found ∧
        ∀ between other, place < between → between < earlier.length →
          earlier.reverse[between]? = some other → wanted other = false := by
  rw [List.find?_eq_some_iff_getElem]
  refine and_congr_right fun _ => ?_
  constructor
  · intro reason
    obtain ⟨index, bound, rfl, latest⟩ := reason
    refine ⟨earlier.length - 1 - index, by omega, ?_, fun between other after inside there => ?_⟩
    · rw [List.getElem?_reverse (by omega), List.getElem?_eq_getElem (by omega)]
      congr 2
      omega
    · rw [List.getElem?_reverse inside, List.getElem?_eq_getElem (by omega)] at there
      have unwanted := latest (earlier.length - 1 - between) (by omega)
      rw [Option.some.inj there] at unwanted
      simpa using unwanted
  · intro reason
    obtain ⟨place, bound, there, latest⟩ := reason
    rw [List.getElem?_reverse bound] at there
    obtain ⟨inside, rfl⟩ := List.getElem?_eq_some_iff.mp there
    refine ⟨_, inside, rfl, fun index less => ?_⟩
    have unwanted := latest (earlier.length - 1 - index) earlier[index] (by omega) (by omega) (by
      rw [List.getElem?_reverse (by omega), List.getElem?_eq_getElem (by omega)]
      congr 2
      omega)
    simpa using unwanted

/-- The item that comes next, and the latest one before it with its key. -/
theorem clash_iff_find? (earlier rest : List α) (item : α) (pair : α × α) :
    Clash key (earlier.reverse ++ item :: rest) earlier.length pair ↔
      pair.2 = item ∧
        earlier.find? (fun other => (key other).isSome ∧ key other = key item) = some pair.1 := by
  have next : (earlier.reverse ++ item :: rest)[earlier.length]? = some item := by
    rw [List.getElem?_append_right (by simp)]
    simp
  have before : ∀ place < earlier.length,
      (earlier.reverse ++ item :: rest)[place]? = earlier.reverse[place]? := fun place bound =>
    List.getElem?_append_left (by simpa using bound)
  unfold Clash
  rw [next, Option.some.injEq, find?_iff_latest, eq_comm]
  refine and_congr_right fun same => ?_
  rw [same]
  constructor
  · intro reason
    obtain ⟨known, place, bound, there, equal, latest⟩ := reason
    refine ⟨by simp [equal, known], place, bound, (before place bound).symm.trans there, ?_⟩
    intro between other after inside otherThere
    have different := latest between other after inside ((before between inside).trans otherThere)
    simp [different]
  · intro reason
    obtain ⟨wanted, place, bound, there, latest⟩ := reason
    simp only [Bool.decide_and, Bool.decide_eq_true, Bool.and_eq_true, decide_eq_true_eq] at wanted
    have known : (key item).isSome = true := wanted.2 ▸ wanted.1
    refine ⟨known, place, bound, (before place bound).trans there, wanted.2, ?_⟩
    intro between other after inside otherThere equal
    have unwanted := latest between other after inside
      ((before between inside).symm.trans otherThere)
    simp [equal, known] at unwanted

theorem reports_clashesAfter (earlier items : List α) :
    Reports (fun first second : Nat => first < second)
      (fun offset pair => Clash key (earlier.reverse ++ items) (earlier.length + offset) pair)
      (clashesAfter key earlier items) := by
  induction items generalizing earlier with
  | nil =>
    refine .nil fun offset pair clash => ?_
    have bound := (List.getElem?_eq_some_iff.mp clash.1).1
    simp only [List.append_nil, List.length_reverse] at bound
    omega
  | cons item rest inductionHypothesis =>
    -- What was passed stands in reverse, so places count from the end of it.
    have first : Reports (fun first second : Nat => first < second)
        (fun offset pair => offset = 0 ∧ (earlier.find? (fun other =>
          (key other).isSome ∧ key other = key item)).map (·, item) = some pair)
        ((earlier.find? (fun other =>
          (key other).isSome ∧ key other = key item)).map (·, item)).toList :=
      .option 0 fun offset pair => Iff.rfl
    have others := (inductionHypothesis (item :: earlier)).reword Nat.succ some
      (fun _ _ => Nat.succ_lt_succ) (fun _ pair _ => ⟨pair, rfl⟩)
    rw [List.filterMap_some] at others
    refine (first.append others ?_).congr ?_
    · rintro _ _ pair other ⟨rfl, -⟩ ⟨offset, -, -, rfl, -⟩
      exact Nat.succ_pos offset
    · intro offset pair
      have shifted : (item :: earlier).reverse ++ rest = earlier.reverse ++ item :: rest := by
        rw [List.reverse_cons, List.append_assoc, List.singleton_append]
      cases offset with
      | zero =>
        rw [Nat.add_zero, clash_iff_find?]
        constructor
        · intro reason
          rcases reason with ⟨-, found⟩ | ⟨offset, -, -, absurdity, -⟩
          · obtain ⟨other, there, rfl⟩ := Option.map_eq_some_iff.mp found
            exact ⟨rfl, there⟩
          · exact absurd absurdity (Nat.succ_ne_zero offset).symm
        · intro reason
          obtain ⟨same, there⟩ := reason
          refine Or.inl ⟨rfl, Option.map_eq_some_iff.mpr ⟨pair.1, there, ?_⟩⟩
          rw [← same]
      | succ offset =>
        rw [shifted]
        have place : (item :: earlier).length + offset = earlier.length + (offset + 1) := by
          rw [List.length_cons]
          omega
        constructor
        · intro reason
          rcases reason with ⟨absurdity, -⟩ | ⟨index, other, clash, equal, said⟩
          · exact absurd absurdity (Nat.succ_ne_zero offset)
          · obtain rfl := Nat.succ.inj equal
            rw [← place, ← Option.some.inj said]
            exact clash
        · intro clash
          exact Or.inr ⟨offset, pair, place ▸ clash, rfl, rfl⟩

theorem reports_clashes (items : List α) :
    Reports (fun first second : Nat => first < second) (Clash key items) (clashes key items) := by
  refine (reports_clashesAfter [] items).congr fun offset pair => ?_
  rw [List.length_nil, Nat.zero_add]
  rfl

theorem clashesAfter_eq_nil_iff (earlier items : List α) :
    clashesAfter key earlier items = [] ↔
      (items.filterMap key).Nodup ∧
        ∀ item ∈ items, (key item).isSome → ∀ other ∈ earlier, key other ≠ key item := by
  induction items generalizing earlier with
  | nil => simp [clashesAfter]
  | cons item rest inductionHypothesis =>
    have fresh : ((earlier.find? (fun other => (key other).isSome ∧ key other = key item)).map
        (·, item)).toList = [] ↔
          ((key item).isSome → ∀ other ∈ earlier, key other ≠ key item) := by
      rw [Option.toList_eq_nil_iff, Option.map_eq_none_iff, List.find?_eq_none]
      simp only [Bool.decide_and, Bool.decide_eq_true, Bool.and_eq_true, decide_eq_true_eq, not_and]
      constructor
      · intro unequal known other member same
        exact unequal other member (same ▸ known) same
      · intro unequal other member known same
        exact unequal (same ▸ known) other member same
    rw [clashesAfter, List.append_eq_nil_iff, fresh, inductionHypothesis]
    cases known : key item with
    | none =>
      rw [List.filterMap_cons_none known]
      simp only [known, Option.isSome_none, Bool.false_eq_true, false_implies, true_and,
        List.mem_cons, forall_eq_or_imp]
      refine and_congr_right fun _ => forall₂_congr fun other member => ?_
      refine forall_congr' fun knownOther => and_iff_right fun same => ?_
      rw [← same] at knownOther
      cases knownOther
    | some value =>
      rw [List.filterMap_cons_some known, List.nodup_cons, List.mem_filterMap]
      simp only [known, Option.isSome_some, forall_const, List.mem_cons, forall_eq_or_imp]
      constructor
      · intro reason
        obtain ⟨old, distinct, new⟩ := reason
        refine ⟨⟨?_, distinct⟩, old, fun other member knownOther => (new other member knownOther).2⟩
        intro reason
        obtain ⟨other, member, same⟩ := reason
        exact (new other member (by simp [same])).1 same.symm
      · intro reason
        obtain ⟨⟨unused, distinct⟩, old, new⟩ := reason
        refine ⟨old, distinct, fun other member knownOther => ⟨?_, new other member knownOther⟩⟩
        intro same
        exact unused ⟨other, member, same.symm⟩

/-- There are no clashes exactly if the items that have keys have different ones. -/
theorem clashes_eq_nil_iff (items : List α) :
    clashes key items = [] ↔ (items.filterMap key).Nodup := by
  unfold clashes
  rw [clashesAfter_eq_nil_iff]
  simp

end Keyed

theorem Casing.nameClashes_eq_nil_iff (casing : Casing) (names : List String) :
    casing.nameClashes names = [] ↔ (names.map casing.key).Nodup := by
  unfold Casing.nameClashes
  rw [Keyed.clashes_eq_nil_iff]
  rw [congrFun List.filterMap_eq_map' names]

end Metamodel
