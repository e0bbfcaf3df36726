/-
Named arguments and positional ones.

The arguments of a function are of one kind, and this is decided when the function is declared. A
function that is declared clause by clause is refused at the first argument that is not of the kind
of the first one, and nothing looks at the arguments again when it is put into the draft. A function
that is given whole is looked through. A refusal leaves the draft as it was, so it does not matter
how many declarations were refused before. Functions keep their arguments when they are built and
when another model is laid over theirs.
-/

import Metamodel.Proofs.Extending

namespace Metamodel

/-! ### Arguments of one kind -/

namespace ArgumentDecl

/-- Some are named and some are positional. -/
def Mixed (arguments : List ArgumentDecl) : Prop :=
  (∃ argument ∈ arguments, argument.isPositional = true) ∧
    ∃ argument ∈ arguments, argument.isPositional = false

/-- All are positional, or none is. -/
def OneKind (arguments : List ArgumentDecl) : Prop :=
  ∃ positional, ∀ argument ∈ arguments, argument.isPositional = positional

theorem not_mixed_iff (arguments : List ArgumentDecl) : ¬ Mixed arguments ↔ OneKind arguments := by
  constructor
  · intro apart
    by_cases positional : ∃ argument ∈ arguments, argument.isPositional = true
    · exact ⟨true, fun argument member =>
        eq_true_of_ne_false fun named => apart ⟨positional, argument, member, named⟩⟩
    · exact ⟨false, fun argument member =>
        eq_false_of_ne_true fun kind => positional ⟨argument, member, kind⟩⟩
  · rintro ⟨kind, all⟩ ⟨⟨first, firstMember, positional⟩, second, secondMember, named⟩
    have same := (all first firstMember).trans (all second secondMember).symm
    rw [positional, named] at same
    cases same

theorem Mixed.append {arguments : List ArgumentDecl} (mixed : Mixed arguments)
    (more : List ArgumentDecl) : Mixed (arguments ++ more) :=
  mixed.imp (fun ⟨argument, member, kind⟩ => ⟨argument, List.mem_append_left _ member, kind⟩)
    fun ⟨argument, member, kind⟩ => ⟨argument, List.mem_append_left _ member, kind⟩

end ArgumentDecl

open ArgumentDecl

/-! ### Functions in the making -/

namespace FunctionDecl

/-- Arguments that are all of the kind of the first one are of one kind. -/
theorem isUniform_iff (decl : FunctionDecl) :
    decl.isUniform = true ↔ OneKind decl.arguments := by
  unfold isUniform isPositional?
  cases decl.arguments with
  | nil => simp [OneKind]
  | cons first rest =>
    simp only [List.head?_cons, Option.map_some, Option.some.injEq, List.all_eq_true,
      decide_eq_true_eq]
    exact ⟨fun all => ⟨_, all⟩, fun ⟨kind, all⟩ argument member =>
      (all argument member).trans (all first List.mem_cons_self).symm⟩

/-- To compare an argument with the first one is to compare it with all. -/
theorem all_isPositional?_iff {decl : FunctionDecl} (before : OneKind decl.arguments)
    (argument : ArgumentDecl) :
    decl.isPositional?.all (fun positional => positional = argument.isPositional) = true ↔
      OneKind (decl.arguments ++ [argument]) := by
  unfold isPositional?
  cases given : decl.arguments with
  | nil => simp [OneKind]
  | cons first rest =>
    obtain ⟨kind, all⟩ := given ▸ before
    simp only [List.head?_cons, Option.map_some, Option.all_some, decide_eq_true_eq]
    constructor
    · intro same
      refine ⟨kind, fun other member => ?_⟩
      rcases List.mem_append.mp member with listed | last
      · exact all other listed
      · rw [List.mem_singleton.mp last, ← same]
        exact all first List.mem_cons_self
    · intro ⟨_, both⟩
      exact (both first (by simp)).trans (both argument (by simp)).symm

end FunctionDecl

/-- The argument that a clause adds, if it adds one. -/
def FunctionClause.argument? : FunctionClause → Option ArgumentDecl
  | .argument decl => some decl
  | _ => none

namespace FunctionDecl

variable {decl : FunctionDecl}

/-- A clause adds its argument, unless the arguments are mixed then. -/
theorem add_cases (before : OneKind decl.arguments) (clause : FunctionClause) :
    (OneKind (decl.arguments ++ clause.argument?.toList) ∧
        ∃ next, decl.add clause = .ok next ∧ next.name = decl.name ∧
          next.arguments = decl.arguments ++ clause.argument?.toList) ∨
      Mixed (decl.arguments ++ clause.argument?.toList) ∧
        decl.add clause = .error (.mixedArguments decl.name) := by
  cases clause with
  | argument argument =>
    by_cases oneKind : OneKind (decl.arguments ++ [argument])
    · exact Or.inl ⟨oneKind, _, if_pos ((all_isPositional?_iff before argument).mpr oneKind), rfl,
        rfl⟩
    · refine Or.inr ⟨not_not.mp (mt (not_mixed_iff _).mp oneKind), if_neg ?_⟩
      exact mt (all_isPositional?_iff before argument).mp oneKind
  | minimum | count | variadic | result | collectionResult | volatility | metadata =>
    have same : decl.arguments ++ [] = decl.arguments := List.append_nil _
    exact Or.inl ⟨same.symm ▸ before, _, rfl, rfl, same.symm⟩

/-- The arguments of all clauses are added in their order, unless they are mixed. -/
theorem addAll_cases (before : OneKind decl.arguments) (clauses : List FunctionClause) :
    (OneKind (decl.arguments ++ clauses.filterMap FunctionClause.argument?) ∧
        ∃ made, decl.addAll clauses = .ok made ∧ made.name = decl.name ∧
          made.arguments = decl.arguments ++ clauses.filterMap FunctionClause.argument?) ∨
      Mixed (decl.arguments ++ clauses.filterMap FunctionClause.argument?) ∧
        decl.addAll clauses = .error (.mixedArguments decl.name) := by
  induction clauses generalizing decl with
  | nil =>
    have same : decl.arguments ++ [] = decl.arguments := List.append_nil _
    exact Or.inl ⟨same.symm ▸ before, decl, rfl, rfl, same.symm⟩
  | cons head rest inductionHypothesis =>
    have all : decl.arguments ++ (head :: rest).filterMap FunctionClause.argument? =
        decl.arguments ++ head.argument?.toList ++
          rest.filterMap FunctionClause.argument? := by
      rw [List.append_assoc, List.filterMap_cons]
      cases head.argument? <;> rfl
    have unfolded : decl.addAll (head :: rest) = decl.add head >>= (·.addAll rest) := rfl
    rw [all, unfolded]
    -- Where a clause is refused the arguments are mixed already, and no later clause undoes that.
    rcases add_cases before head with ⟨oneKind, next, added, name, arguments⟩ | ⟨mixed, refused⟩
    · rw [added, ← name, ← arguments]
      exact inductionHypothesis (arguments ▸ oneKind)
    · rw [refused]
      exact Or.inr ⟨mixed.append _, rfl⟩

end FunctionDecl

/-! ### Declarations -/

/-- The name and the arguments of the function that a declaration would declare, if it is one of a
function. -/
def Declaration.signature? : Declaration → Option (String × List ArgumentDecl)
  | .function name clauses => some (name, clauses.filterMap FunctionClause.argument?)
  | .wholeFunction decl => some (decl.name, decl.arguments)
  | _ => none

namespace Draft

/-- The draft after a declaration was made to it, whether it was taken or refused. -/
def attempt (draft : Draft) (declaration : Declaration) : Draft :=
  match draft.declare declaration with
  | .ok next => next
  | .error _ => draft

variable {draft : Draft} {declaration : Declaration} {function : String}
  {arguments : List ArgumentDecl}

theorem declare_of_mixed (draft : Draft)
    (declares : declaration.signature? = some (function, arguments))
    (mixed : Mixed arguments) :
    draft.declare declaration = .error (.mixedArguments function) := by
  cases declaration with
  | function name clauses =>
    cases declares
    have empty : OneKind ({ name := function } : FunctionDecl).arguments := ⟨true, by simp⟩
    rcases FunctionDecl.addAll_cases empty clauses with ⟨oneKind, -⟩ | ⟨-, refused⟩
    · exact absurd mixed ((not_mixed_iff _).mpr oneKind)
    · show draft.declareFunction function clauses = _
      unfold declareFunction
      rw [refused]
      rfl
  | wholeFunction decl =>
    cases declares
    exact if_neg fun uniform => (not_mixed_iff _).mpr (decl.isUniform_iff.mp uniform) mixed
  | type | extension | bareType | functionCasing | operators | predicates | rule | functionRule
  | literals | serializer => cases declares

theorem declare_of_oneKind (draft : Draft)
    (declares : declaration.signature? = some (function, arguments))
    (oneKind : OneKind arguments) :
    ∃ decl : FunctionDecl, decl.name = function ∧ decl.arguments = arguments ∧
      draft.declare declaration = .ok (draft.putFunction decl) := by
  cases declaration with
  | function name clauses =>
    cases declares
    have empty : OneKind ({ name := function } : FunctionDecl).arguments := ⟨true, by simp⟩
    rcases FunctionDecl.addAll_cases empty clauses with
      ⟨-, decl, made, name, arguments⟩ | ⟨mixed, -⟩
    · exact ⟨decl, name, arguments, declareFunction_eq_ok_iff.mpr ⟨decl, made, rfl⟩⟩
    · exact absurd mixed ((not_mixed_iff _).mpr oneKind)
  | wholeFunction decl =>
    cases declares
    exact ⟨decl, rfl, rfl, if_pos (decl.isUniform_iff.mpr oneKind)⟩
  | type | extension | bareType | functionCasing | operators | predicates | rule | functionRule
  | literals | serializer => cases declares

/-- A declaration that says nothing of a function leaves the functions alone. -/
theorem functions_of_no_signature {next : Draft} (silent : declaration.signature? = none)
    (accepted : draft.declare declaration = .ok next) :
    next.base = draft.base ∧ next.functions = draft.functions := by
  cases declaration with
  | extension name source clauses =>
    obtain ⟨entity, -, rfl⟩ := declareExtension_eq_ok_iff.mp accepted
    exact ⟨rfl, rfl⟩
  | rule registration =>
    obtain ⟨target, capability, rule⟩ := registration
    cases capability <;> cases accepted <;> exact ⟨rfl, rfl⟩
  | type | bareType | functionCasing | operators | predicates | functionRule | literals
  | serializer =>
    cases accepted
    exact ⟨rfl, rfl⟩
  | function | wholeFunction => cases silent

/-- If such a declaration is refused, then not for its arguments. -/
theorem declare_ne_mixed (silent : declaration.signature? = none) :
    draft.declare declaration ≠ .error (.mixedArguments function) := by
  cases declaration with
  | extension name source clauses =>
    intro refused
    change draft.declareExtension name source clauses = _ at refused
    unfold declareExtension at refused
    cases found : draft.entitySource source with
    | ok entity =>
      rw [found] at refused
      cases refused
    | error error =>
      rw [found] at refused
      cases Except.error.inj refused
      cases entitySource_eq_error found
  | rule registration =>
    obtain ⟨target, capability, rule⟩ := registration
    cases capability <;> exact nofun
  | type | bareType | functionCasing | operators | predicates | functionRule | literals
  | serializer => exact nofun
  | function | wholeFunction => cases silent

/-- A declaration is refused for mixed arguments exactly if that is what it has. -/
theorem declare_eq_mixed_iff :
    draft.declare declaration = .error (.mixedArguments function) ↔
      ∃ arguments, declaration.signature? = some (function, arguments) ∧ Mixed arguments := by
  constructor
  · intro refused
    cases declares : declaration.signature? with
    | none => exact absurd refused (declare_ne_mixed declares)
    | some signature =>
      obtain ⟨name, arguments⟩ := signature
      by_cases mixed : Mixed arguments
      · have same := (draft.declare_of_mixed declares mixed).symm.trans refused
        cases same
        exact ⟨arguments, rfl, mixed⟩
      · obtain ⟨decl, -, -, accepted⟩ :=
          draft.declare_of_oneKind declares ((not_mixed_iff _).mp mixed)
        rw [accepted] at refused
        cases refused
  · intro ⟨arguments, declares, mixed⟩
    exact draft.declare_of_mixed declares mixed

/-! ### Attempts -/

theorem attempt_of_ok {next : Draft} (accepted : draft.declare declaration = .ok next) :
    draft.attempt declaration = next := by
  unfold attempt
  rw [accepted]

theorem attempt_of_error {error : DeclarationError}
    (refused : draft.declare declaration = .error error) : draft.attempt declaration = draft := by
  unfold attempt
  rw [refused]

/-- Whatever is attempted, what is put among the functions has arguments of one kind. -/
theorem functions_attempt (draft : Draft) (declaration : Declaration) :
    (draft.attempt declaration).base = draft.base ∧
      ((draft.attempt declaration).functions = draft.functions ∨
        ∃ decl, OneKind decl.arguments ∧
          (draft.attempt declaration).functions = draft.functions.insert decl) := by
  cases declares : declaration.signature? with
  | none =>
    cases outcome : draft.declare declaration with
    | ok next =>
      rw [attempt_of_ok outcome]
      exact (functions_of_no_signature declares outcome).imp_right Or.inl
    | error error =>
      rw [attempt_of_error outcome]
      exact ⟨rfl, Or.inl rfl⟩
  | some signature =>
    obtain ⟨function, arguments⟩ := signature
    by_cases mixed : Mixed arguments
    · rw [attempt_of_error (draft.declare_of_mixed declares mixed)]
      exact ⟨rfl, Or.inl rfl⟩
    · have oneKind := (not_mixed_iff arguments).mp mixed
      obtain ⟨decl, -, rfl, accepted⟩ := draft.declare_of_oneKind declares oneKind
      rw [attempt_of_ok accepted]
      exact ⟨rfl, Or.inr ⟨decl, oneKind, rfl⟩⟩

end Draft

/-! ### Functions that are built -/

/-- The arguments have names or have none, and each has its place in the list as its index. -/
structure FunctionInfo.Ordered (function : FunctionInfo) : Prop where
  oneKind : ∃ positional, ∀ argument ∈ function.arguments, argument.name.isNone = positional
  index : ∀ place (argument : ArgumentInfo), function.arguments[place]? = some argument →
    argument.index = place

namespace Draft

theorem ordered_sealFunction (draft : Draft) {decl : FunctionDecl}
    (oneKind : OneKind decl.arguments) : (draft.sealFunction decl).Ordered where
  oneKind := by
    obtain ⟨positional, all⟩ := oneKind
    refine ⟨positional, fun argument member => ?_⟩
    obtain ⟨declared, listed, rfl⟩ := List.mem_map.mp member
    exact all declared.1 (List.fst_mem_of_mem_zipIdx listed)
  index := by
    intro place argument there
    change (decl.arguments.zipIdx.map _)[place]? = some argument at there
    rw [List.getElem?_map, List.getElem?_zipIdx, Nat.zero_add, Option.map_map] at there
    obtain ⟨declared, -, rfl⟩ := Option.map_eq_some_iff.mp there
    rfl

/-- The drafts that calls lead to: new ones, on their own or on a model that was built of such a
draft, and what they become when declarations are attempted. -/
inductive Reached : Draft → Prop
  | standalone : Reached standalone
  | extending {below : Draft} {model : Model} (reached : Reached below)
      (built : below.build = .ok model) : Reached (extending model)
  | attempt {draft : Draft} (reached : Reached draft) (declaration : Declaration) :
      Reached (draft.attempt declaration)

theorem Reached.attempts {draft : Draft} (reached : draft.Reached)
    (declarations : List Declaration) : (declarations.foldl Draft.attempt draft).Reached := by
  induction declarations generalizing draft with
  | nil => exact reached
  | cons head rest inductionHypothesis => exact inductionHypothesis (reached.attempt head)

/-- A draft in which no function has arguments of both kinds. -/
structure SeparatesKinds (draft : Draft) : Prop where
  declared : ∀ decl ∈ draft.functions.items, OneKind decl.arguments
  /-- What is refused for its arguments is what has arguments of both kinds. -/
  refused_iff : ∀ declaration function,
    draft.declare declaration = .error (.mixedArguments function) ↔
      ∃ arguments, declaration.signature? = some (function, arguments) ∧ Mixed arguments
  /-- A refusal changes nothing. -/
  refused : ∀ declaration function arguments,
    declaration.signature? = some (function, arguments) → Mixed arguments →
      draft.attempt declaration = draft
  /-- Any other function is taken with the arguments it was given. -/
  taken : ∀ declaration function arguments,
    declaration.signature? = some (function, arguments) → OneKind arguments →
      ∃ decl : FunctionDecl, decl.name = function ∧ decl.arguments = arguments ∧
        draft.attempt declaration = draft.putFunction decl
  built : ∀ model, draft.build = .ok model → ∀ function ∈ model.functions.values, function.Ordered

variable {draft : Draft}

/-- Declared functions have arguments of one kind, and so have those of the model below. -/
theorem Reached.invariant (reached : draft.Reached) :
    (∀ decl ∈ draft.functions.items, OneKind decl.arguments) ∧
      ∀ function ∈ draft.ground.functions.values, function.Ordered := by
  -- Both halves are needed at once: what is declared below is what is inherited above.
  induction reached with
  | standalone =>
    exact ⟨fun _ member => absurd member List.not_mem_nil,
      fun _ member => absurd member List.not_mem_nil⟩
  | @extending below model reached built inductionHypothesis =>
    obtain ⟨own, inherited⟩ := inductionHypothesis
    refine ⟨fun _ member => absurd member List.not_mem_nil, fun function member => ?_⟩
    obtain ⟨-, rfl⟩ := faults_of_build built
    rcases mem_sealedFunctions member with old | ⟨decl, listed, rfl⟩
    · exact inherited function old
    · exact below.ordered_sealFunction (own decl listed)
  | @attempt draft reached declaration inductionHypothesis =>
    obtain ⟨own, inherited⟩ := inductionHypothesis
    obtain ⟨base, same | ⟨decl, oneKind, inserted⟩⟩ := draft.functions_attempt declaration
    · unfold ground
      rw [base, same]
      exact ⟨own, inherited⟩
    · unfold ground
      rw [base, inserted]
      refine ⟨fun other member => ?_, inherited⟩
      have known : other ∈ draft.functions.items ∨ other ∈ [decl] := Keyed.mem_insertAll member
      rcases known with old | new
      · exact own other old
      · rw [List.mem_singleton.mp new]
        exact oneKind

/-- Whatever is attempted with drafts and however they are laid over each other, no function ever
has arguments of both kinds. A declaration of such a function is refused and changes nothing. -/
theorem Reached.separatesKinds (reached : draft.Reached) : draft.SeparatesKinds where
  declared := reached.invariant.1
  refused_iff _ _ := declare_eq_mixed_iff
  refused _ _ _ declares mixed := attempt_of_error (draft.declare_of_mixed declares mixed)
  taken _ _ _ declares oneKind := by
    obtain ⟨decl, name, arguments, accepted⟩ := draft.declare_of_oneKind declares oneKind
    exact ⟨decl, name, arguments, attempt_of_ok accepted⟩
  built model built function member := by
    obtain ⟨own, inherited⟩ := reached.invariant
    obtain ⟨-, rfl⟩ := faults_of_build built
    rcases mem_sealedFunctions member with old | ⟨decl, listed, rfl⟩
    · exact inherited function old
    · exact draft.ordered_sealFunction (own decl listed)

/-! ### Sums with named terms and products with positional factors -/

/-- A sum of two named terms, which is declared again with a term that has no name. -/
def sums : Draft :=
  [Declaration.bareType { name := "Integer" },
    .function "sum" [.argument { name := some "left", type := some (.named "Integer") },
      .argument { name := some "right" }],
    .wholeFunction { name := "sum", arguments := [{ name := some "left" }, {}] }].foldl
      attempt standalone

theorem build_sums : sums.build = .ok sums.assemble := build_of_faults (by decide)

/-- A product of two factors without names, which is declared again with one that has a name. -/
def products : Draft :=
  [Declaration.wholeFunction { name := "product", arguments := [{}, {}] },
    .function "product" [.argument {}, .argument { name := some "factor" }]].foldl
      attempt (extending sums.assemble)

theorem reached_products : products.Reached :=
  have below : sums.Reached := Reached.standalone.attempts _
  (below.extending build_sums).attempts _

/-- The terms have kept their names, and the factors have none. -/
theorem separatesKinds_products :
    products.Reached ∧ products.SeparatesKinds ∧
      products.build = .ok products.assemble ∧
        (products.assemble.functions.values.map fun function =>
            function.arguments.map fun argument => (argument.name, argument.index)) =
          [[(some "left", 0), (some "right", 1)], [(none, 0), (none, 1)]] :=
  ⟨reached_products, Reached.separatesKinds reached_products, build_of_faults (by decide),
    by decide⟩

end Draft

end Metamodel
