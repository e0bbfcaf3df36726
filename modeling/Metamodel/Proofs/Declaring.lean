/-
What is said to a draft, declaration by declaration.

All declarations but one kind leave what was declared before as it is and do not look at it, so they
may be said to a draft before it is laid over another one or afterwards, and in these words or in
others. The exception is an entity that begins as a copy of another one: what is copied depends on
where the other entity is found. What such a declaration says besides of names, tags and capabilities
does not depend on the copy.
-/

import Metamodel.Proofs.Rephrasing
import Metamodel.Proofs.Together

namespace Metamodel

/-- A declaration that does not look at what was declared before. -/
def Declaration.Plain : Declaration → Prop
  | .extension .. => False
  | _ => True

namespace Draft

/-- What comes of a draft to which declarations are made one after the other, unless one of them is
refused. -/
def declareAll (draft : Draft) (declarations : List Declaration) :
    Except DeclarationError Draft := declarations.foldlM declare draft

variable {draft : Draft}

theorem declareAll_cons (draft : Draft) (head : Declaration) (rest : List Declaration) :
    draft.declareAll (head :: rest) = (draft.declare head).bind (·.declareAll rest) :=
  List.foldlM_cons

theorem declareAll_cons_eq_ok_iff {declaration : Declaration} {rest : List Declaration}
    {last : Draft} :
    draft.declareAll (declaration :: rest) = .ok last ↔
      ∃ next, draft.declare declaration = .ok next ∧ next.declareAll rest = .ok last := by
  unfold declareAll
  rw [List.foldlM_cons]
  cases draft.declare declaration with
  | error error =>
    exact ⟨fun accepted => (nomatch accepted), fun ⟨_, accepted, _⟩ => (nomatch accepted)⟩
  | ok next =>
    refine ⟨fun accepted => ⟨next, rfl, accepted⟩, ?_⟩
    rintro ⟨_, ⟨⟩, accepted⟩
    exact accepted

theorem declareAll_append {earlier later : List Declaration} {middle : Draft}
    (accepted : draft.declareAll earlier = .ok middle) :
    draft.declareAll (earlier ++ later) = middle.declareAll later := by
  unfold declareAll at accepted ⊢
  rw [List.foldlM_append, accepted]
  rfl

/-- A draft to which nothing was said yet, of a model on its own or on top of another one. -/
def upon (base : Option Model) : Draft := base.elim standalone extending

theorem base_upon (base : Option Model) : (upon base).base = base := by
  cases base <;> rfl

/-- The draft that comes of declarations, which is empty if one of them is refused. -/
def said (result : Except DeclarationError Draft) : Draft := result.toOption.getD standalone

theorem eq_ok_said {result : Except DeclarationError Draft}
    (accepted : result.toOption.isSome = true) : result = .ok (said result) := by
  cases result with
  | ok draft => rfl
  | error error => cases accepted

/-! ### Accepted declarations -/

section Accepted

variable {name : String} {next : Draft}

theorem declareExtension_eq_ok_iff {source : String} {clauses : List TypeClause} :
    draft.declareExtension name source clauses = .ok next ↔
      ∃ entity, draft.entitySource source = .ok entity ∧
        next = draft.declareType ((TypeSketch.ofBody name (.entity entity)).addAll clauses) := by
  unfold declareExtension
  cases draft.entitySource source with
  | error error =>
    exact ⟨fun accepted => (nomatch accepted), fun ⟨_, found, _⟩ => (nomatch found)⟩
  | ok entity =>
    refine ⟨fun accepted => ⟨entity, rfl, (Except.ok.inj accepted).symm⟩, ?_⟩
    rintro ⟨_, ⟨⟩, rfl⟩
    rfl

theorem declareFunction_eq_ok_iff {clauses : List FunctionClause} :
    draft.declareFunction name clauses = .ok next ↔
      ∃ decl, ({ name } : FunctionDecl).addAll clauses = .ok decl ∧
        next = draft.putFunction decl := by
  unfold declareFunction
  cases ({ name } : FunctionDecl).addAll clauses with
  | error error =>
    exact ⟨fun accepted => (nomatch accepted), fun ⟨_, made, _⟩ => (nomatch made)⟩
  | ok decl =>
    refine ⟨fun accepted => ⟨decl, rfl, (Except.ok.inj accepted).symm⟩, ?_⟩
    rintro ⟨_, ⟨⟩, rfl⟩
    rfl

theorem registerFunction_eq_ok_iff {decl : FunctionDecl} :
    draft.registerFunction decl = .ok next ↔
      decl.isUniform = true ∧ next = draft.putFunction decl := by
  unfold registerFunction
  split
  · next uniform =>
    exact ⟨fun accepted => ⟨uniform, (Except.ok.inj accepted).symm⟩,
      fun ⟨_, same⟩ => congrArg Except.ok same.symm⟩
  · next mixed =>
    exact ⟨fun accepted => (nomatch accepted), fun accepted => absurd accepted.1 mixed⟩

end Accepted

/-! ### What stays -/

/-- A declaration leaves the model below alone and adds one type at most. -/
theorem declare_cases {declaration : Declaration} {next : Draft}
    (accepted : draft.declare declaration = .ok next) :
    next.base = draft.base ∧
      (next.types = draft.types ∨ ∃ decl, next.types = draft.types.insert decl) := by
  cases declaration with
  | type sketch =>
    cases accepted
    exact ⟨rfl, Or.inr ⟨sketch.decl, rfl⟩⟩
  | extension name source clauses =>
    obtain ⟨entity, -, rfl⟩ := declareExtension_eq_ok_iff.mp accepted
    exact ⟨rfl, Or.inr ⟨_, rfl⟩⟩
  | bareType decl =>
    cases accepted
    exact ⟨rfl, Or.inr ⟨decl, rfl⟩⟩
  | function name clauses =>
    obtain ⟨decl, -, rfl⟩ := declareFunction_eq_ok_iff.mp accepted
    exact ⟨rfl, Or.inl rfl⟩
  | wholeFunction decl =>
    obtain ⟨-, rfl⟩ := registerFunction_eq_ok_iff.mp accepted
    exact ⟨rfl, Or.inl rfl⟩
  | rule registration =>
    obtain ⟨target, capability, rule⟩ := registration
    cases capability <;> cases accepted <;> exact ⟨rfl, Or.inl rfl⟩
  | functionCasing | operators | predicates | functionRule | literals | serializer =>
    cases accepted
    exact ⟨rfl, Or.inl rfl⟩

theorem base_declareAll {declarations : List Declaration} {last : Draft}
    (accepted : draft.declareAll declarations = .ok last) : last.base = draft.base := by
  induction declarations generalizing draft with
  | nil =>
    cases accepted
    rfl
  | cons head rest inductionHypothesis =>
    obtain ⟨next, first, later⟩ := declareAll_cons_eq_ok_iff.mp accepted
    exact (inductionHypothesis later).trans (declare_cases first).1

/-- A name that is taken stays taken. -/
theorem owns_declareAll {declarations : List Declaration} {last : Draft}
    (accepted : draft.declareAll declarations = .ok last) {name : String}
    (own : draft.Owns (.named name)) : last.Owns (.named name) := by
  induction declarations generalizing draft with
  | nil =>
    cases accepted
    exact own
  | cons head rest inductionHypothesis =>
    obtain ⟨next, first, later⟩ := declareAll_cons_eq_ok_iff.mp accepted
    refine inductionHypothesis later ?_
    rcases (declare_cases first).2 with same | ⟨decl, same⟩
    · unfold Owns
      rw [same]
      exact own
    · obtain ⟨other, member, rfl⟩ := own
      have kept := (Keyed.mem_keys_insertItem decl draft.types.items other.name).mpr
        (Or.inl (List.mem_map_of_mem member))
      obtain ⟨kept, keptMember, sameName⟩ := List.mem_map.mp kept
      unfold Owns
      rw [same]
      exact ⟨kept, keptMember, sameName⟩

end Draft

/-! ### Types changed one by one -/

/-- The declaration with its type changed, if it speaks of one as a whole. -/
def Declaration.mapType (change : TypeDecl → TypeDecl) : Declaration → Declaration
  | .type sketch => .type { sketch with decl := change sketch.decl }
  | .bareType decl => .bareType (change decl)
  | other => other

namespace Draft

section MapTypes

variable {change : TypeDecl → TypeDecl} (named : ∀ decl, (change decl).name = decl.name)

def mapTypes (draft : Draft) : Draft := { draft with types := draft.types.map change named }

theorem mapTypes_declareType (draft : Draft) (sketch : TypeSketch) :
    (draft.declareType sketch).mapTypes named =
      (draft.mapTypes named).declareType { sketch with decl := change sketch.decl } := by
  unfold declareType
  rw [named]
  exact congrArg (fun types => { (draft.declareType sketch) with types })
    (Keyed.map_insert _ _ draft.types sketch.decl)

/-- Types may be changed before a declaration is made or afterwards. -/
theorem mapTypes_declare (draft : Draft) {declaration : Declaration} (plain : declaration.Plain) :
    (draft.mapTypes named).declare (declaration.mapType change) =
      (draft.declare declaration).map (mapTypes named) := by
  cases declaration with
  | type sketch => exact congrArg Except.ok (draft.mapTypes_declareType named sketch).symm
  | extension name source clauses => cases plain
  | bareType decl =>
    exact congrArg (fun types => Except.ok { draft with types })
      (Keyed.map_insert _ _ draft.types decl).symm
  | function name clauses =>
    show (draft.mapTypes named).declareFunction name clauses =
      (draft.declareFunction name clauses).map _
    unfold declareFunction
    cases ({ name } : FunctionDecl).addAll clauses <;> rfl
  | wholeFunction decl =>
    show (draft.mapTypes named).registerFunction decl = (draft.registerFunction decl).map _
    unfold registerFunction
    split <;> rfl
  | rule registration =>
    obtain ⟨target, capability, rule⟩ := registration
    cases capability <;> rfl
  | functionCasing | operators | predicates | functionRule | literals | serializer => rfl

end MapTypes

theorem rephrase_declare (say : Reference → Reference) (draft : Draft) {declaration : Declaration}
    (plain : declaration.Plain) :
    (draft.rephrase say).declare (declaration.mapType (TypeDecl.rephrase say)) =
      (draft.declare declaration).map (rephrase say) :=
  mapTypes_declare (TypeDecl.name_rephrase say) draft plain

end Draft

/-! ### Without the copies -/

/-- The declaration without what it copies. What it says of names, tags, functions, capabilities and
rules is all still there. -/
def Declaration.withoutCopy : Declaration → Declaration
  | .extension name _ clauses => .type ((TypeSketch.ofBody name (.entity {})).addAll clauses)
  | other => other

theorem Declaration.withoutCopy_of_plain {declaration : Declaration} (plain : declaration.Plain) :
    declaration.withoutCopy = declaration := by
  cases declaration with
  | extension name source clauses => cases plain
  | _ => rfl

theorem Declaration.plain_withoutCopy (declaration : Declaration) :
    declaration.withoutCopy.Plain := by
  cases declaration <;> trivial

/-- The declaration of a type without its parts. -/
def TypeDecl.heading (decl : TypeDecl) : TypeDecl := { decl with body := .basic }

theorem TypeDecl.name_heading (decl : TypeDecl) : decl.heading.name = decl.name := rfl

/-- The parts of a type have no say in the rest of its declaration. -/
theorem TypeSketch.heading_addAll (sketch : TypeSketch) (clauses : List TypeClause) :
    ({ sketch.addAll clauses with decl := (sketch.addAll clauses).decl.heading } : TypeSketch) =
      ({ sketch with decl := sketch.decl.heading } : TypeSketch).addAll clauses := by
  induction clauses generalizing sketch with
  | nil => rfl
  | cons head rest inductionHypothesis =>
    have first : ({ sketch.add head with decl := (sketch.add head).decl.heading } : TypeSketch) =
        ({ sketch with decl := sketch.decl.heading } : TypeSketch).add head := by
      obtain ⟨⟨name, tag, metadata, body⟩, operators, predicates⟩ := sketch
      cases head <;> cases body <;> rfl
    exact (inductionHypothesis (sketch.add head)).trans (congrArg (TypeSketch.addAll · rest) first)

namespace Draft

/-- The draft without the parts of its types. -/
def headings (draft : Draft) : Draft := draft.mapTypes TypeDecl.name_heading

variable {draft other : Draft}

/-- Without its copies, a declaration that is accepted leads to the same headings. -/
theorem exists_declare_withoutCopy (same : draft.headings = other.headings)
    {declaration : Declaration} {next : Draft} (accepted : draft.declare declaration = .ok next) :
    ∃ plain, other.declare declaration.withoutCopy = .ok plain ∧ next.headings = plain.headings := by
  by_cases plain : declaration.Plain
  · have commutes : (other.declare declaration).map headings = .ok next.headings := by
      unfold headings at same ⊢
      rw [← mapTypes_declare _ other plain, ← same, mapTypes_declare _ draft plain, accepted]
      rfl
    rw [Declaration.withoutCopy_of_plain plain]
    cases said : other.declare declaration with
    | error error =>
      rw [said] at commutes
      cases commutes
    | ok last =>
      rw [said] at commutes
      exact ⟨last, rfl, (Except.ok.inj commutes).symm⟩
  · cases declaration with
    | extension name source clauses =>
      obtain ⟨entity, -, rfl⟩ := declareExtension_eq_ok_iff.mp accepted
      refine ⟨_, rfl, ?_⟩
      unfold headings at same ⊢
      rw [mapTypes_declareType, mapTypes_declareType, TypeSketch.heading_addAll,
        TypeSketch.heading_addAll, same]
      rfl
    | _ => exact absurd trivial plain

theorem exists_declareAll_withoutCopy (same : draft.headings = other.headings)
    {declarations : List Declaration} {last : Draft}
    (accepted : draft.declareAll declarations = .ok last) :
    ∃ plain, other.declareAll (declarations.map Declaration.withoutCopy) = .ok plain ∧
      last.headings = plain.headings := by
  induction declarations generalizing draft other with
  | nil =>
    cases accepted
    exact ⟨other, rfl, same⟩
  | cons head rest inductionHypothesis =>
    obtain ⟨next, first, later⟩ := declareAll_cons_eq_ok_iff.mp accepted
    obtain ⟨middle, said, sameMiddle⟩ := exists_declare_withoutCopy same first
    obtain ⟨plain, saidLater, sameLast⟩ := inductionHypothesis sameMiddle later
    exact ⟨plain, declareAll_cons_eq_ok_iff.mpr ⟨middle, said, saidLater⟩, sameLast⟩

theorem owns_headings_iff (draft : Draft) (reference : Reference) :
    draft.headings.Owns reference ↔ draft.Owns reference := by
  have answers : ∀ decl : TypeDecl, decl.heading.AnswersTo reference ↔ decl.AnswersTo reference := by
    intro decl
    cases reference <;> rfl
  show (∃ decl ∈ draft.types.items.map TypeDecl.heading, _) ↔ _
  simp only [List.mem_map, exists_exists_and_eq_and, answers]
  rfl

/-- Whether two drafts keep apart is a matter of the headings of the second one. -/
theorem Apart.of_headings {first second other : Draft} (apart : Apart first second)
    (same : other.headings = second.headings) : Apart first other := by
  have functions : other.functions = second.functions := (congrArg Draft.functions same :)
  have casing : other.functionCasing = second.functionCasing :=
    (congrArg Draft.functionCasing same :)
  have functionRules : other.functionRules = second.functionRules :=
    (congrArg Draft.functionRules same :)
  have enables : other.enables = second.enables := (congrArg Draft.enables same :)
  have registrations : other.registrations = second.registrations :=
    (congrArg Draft.registrations same :)
  have owns : ∀ reference, other.Owns reference ↔ second.Owns reference := by
    intro reference
    rw [← owns_headings_iff, same, owns_headings_iff]
  constructor
  · exact casing.trans apart.casing
  · exact fun reference own => apart.apart reference ((owns reference).mp own)
  · rw [functions]
    exact apart.functionsApart
  · exact apart.enables
  · rw [enables]
    exact fun name capability enabled =>
      (owns _).mpr (apart.enablesAbove name capability enabled)
  · rw [registrations]
    exact fun registration member => (owns _).mpr (apart.rulesAbove registration member)
  · rw [functions, functionRules, casing]
    exact apart.functionRulesAbove

/-! ### Before or after -/

section Together

variable (first second : Draft)

theorem together_registerType (decl : TypeDecl) :
    first.together (second.registerType decl) = (first.together second).registerType decl := by
  unfold together
  exact congrArg (Draft.mk _ · _ _ _ _ _ _ _ _ _)
    (Keyed.merge_insertWith .replace first.types second.types decl)

theorem together_enableOperators (type : String) (set : CapabilitySet Operator) :
    first.together (second.enableOperators type set) =
      (first.together second).enableOperators type set := by
  unfold together
  exact congrArg (Draft.mk _ _ _ _ · _ _ _ _ _ _)
    (Keyed.merge_insertWith joinCapabilities first.operators second.operators (type, set))

theorem together_enablePredicates (type : String) (set : CapabilitySet Predicate) :
    first.together (second.enablePredicates type set) =
      (first.together second).enablePredicates type set := by
  unfold together
  exact congrArg (Draft.mk _ _ _ _ _ · _ _ _ _ _)
    (Keyed.merge_insertWith joinCapabilities first.predicates second.predicates (type, set))

theorem together_declareType (sketch : TypeSketch) :
    first.together (second.declareType sketch) = (first.together second).declareType sketch := by
  unfold declareType
  rw [together_registerType, together_enablePredicates, together_enableOperators]

theorem together_putFunction (decl : FunctionDecl) :
    first.together (second.putFunction decl) = (first.together second).putFunction decl := by
  unfold together
  exact congrArg (Draft.mk _ _ · _ _ _ _ _ _ _ _)
    (Keyed.merge_insertWith .replace first.functions second.functions decl)

theorem together_registerRule (registration : Registration) :
    first.together (second.registerRule registration) =
      (first.together second).registerRule registration := by
  obtain ⟨target, capability, rule⟩ := registration
  unfold together
  cases capability with
  | operator operator =>
    exact congrArg (Draft.mk _ _ _ _ _ _ _ · _ _ _)
      (first.operatorRules.merge_register second.operatorRules target operator rule)
  | predicate predicate =>
    exact congrArg (Draft.mk _ _ _ _ _ _ _ _ · _ _)
      (first.predicateRules.merge_register second.predicateRules target predicate rule)

theorem together_registerFunctionRule (function : String) (rule : FunctionRule) :
    first.together (second.registerFunctionRule function rule) =
      (first.together second).registerFunctionRule function rule := by
  unfold together
  exact congrArg (Draft.mk _ _ _ _ _ _ · _ _ _ _)
    (Keyed.merge_insertWith .replace first.functionRules second.functionRules (function, rule))

/-- What is declared to the draft above may be declared to the one draft. -/
theorem together_declare {declaration : Declaration} (plain : declaration.Plain) :
    (first.together second).declare declaration =
      (second.declare declaration).map first.together := by
  cases declaration with
  | type sketch => exact congrArg Except.ok (together_declareType first second sketch).symm
  | extension name source clauses => cases plain
  | bareType decl => exact congrArg Except.ok (together_registerType first second decl).symm
  | function name clauses =>
    show (first.together second).declareFunction name clauses =
      (second.declareFunction name clauses).map _
    unfold declareFunction
    cases ({ name } : FunctionDecl).addAll clauses with
    | error error => rfl
    | ok decl => exact congrArg Except.ok (together_putFunction first second decl).symm
  | wholeFunction decl =>
    show (first.together second).registerFunction decl =
      (second.registerFunction decl).map _
    unfold registerFunction
    split
    · exact congrArg Except.ok (together_putFunction first second decl).symm
    · rfl
  | operators type operators =>
    exact congrArg Except.ok (together_enableOperators first second type _).symm
  | predicates type predicates =>
    exact congrArg Except.ok (together_enablePredicates first second type _).symm
  | rule registration =>
    exact congrArg Except.ok (together_registerRule first second registration).symm
  | functionRule function rule =>
    exact congrArg Except.ok (together_registerFunctionRule first second function rule).symm
  | functionCasing | literals | serializer =>
    show Except.ok _ = Except.ok _
    unfold together
    rfl

theorem together_declareAll {declarations : List Declaration}
    (plain : ∀ declaration ∈ declarations, declaration.Plain) :
    (first.together second).declareAll declarations =
      (second.declareAll declarations).map first.together := by
  induction declarations generalizing second with
  | nil => rfl
  | cons head rest inductionHypothesis =>
    have ⟨headPlain, restPlain⟩ := List.forall_mem_cons.mp plain
    rw [declareAll_cons, declareAll_cons, together_declare first second headPlain]
    cases second.declare head with
    | error error => rfl
    | ok next => exact inductionHypothesis next restPlain

/-- Nothing is laid over a draft by a draft on its model to which nothing was said yet. -/
theorem together_extending : first.together (extending first.assemble) = first := by
  have casing : first.assemble.functionCasing = first.functionCasing := first.casing_sealedFunctions
  unfold together extending
  rw [casing]
  rfl

end Together

end Draft

end Metamodel
