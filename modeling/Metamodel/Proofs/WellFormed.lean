/-
When the parts of a model fit together.

A model is a list of types and a number of indexes into it: names, tags, collections, and the
handles in attributes and signatures, most of which come with the text that messages show for them.
Nothing in the data keeps an index from pointing past the end of the list or at another type than
its text says. The predicate here rules that out. It also says that every type has its one
collection, without which the place of a collection could not be computed from the place of its
element in the next model.

What a handle says about a type stays true in every model whose list begins with the same types.
-/

import Metamodel.Model
import Metamodel.Proofs.Tables

namespace Metamodel

/-! ### Collections among the types -/

namespace TypeInfo

theorem isCollection_eq_true_iff (type : TypeInfo) :
    type.isCollection = true ↔ ∃ element, type.elementHandle? = some element := by
  unfold isCollection kind elementHandle?
  cases type.shape <;> simp [Shape.kind]

theorem isCollection_eq_false_iff (type : TypeInfo) :
    type.isCollection = false ↔ type.elementHandle? = none := by
  unfold isCollection kind elementHandle?
  cases type.shape <;> simp [Shape.kind]

/-- A type that is no collection is shown by its name. -/
theorem display_of_plain {type : TypeInfo} (plain : type.isCollection = false) :
    type.display = type.name := by
  unfold isCollection kind at plain
  unfold display
  cases shape : type.shape with
  | basic => rfl
  | entity attributes => rfl
  | enum values => rfl
  | collection element elementName => simp [shape, Shape.kind] at plain

theorem attributes_of_collection {type : TypeInfo} (collection : type.isCollection = true) :
    type.attributes = [] := by
  unfold isCollection kind at collection
  unfold attributes
  cases shape : type.shape with
  | basic => rfl
  | entity attributes => simp [shape, Shape.kind] at collection
  | enum values => rfl
  | collection element elementName => rfl

theorem elementHandle?_collectionOf (handle element : TypeHandle) (elementName : String) :
    (collectionOf handle element elementName).elementHandle? = some element := rfl

theorem display_collectionOf (handle element : TypeHandle) (elementName : String) :
    (collectionOf handle element elementName).display = collectionDisplay elementName := by
  show collectionTypeName ++ "[" ++ elementName ++ "]" = collectionDisplay elementName
  rfl

end TypeInfo

/-! ### Handles -/

/-- The handles that a type keeps. -/
def TypeInfo.handles (type : TypeInfo) : List TypeHandle :=
  type.elementHandle?.toList ++ type.attributes.map AttributeInfo.handle

/-- The handles that a function keeps. -/
def FunctionInfo.handles (function : FunctionInfo) : List TypeHandle :=
  function.arguments.filterMap ArgumentInfo.handle ++ function.result.toList

namespace Model

/-- Every handle that is kept somewhere in a model. -/
def handles (model : Model) : List TypeHandle :=
  model.named.values ++ model.tagged.values ++ model.collections.keys ++
    model.collections.values ++ model.arena.flatMap TypeInfo.handles ++
    model.functions.values.flatMap FunctionInfo.handles

/-! ### Well-formedness -/

/-- What a model may say about the type at a handle: the text that shows it, and the name of its
elements if it is a collection. -/
inductive Describes (model : Model) (handle : TypeHandle) : String → Option String → Prop
  | plain {type : TypeInfo} (found : model.typeAt? handle = some type)
      (plain : type.isCollection = false) : Describes model handle type.display none
  | collection {type inner : TypeInfo} {element : TypeHandle}
      (found : model.typeAt? handle = some type) (holds : type.elementHandle? = some element)
      (inside : model.typeAt? element = some inner) :
      Describes model handle type.display (some inner.name)

/-- What a signature may say about an argument or a result: if it has a type, then the text is the
one that shows the type, and the flag is set when the type is a collection. -/
def Shows (model : Model) (declared : Option TypeHandle) (typeName : Option String)
    (collection : Bool) : Prop :=
  ∀ handle, declared = some handle → ∃ type, model.typeAt? handle = some type ∧
    typeName = some type.display ∧ collection = type.isCollection

theorem Describes.typeAt?_eq_some {model : Model} {handle : TypeHandle} {typeName : String}
    {elementName : Option String} (described : model.Describes handle typeName elementName) :
    ∃ type, model.typeAt? handle = some type := by
  cases described with
  | plain found plain => exact ⟨_, found⟩
  | collection found holds inside => exact ⟨_, found⟩

structure WellFormed (model : Model) : Prop where
  /-- Every type stands at the place that its handle names. -/
  handle_eq : ∀ {handle type}, model.typeAt? handle = some type → type.handle = handle
  named : ∀ {name handle}, model.named.get? name = some handle →
    ∃ type, model.typeAt? handle = some type ∧ type.name = name ∧ type.isCollection = false
  tagged : ∀ {tag handle}, model.tagged.get? tag = some handle →
    ∃ type, model.typeAt? handle = some type ∧ type.tag = some tag
  attributes : ∀ {type info}, type ∈ model.arena → info ∈ type.attributes →
    model.Describes info.handle info.typeName info.elementName
  arguments : ∀ {function argument}, function ∈ model.functions.values →
    argument ∈ function.arguments →
      model.Shows argument.handle argument.typeName argument.collection
  results : ∀ {function}, function ∈ model.functions.values →
    model.Shows function.result function.resultName function.resultCollection
  /-- No type is without a collection. -/
  collected : ∀ {handle type}, model.typeAt? handle = some type → type.isCollection = false →
    ∃ collection, model.collectionHandle? handle = some collection
  /-- What is listed as the collection of a type is the collection of that type. -/
  paired : ∀ {element collection}, model.collectionHandle? element = some collection →
    ∃ type, model.typeAt? element = some type ∧ type.isCollection = false ∧
      model.typeAt? collection = some (.collectionOf collection element type.name)
  /-- No collection is left out of the list. -/
  listed : ∀ {handle type element}, model.typeAt? handle = some type →
    type.elementHandle? = some element → model.collectionHandle? element = some handle

theorem wellFormed_empty : WellFormed empty where
  handle_eq found := nomatch found
  named found := nomatch found
  tagged found := nomatch found
  attributes member := nomatch member
  arguments member := nomatch member
  results member := nomatch member
  collected found := nomatch found
  paired found := nomatch found
  listed found := nomatch found

namespace WellFormed

variable {model : Model}

/-- Every collection in a model is the one that its element is listed with. -/
theorem eq_collectionOf (sound : model.WellFormed) {handle element : TypeHandle} {type : TypeInfo}
    (found : model.typeAt? handle = some type) (holds : type.elementHandle? = some element) :
    ∃ inner, model.typeAt? element = some inner ∧ inner.isCollection = false ∧
      type = .collectionOf handle element inner.name := by
  obtain ⟨inner, inside, plain, there⟩ := sound.paired (sound.listed found holds)
  exact ⟨inner, inside, plain, Option.some.inj (found.symm.trans there)⟩

/-- No collection carries a tag. -/
theorem plain_of_tag (sound : model.WellFormed) {handle : TypeHandle} {type : TypeInfo}
    (found : model.typeAt? handle = some type) {tag : HostTag} (carries : type.tag = some tag) :
    type.isCollection = false := by
  cases collection : type.isCollection with
  | false => rfl
  | true =>
    obtain ⟨element, holds⟩ := (TypeInfo.isCollection_eq_true_iff type).mp collection
    obtain ⟨inner, -, -, rfl⟩ := sound.eq_collectionOf found holds
    exact absurd carries (by simp [TypeInfo.collectionOf])

/-- What a reference denotes is a type of the model, and no collection. -/
theorem typeAt?_of_handle? (sound : model.WellFormed) {reference : Reference} {handle : TypeHandle}
    (found : model.handle? reference = some handle) :
    ∃ type, model.typeAt? handle = some type ∧ type.isCollection = false := by
  cases reference with
  | named name =>
    obtain ⟨type, there, -, plain⟩ := sound.named found
    exact ⟨type, there, plain⟩
  | tagged tag =>
    obtain ⟨type, there, carries⟩ := sound.tagged found
    exact ⟨type, there, sound.plain_of_tag there carries⟩

theorem resolve?_eq_none_iff (sound : model.WellFormed) (reference : Reference) :
    model.resolve? reference = none ↔ model.handle? reference = none := by
  unfold resolve?
  cases found : model.handle? reference with
  | none => simp
  | some handle =>
    obtain ⟨type, there, -⟩ := sound.typeAt?_of_handle? found
    simp [there]

/-- A type stands at its own place. -/
theorem typeAt?_of_mem (sound : model.WellFormed) {type : TypeInfo} (member : type ∈ model.arena) :
    model.typeAt? type.handle = some type := by
  obtain ⟨handle, found⟩ := List.getElem?_of_mem member
  rw [sound.handle_eq found]
  exact found

theorem typeAt?_of_resolve? (sound : model.WellFormed) {reference : Reference} {type : TypeInfo}
    (found : model.resolve? reference = some type) : model.typeAt? type.handle = some type := by
  obtain ⟨handle, -, there⟩ := Option.bind_eq_some_iff.mp found
  exact sound.typeAt?_of_mem (List.mem_of_getElem? there)

theorem typeAt?_of_mem_type (sound : model.WellFormed) {type : TypeInfo}
    (member : type ∈ model.arena) {handle : TypeHandle} (kept : handle ∈ type.handles) :
    ∃ other, model.typeAt? handle = some other := by
  rcases List.mem_append.mp kept with element | inAttribute
  · obtain ⟨place, there⟩ := List.getElem?_of_mem member
    obtain ⟨inner, inside, -⟩ := sound.eq_collectionOf there (Option.mem_toList.mp element)
    exact ⟨inner, inside⟩
  · obtain ⟨info, infoMember, rfl⟩ := List.mem_map.mp inAttribute
    exact (sound.attributes member infoMember).typeAt?_eq_some

theorem typeAt?_of_mem_function (sound : model.WellFormed) {function : FunctionInfo}
    (member : function ∈ model.functions.values) {handle : TypeHandle}
    (kept : handle ∈ function.handles) : ∃ type, model.typeAt? handle = some type := by
  rcases List.mem_append.mp kept with inArgument | result
  · obtain ⟨argument, argumentMember, declared⟩ := List.mem_filterMap.mp inArgument
    obtain ⟨type, found, -⟩ := sound.arguments member argumentMember handle declared
    exact ⟨type, found⟩
  · obtain ⟨type, found, -⟩ := sound.results member handle (Option.mem_toList.mp result)
    exact ⟨type, found⟩

/-- No handle points past the end of the arena. -/
theorem lt_of_mem_handles (sound : model.WellFormed) {handle : TypeHandle}
    (kept : handle ∈ model.handles) : handle < model.arena.length := by
  have found : ∃ type, model.typeAt? handle = some type := by
    unfold handles at kept
    simp only [List.mem_append, List.mem_flatMap] at kept
    rcases kept with ((((name | tag) | element) | collection) | ⟨type, member, inType⟩) |
      ⟨function, member, inFunction⟩
    · obtain ⟨_, listed⟩ := model.named.get?_of_mem_values name
      obtain ⟨type, there, -⟩ := sound.named listed
      exact ⟨type, there⟩
    · obtain ⟨_, listed⟩ := model.tagged.get?_of_mem_values tag
      obtain ⟨type, there, -⟩ := sound.tagged listed
      exact ⟨type, there⟩
    · obtain ⟨_, listed⟩ := model.collections.get?_of_mem_keys element
      obtain ⟨type, there, -⟩ := sound.paired listed
      exact ⟨type, there⟩
    · obtain ⟨_, listed⟩ := model.collections.get?_of_mem_values collection
      obtain ⟨type, -, -, there⟩ := sound.paired listed
      exact ⟨_, there⟩
    · exact sound.typeAt?_of_mem_type member inType
    · exact sound.typeAt?_of_mem_function member inFunction
  obtain ⟨type, there⟩ := found
  exact (List.getElem?_eq_some_iff.mp there).1

end WellFormed

/-! ### Later models -/

section Later

variable {earlier later : Model}

theorem typeAt?_of_begins (begins : earlier.arena <+: later.arena) {handle : TypeHandle}
    {type : TypeInfo} (found : earlier.typeAt? handle = some type) :
    later.typeAt? handle = some type := by
  obtain ⟨rest, extended⟩ := begins
  unfold typeAt? at found ⊢
  rw [← extended, List.getElem?_append_left (List.getElem?_eq_some_iff.mp found).1]
  exact found

theorem Describes.of_begins (begins : earlier.arena <+: later.arena) {handle : TypeHandle}
    {typeName : String} {elementName : Option String}
    (described : earlier.Describes handle typeName elementName) :
    later.Describes handle typeName elementName := by
  cases described with
  | plain found plain => exact .plain (typeAt?_of_begins begins found) plain
  | collection found holds inside =>
    exact .collection (typeAt?_of_begins begins found) holds (typeAt?_of_begins begins inside)

theorem Shows.of_begins (begins : earlier.arena <+: later.arena) {declared : Option TypeHandle}
    {typeName : Option String} {collection : Bool}
    (shown : earlier.Shows declared typeName collection) :
    later.Shows declared typeName collection := by
  intro handle declaredAs
  obtain ⟨type, found, text, flag⟩ := shown handle declaredAs
  exact ⟨type, typeAt?_of_begins begins found, text, flag⟩

end Later

end Model

end Metamodel
