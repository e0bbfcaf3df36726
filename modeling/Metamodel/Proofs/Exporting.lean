/-
What an export tells about the types of a model.

A document leaves out what is empty or not the case, and it speaks of types by name. Nothing is lost
by that: who takes what is missing for empty reads the types out of the document again, one after
the other and with all that it is to tell about them. Every name that the document gives as a type
is that of one of the types it lists and of one only, although the names were put down when a type
was built and may have been given to another type since. It is for collections that the names of
their elements are given, and so there is no need to list collections.
-/

import Metamodel.Model.Export
import Metamodel.Proofs.Dispatch
import Metamodel.Proofs.Extending
import Metamodel.Proofs.Newest

namespace Metamodel

/-! ### Reading JSON -/

namespace Json

def text? : Json → Option String
  | text value => some value
  | _ => none

def boolean? : Json → Option Bool
  | boolean value => some value
  | _ => none

def elements? : Json → Option (List Json)
  | array elements => some elements
  | _ => none

/-- The values of the members with a name, of which a proper object has one at most. -/
def valuesAt (name : String) : Json → List Json
  | object members => (members.filter fun member => member.1 = name).map Prod.snd
  | _ => []

section

variable (name : String)

theorem valuesAt_nil : (object []).valuesAt name = [] := rfl

theorem valuesAt_cons (other : String) (value : Json) (rest : List (String × Json)) :
    (object ((other, value) :: rest)).valuesAt name =
      (if other = name then [value] else []) ++ (object rest).valuesAt name := by
  unfold valuesAt
  by_cases same : other = name <;> simp [same]

theorem valuesAt_append (first second : List (String × Json)) :
    (object (first ++ second)).valuesAt name =
      (object first).valuesAt name ++ (object second).valuesAt name := by
  simp [valuesAt]

theorem valuesAt_memberOf (other : String) (value : Option Json) :
    (object (memberOf other value)).valuesAt name = if other = name then value.toList else [] := by
  cases value with
  | none => exact (ite_self []).symm
  | some value => exact (valuesAt_cons name other value []).trans (List.append_nil _)

theorem valuesAt_memberOfList (other : String) (elements : List Json) :
    (object (memberOfList other elements)).valuesAt name =
      if other = name then if elements.isEmpty then [] else [.array elements] else [] := by
  unfold memberOfList
  split
  · exact (ite_self []).symm
  · exact (valuesAt_cons name other _ []).trans (List.append_nil _)

theorem valuesAt_memberOfFlag (other : String) (flag : Bool) :
    (object (memberOfFlag other flag)).valuesAt name =
      if other = name then if flag then [.boolean true] else [] else [] := by
  unfold memberOfFlag
  split
  · exact (valuesAt_cons name other _ []).trans (List.append_nil _)
  · exact (ite_self []).symm

attribute [simp] valuesAt_nil valuesAt_cons valuesAt_append valuesAt_memberOf valuesAt_memberOfList
  valuesAt_memberOfFlag

end

/-- Read the member of a name. Nothing is read where there are several, and where there is none it
is as if something else had been read. -/
def readAt {α : Type} (name : String) (read : Json → Option α) (missing : Option α)
    (json : Json) : Option α :=
  match json.valuesAt name with
  | [] => missing
  | [value] => read value
  | _ => none

def textAt? (name : String) : Json → Option String := readAt name text? none

/-- A text that may be missing. -/
def optionalTextAt? (name : String) : Json → Option (Option String) :=
  readAt name (fun value => value.text?.map some) (some none)

def flagAt? (name : String) : Json → Option Bool := readAt name boolean? (some false)

def listAt? {α : Type} (name : String) (read : Json → Option α) : Json → Option (List α) :=
  readAt name (fun value => value.elements?.bind (·.mapM read)) (some [])

section

variable {json : Json} {name : String}

theorem textAt?_eq {value : String} (there : json.valuesAt name = [.text value]) :
    json.textAt? name = some value := by
  unfold textAt? readAt
  rw [there]
  rfl

theorem optionalTextAt?_eq {value : Option String}
    (there : json.valuesAt name = (value.map .text).toList) :
    json.optionalTextAt? name = some value := by
  unfold optionalTextAt? readAt
  rw [there]
  cases value <;> rfl

theorem flagAt?_eq {flag : Bool}
    (there : json.valuesAt name = if flag then [.boolean true] else []) :
    json.flagAt? name = some flag := by
  unfold flagAt? readAt
  rw [there]
  cases flag <;> rfl

section

variable {α β : Type} {read : Json → Option β} {write : α → Json} {summary : α → β}
  (reads : ∀ item, read (write item) = some (summary item)) {items : List α}

include reads

/-- What is read from the elements is what they were written from. -/
theorem listAt?_of_array (there : json.valuesAt name = [.array (items.map write)]) :
    json.listAt? name read = some (items.map summary) := by
  have all : (items.map write).mapM read = some (items.map summary) := by
    rw [List.mapM_map, show read ∘ write = fun item => pure (summary item) from funext reads]
    exact List.mapM_pure
  unfold listAt? readAt
  rw [there]
  exact all

/-- It does not matter for that if a list without elements was left out. -/
theorem listAt?_eq
    (there : json.valuesAt name =
      if (items.map write).isEmpty then [] else [.array (items.map write)]) :
    json.listAt? name read = some (items.map summary) := by
  cases items with
  | nil =>
    unfold listAt? readAt
    rw [there]
    rfl
  | cons head rest => exact listAt?_of_array reads there

end

end

/-- The elements of the list in a member, if there is one. -/
def elementsAt (name : String) (json : Json) : List Json :=
  (json.valuesAt name).flatMap fun value => value.elements?.getD []

theorem elementsAt_eq {json : Json} {name : String} {elements : List Json}
    (there : json.valuesAt name = if elements.isEmpty then [] else [.array elements]) :
    json.elementsAt name = elements := by
  unfold elementsAt
  rw [there]
  cases elements with
  | nil => rfl
  | cons head rest => exact List.append_nil _

end Json

/-! ### What is to be read -/

structure AttributeSummary where
  name : String
  /-- The name of the type, or that of the elements if it is a collection. -/
  typeName : String
  collection : Bool
  documentation : Option String

structure ValueSummary where
  name : String
  documentation : Option String

/-- All that an export is to tell about a type. -/
structure TypeSummary where
  name : String
  kind : Kind
  operators : CapabilitySet Operator
  predicates : CapabilitySet Predicate
  attributes : List AttributeSummary
  values : List ValueSummary
  documentation : Option String

def AttributeInfo.summary (info : AttributeInfo) : AttributeSummary where
  name := info.name
  typeName := info.spokenName
  collection := info.isCollection
  documentation := info.metadata.documentation

def ValueInfo.summary (info : ValueInfo) : ValueSummary where
  name := info.name
  documentation := info.metadata.documentation

def TypeInfo.summary (type : TypeInfo) : TypeSummary where
  name := type.name
  kind := type.kind
  operators := type.operators
  predicates := type.predicates
  attributes := type.attributes.map AttributeInfo.summary
  values := type.enumValues.map ValueInfo.summary
  documentation := type.metadata.documentation

namespace Export

/-! ### Codes -/

def kindOfCode? (code : String) : Option Kind :=
  [Kind.basic, .entity, .enum, .collection].find? fun kind => kindCode kind = code

theorem kindOfCode?_kindCode (kind : Kind) : kindOfCode? (kindCode kind) = some kind := by
  cases kind <;> decide

theorem kindCode_eq_collection_iff (kind : Kind) : kindCode kind = "C" ↔ kind = .collection := by
  cases kind <;> decide

end Export

theorem Operator.mem_all (operator : Operator) : operator ∈ all := by
  cases operator <;> decide

theorem Predicate.mem_all (predicate : Predicate) : predicate ∈ all := by
  cases predicate <;> decide

theorem Operator.ofCode?_code (operator : Operator) : ofCode? operator.code = some operator := by
  cases operator <;> decide

theorem Predicate.ofCode?_code (predicate : Predicate) :
    ofCode? predicate.code = some predicate := by
  cases predicate <;> decide

theorem CapabilitySet.ofList_toList {α : Type} [DecidableEq α] {all : List α}
    (complete : ∀ member, member ∈ all) (set : CapabilitySet α) :
    ofList (set.toList all) = set := by
  refine congrArg mk (funext fun member => ?_)
  simp [toList, complete]

namespace Json

variable {α : Type} {ofCode? : Char → Option α}

/-- What a code stands for, which has to be a single character. -/
def readCode? (ofCode? : Char → Option α) (json : Json) : Option α := do
  let text ← json.text?
  match text.toList with
  | [code] => ofCode? code
  | _ => none

theorem readCode?_singleton (code : Char) :
    readCode? ofCode? (.text (String.singleton code)) = ofCode? code := by
  simp [readCode?, text?]

/-- A set that is given by the codes of its members. -/
def setAt? [DecidableEq α] (name : String) (ofCode? : Char → Option α) (json : Json) :
    Option (CapabilitySet α) :=
  (json.listAt? name (readCode? ofCode?)).map .ofList

theorem setAt?_eq [DecidableEq α] {code : α → Char}
    (decodes : ∀ member, ofCode? (code member) = some member) {all : List α}
    (complete : ∀ member, member ∈ all) {json : Json} {name : String} {set : CapabilitySet α}
    (there : json.valuesAt name =
      if (Export.codes ((set.toList all).map code)).isEmpty then []
      else [.array (Export.codes ((set.toList all).map code))]) :
    json.setAt? name ofCode? = some set := by
  unfold Export.codes at there
  rw [List.map_map] at there
  have read : json.listAt? name (readCode? ofCode?) = some ((set.toList all).map id) :=
    listAt?_eq (fun member => (readCode?_singleton (code member)).trans (decodes member)) there
  unfold setAt?
  rw [read, List.map_id, Option.map_some, CapabilitySet.ofList_toList complete]

end Json

namespace Export

open Json

/-! ### Reading entries -/

def readAttribute? (json : Json) : Option AttributeSummary := do
  return {
    name := ← json.textAt? "name"
    typeName := ← json.textAt? "type"
    collection := ← json.flagAt? "collection"
    documentation := ← json.optionalTextAt? "doc" }

def readValue? (json : Json) : Option ValueSummary := do
  return { name := ← json.textAt? "name", documentation := ← json.optionalTextAt? "doc" }

def readType? (json : Json) : Option TypeSummary := do
  return {
    name := ← json.textAt? "name"
    kind := ← (json.textAt? "kind").bind kindOfCode?
    operators := ← json.setAt? "ops" Operator.ofCode?
    predicates := ← json.setAt? "preds" Predicate.ofCode?
    attributes := ← json.listAt? "attrs" readAttribute?
    values := ← json.listAt? "vals" readValue?
    documentation := ← json.optionalTextAt? "doc" }

/-- The types that a document lists, read one after the other. -/
def readTypes? (document : Json) : Option (List TypeSummary) := document.listAt? "types" readType?

theorem readAttribute?_attributeDocument (info : AttributeInfo) :
    readAttribute? (attributeDocument info) = some info.summary := by
  have name : (attributeDocument info).textAt? "name" = some info.name :=
    textAt?_eq (by simp [attributeDocument, documentation])
  have typeName : (attributeDocument info).textAt? "type" = some info.spokenName :=
    textAt?_eq (by simp [attributeDocument, documentation, AttributeInfo.spokenName])
  have collection : (attributeDocument info).flagAt? "collection" = some info.isCollection :=
    flagAt?_eq (by simp [attributeDocument, documentation])
  have documented : (attributeDocument info).optionalTextAt? "doc" =
      some info.metadata.documentation :=
    optionalTextAt?_eq (by simp [attributeDocument, documentation])
  unfold readAttribute?
  rw [name, typeName, collection, documented]
  rfl

theorem readValue?_valueDocument (info : ValueInfo) :
    readValue? (valueDocument info) = some info.summary := by
  have name : (valueDocument info).textAt? "name" = some info.name :=
    textAt?_eq (by simp [valueDocument, documentation])
  have documented : (valueDocument info).optionalTextAt? "doc" =
      some info.metadata.documentation :=
    optionalTextAt?_eq (by simp [valueDocument, documentation])
  unfold readValue?
  rw [name, documented]
  rfl

theorem readType?_typeDocument (type : TypeInfo) :
    readType? (typeDocument type) = some type.summary := by
  have name : (typeDocument type).textAt? "name" = some type.name :=
    textAt?_eq (by simp [typeDocument, documentation])
  have kind : ((typeDocument type).textAt? "kind").bind kindOfCode? = some type.kind := by
    have code : (typeDocument type).textAt? "kind" = some (kindCode type.kind) :=
      textAt?_eq (by simp [typeDocument, documentation])
    rw [code]
    exact kindOfCode?_kindCode type.kind
  have operators : (typeDocument type).setAt? "ops" Operator.ofCode? = some type.operators :=
    setAt?_eq Operator.ofCode?_code Operator.mem_all (by simp [typeDocument, documentation])
  have predicates : (typeDocument type).setAt? "preds" Predicate.ofCode? = some type.predicates :=
    setAt?_eq Predicate.ofCode?_code Predicate.mem_all (by simp [typeDocument, documentation])
  have attributes : (typeDocument type).listAt? "attrs" readAttribute? =
      some (type.attributes.map AttributeInfo.summary) :=
    listAt?_eq readAttribute?_attributeDocument (by simp [typeDocument, documentation])
  have values : (typeDocument type).listAt? "vals" readValue? =
      some (type.enumValues.map ValueInfo.summary) :=
    listAt?_eq readValue?_valueDocument (by simp [typeDocument, documentation])
  have documented : (typeDocument type).optionalTextAt? "doc" =
      some type.metadata.documentation :=
    optionalTextAt?_eq (by simp [typeDocument, documentation])
  unfold readType?
  rw [name, kind, operators, predicates, attributes, values, documented]
  rfl

/-! ### What a document lists and speaks of -/

/-- The names of the listed types. -/
def listedNames (document : Json) : List String :=
  (document.elementsAt "types").filterMap (textAt? "name")

/-- All that is given as the type of an attribute, of an argument or of the result of a function. -/
def spokenTypes (document : Json) : List Json :=
  ((document.elementsAt "types").flatMap (elementsAt "attrs") ++
    (document.elementsAt "funcs").flatMap (elementsAt "args") ++
      document.elementsAt "funcs").flatMap (valuesAt "type")

theorem elementsAt_types (model : Model) :
    (document model).elementsAt "types" = model.types.map typeDocument := by
  simp [document, elementsAt, elements?]

theorem elementsAt_funcs (model : Model) :
    (document model).elementsAt "funcs" =
      model.functions.values.map (functionDocument model) := by
  simp [document, elementsAt, elements?]

theorem elementsAt_attrs (type : TypeInfo) :
    (typeDocument type).elementsAt "attrs" = type.attributes.map attributeDocument :=
  elementsAt_eq (by simp [typeDocument, documentation])

theorem elementsAt_args (model : Model) (function : FunctionInfo) :
    (functionDocument model function).elementsAt "args" =
      function.arguments.map (argumentDocument model) := by
  simp [functionDocument, documentation, elementsAt, elements?]

/-- The types can be read out of the document, one after the other. -/
theorem readTypes?_document (model : Model) :
    readTypes? (document model) = some (model.types.map TypeInfo.summary) :=
  listAt?_of_array readType?_typeDocument (by simp [document])

theorem listedNames_document (model : Model) :
    listedNames (document model) = model.types.map TypeInfo.name := by
  have name : ∀ type, (typeDocument type).textAt? "name" = some type.name := fun type =>
    textAt?_eq (by simp [typeDocument, documentation])
  unfold listedNames
  rw [elementsAt_types, List.filterMap_map]
  exact (congrArg (List.filterMap · model.types) (funext name)).trans
    (congrFun List.filterMap_eq_map _)

/-- What is given as a type is a name that an attribute of a listed type has for its type, or a name
that is shown for a handle in a signature. -/
theorem mem_spokenTypes {model : Model} {value : Json}
    (spoken : value ∈ spokenTypes (document model)) :
    (∃ type ∈ model.types, ∃ info ∈ type.attributes, value = .text info.spokenName) ∨
      ∃ function ∈ model.functions.values, ∃ handle ∈ function.handles,
        ∃ type, model.typeAt? handle = some type ∧ value = .text type.elementOrOwnName := by
  -- Signatures keep handles, so the model is asked for the name; attributes keep the name itself.
  have shown : ∀ handle : Option TypeHandle, value ∈ (shownType model handle).toList →
      ∃ place, handle = some place ∧
        ∃ type, model.typeAt? place = some type ∧ value = .text type.elementOrOwnName := by
    intro handle there
    obtain ⟨type, found, same⟩ := Option.map_eq_some_iff.mp (Option.mem_toList.mp there)
    obtain ⟨place, given, listed⟩ := Option.bind_eq_some_iff.mp found
    exact ⟨place, given, type, listed, same.symm⟩
  unfold spokenTypes at spoken
  rw [elementsAt_types, elementsAt_funcs] at spoken
  obtain ⟨entry, listed, valued⟩ := List.mem_flatMap.mp spoken
  rcases List.mem_append.mp listed with member | result
  · rcases List.mem_append.mp member with ofAttribute | ofArgument
    · obtain ⟨_, typeListed, within⟩ := List.mem_flatMap.mp ofAttribute
      obtain ⟨type, known, rfl⟩ := List.mem_map.mp typeListed
      rw [elementsAt_attrs] at within
      obtain ⟨info, inside, rfl⟩ := List.mem_map.mp within
      have same : value = .text info.spokenName := by
        simpa [attributeDocument, documentation, AttributeInfo.spokenName] using valued
      exact Or.inl ⟨type, known, info, inside, same⟩
    · obtain ⟨_, functionListed, within⟩ := List.mem_flatMap.mp ofArgument
      obtain ⟨function, known, rfl⟩ := List.mem_map.mp functionListed
      rw [elementsAt_args] at within
      obtain ⟨argument, inside, rfl⟩ := List.mem_map.mp within
      have inArgument : value ∈ (shownType model argument.handle).toList := by
        simpa [argumentDocument, documentation] using valued
      obtain ⟨place, given, type, found, same⟩ := shown _ inArgument
      have kept : place ∈ function.arguments.filterMap ArgumentInfo.handle :=
        List.mem_filterMap.mpr ⟨argument, inside, given⟩
      exact Or.inr ⟨function, known, place, List.mem_append_left _ kept, type, found, same⟩
  · obtain ⟨function, known, rfl⟩ := List.mem_map.mp result
    have inResult : value ∈ (shownType model function.result).toList := by
      simpa [functionDocument, documentation] using valued
    obtain ⟨place, given, type, found, same⟩ := shown _ inResult
    exact Or.inr ⟨function, known, place,
      List.mem_append_right _ (Option.mem_toList.mpr given), type, found, same⟩

end Export

/-! ### Listed types -/

theorem TypeInfo.elementOrOwnName_of_plain {type : TypeInfo} (plain : type.isCollection = false) :
    type.elementOrOwnName = type.name := by
  have holdsNothing := type.isCollection_eq_false_iff.mp plain
  unfold elementHandle? at holdsNothing
  unfold elementOrOwnName
  cases shape : type.shape with
  | collection element elementName => simp [shape] at holdsNothing
  | basic | entity | enum => rfl

namespace Model

variable {model : Model}

/-- The listed types have the names by which they are listed. -/
theorem WellFormed.map_name_types (sound : model.WellFormed) :
    model.types.map TypeInfo.name = model.named.keys := by
  have named : ∀ entry ∈ model.named.items,
      (model.typeAt? entry.2).map TypeInfo.name = some entry.1 := by
    intro entry listed
    obtain ⟨type, there, name, -⟩ := sound.named (model.named.get?_eq_some_iff.mpr listed)
    rw [there, ← name]
    rfl
  unfold types Table.values Table.keys
  rw [List.filterMap_map, List.map_filterMap]
  exact (List.filterMap_congr named).trans (congrFun List.filterMap_eq_map _)

theorem WellFormed.plain_of_mem_types (sound : model.WellFormed) {type : TypeInfo}
    (member : type ∈ model.types) : type.isCollection = false :=
  (sound.answers_of_resolve? (sound.type?_of_mem_types member)).1

/-- A name is never given up: every type that is no collection shares its name with one that is
listed, be it another one by now. -/
theorem Built.count_name (built : model.Built) {handle : TypeHandle} {type : TypeInfo}
    (found : model.typeAt? handle = some type) (plain : type.isCollection = false) :
    (model.types.map TypeInfo.name).count type.name = 1 := by
  have answers : type.AnswersTo (.named type.name) := rfl
  -- The name may find another type by now, but it finds one that has the name.
  obtain ⟨current, resolved, -⟩ := built.exists_resolve? (List.mem_of_getElem? found) plain answers
  have same : current.name = type.name := (built.wellFormed.answers_of_resolve? resolved).2
  have distinct : (model.types.map TypeInfo.name).Nodup := by
    rw [built.wellFormed.map_name_types]
    exact model.named.distinct
  exact List.count_eq_one_of_mem distinct
    (List.mem_map.mpr ⟨current, mem_types_of_type? resolved, same⟩)

/-- The name that is shown for a type: its own name, or that of its elements. -/
theorem Built.count_elementOrOwnName (built : model.Built) {handle : TypeHandle} {type : TypeInfo}
    (found : model.typeAt? handle = some type) :
    (model.types.map TypeInfo.name).count type.elementOrOwnName = 1 := by
  cases holds : type.elementHandle? with
  | some element =>
    obtain ⟨inner, inside, plain, rfl⟩ := built.wellFormed.eq_collectionOf found holds
    exact built.count_name inside plain
  | none =>
    have plain := type.isCollection_eq_false_iff.mpr holds
    rw [TypeInfo.elementOrOwnName_of_plain plain]
    exact built.count_name found plain

/-- The name by which an attribute speaks of its type. -/
theorem Built.count_described (built : model.Built) {handle : TypeHandle} {typeName : String}
    {elementName : Option String} (described : model.Describes handle typeName elementName) :
    (model.types.map TypeInfo.name).count (elementName.getD typeName) = 1 := by
  cases described with
  | plain found plain =>
    rw [TypeInfo.display_of_plain plain]
    exact built.count_name found plain
  | collection found holds inside =>
    obtain ⟨inner, there, plain, -⟩ := built.wellFormed.eq_collectionOf found holds
    obtain rfl := Option.some.inj (there.symm.trans inside)
    exact built.count_name inside plain

/-- Everything that is to be told about the types can be read out of the document, which does not
list collections. Whatever it gives as the type of an attribute, an argument or a result is the name
of exactly one of the types that it lists. -/
theorem Built.document_faithful (built : model.Built) :
    Export.readTypes? (Export.document model) = some (model.types.map TypeInfo.summary) ∧
      (∀ entry ∈ (Export.document model).elementsAt "types", .text "C" ∉ entry.valuesAt "kind") ∧
        ∀ value ∈ Export.spokenTypes (Export.document model), ∃ name, value = .text name ∧
          (Export.listedNames (Export.document model)).count name = 1 := by
  refine ⟨Export.readTypes?_document model, fun entry listed code => ?_, fun value spoken => ?_⟩
  · rw [Export.elementsAt_types] at listed
    obtain ⟨type, known, rfl⟩ := List.mem_map.mp listed
    have kind : type.kind = .collection := by
      rw [← Export.kindCode_eq_collection_iff]
      simpa [Export.typeDocument, Export.documentation, eq_comm] using code
    have plain := built.wellFormed.plain_of_mem_types known
    exact absurd kind (of_decide_eq_false plain)
  · rw [Export.listedNames_document]
    rcases Export.mem_spokenTypes spoken with
      ⟨type, known, info, inside, rfl⟩ | ⟨function, known, handle, kept, type, found, rfl⟩
    · have member := Draft.mem_arena_of_mem_types (List.mem_append_left _ known)
      exact ⟨_, rfl, built.count_described (built.wellFormed.attributes member inside)⟩
    · exact ⟨_, rfl, built.count_elementOrOwnName found⟩

/-- The persons of a shelter are named with the texts of the household, the cages are labelled with
others, and in both places the document has the one name that it lists. -/
theorem Built.document_faithful_shelter :
    Draft.shelter.assemble.Built ∧
      Export.readTypes? (Export.document Draft.shelter.assemble) =
        some (Draft.shelter.assemble.types.map TypeInfo.summary) ∧
        (Export.spokenTypes (Export.document Draft.shelter.assemble)).filterMap Json.text? =
          ["String", "Pet", "Person", "String", "Pet", "Pet", "Cage", "Person", "Person"] ∧
          (Export.listedNames (Export.document Draft.shelter.assemble)).count "String" = 1 := by
  have built : Draft.shelter.assemble.Built := .build Draft.grounded_shelter Draft.build_shelter
  have names : (Export.spokenTypes (Export.document Draft.shelter.assemble)).filterMap Json.text? =
      ["String", "Pet", "Person", "String", "Pet", "Pet", "Cage", "Person", "Person"] := by
    decide
  obtain ⟨read, -, closed⟩ := Built.document_faithful built
  have among : "String" ∈ (Export.spokenTypes (Export.document Draft.shelter.assemble)).filterMap
      Json.text? := by
    rw [names]
    decide
  obtain ⟨value, spoken, text⟩ := List.mem_filterMap.mp among
  obtain ⟨name, rfl, once⟩ := closed value spoken
  obtain rfl := Option.some.inj text
  exact ⟨built, read, names, once⟩

end Model

end Metamodel
