/-
  FieldRules/Proofs/Record/Describing.lean
  ========================================
  **What the other fields of a class have to do with the description of one.**

  The annotations of a class are resolved together, or each is read on its own
  if a name in any of them is unknown.  The two are different: a text inside of
  a type is resolved in the first case, and stays a reference in the second.  So
  a field is described as if it were alone when all annotations are resolved, or
  when its own cannot be; otherwise it depends on whether the two ways of
  reading agree on it (`described_alone_iff`).
-/
import FieldRules.Proofs.Engine.Building

namespace FieldRules

open TypeText (Scope Fault)

/-! ### One field of a class -/

/-- What a class brings along, with the annotations of one name only. -/
def ClassLayer.only (layer : ClassLayer) (name : String) : ClassLayer :=
  { layer with annotations := layer.annotations.filter (·.1 == name) }

namespace RecordDefinition

/-- The class with one of its fields only.  Its attributes stay as they are. -/
def only (definition : RecordDefinition) (name : String) : RecordDefinition :=
  { definition with
    fields := definition.fields.filter (·.1 == name)
    layers := definition.layers.map (·.only name) }

def Resolves (definition : RecordDefinition) (scope : Scope) : Prop :=
  ∃ types, RecordDescription.resolveTogether scope definition.layers = .ok types

/-- The first of the annotations that cannot be resolved has a name that is unknown. -/
def LacksName (definition : RecordDefinition) (scope : Scope) : Prop :=
  ∃ unknown, RecordDescription.resolveTogether scope definition.layers =
    .error (.unknownName unknown)

end RecordDefinition

namespace RecordDescription

variable {scope : Scope} {definition : RecordDefinition} {name : String}

def fieldsCalled (description : RecordDescription) (name : String) : List FieldDescription :=
  description.fields.filter (·.name == name)

/-- What a class that resolves tells of a field. -/
def describeBy (types : Table FieldType) (entry : String × FieldDeclaration) : FieldDescription :=
  describeField entry.1 entry.2 ((types.get? entry.1).getD entry.2.type)

/-- The type of a field that is read on its own is what it resolves to beside others,
    apart from notes and options. -/
def ReadsAlike (scope : Scope) (types : Table FieldType) (entry : String × FieldDeclaration) : Prop :=
  ∃ read, TypeText.readDeclared scope entry.2.type = .ok read ∧
    read.unwrapOptional = ((types.get? entry.1).getD entry.2.type).unwrapOptional

def namesUnknown (scope : Scope) (text : String) : Bool :=
  match TypeText.parse (text.toList.dropWhile fun c => c == ' ' || c == '\t') with
  | .error _ => false
  | .ok expression =>
    match TypeText.evaluate scope expression with
    | .error (.unknownName _) => true
    | _ => false

/-- Whether the annotations of a class resolve, each by itself, or lack a name. -/
def lacksNamesAtMost (scope : Scope) (layer : ClassLayer) : Bool :=
  layer.annotations.all fun entry =>
    match TypeText.resolveDeclared (scope.inClass layer.attributes) entry.2 with
    | .ok _ => true
    | .error (.unknownName _) => true
    | .error _ => false

/-! ### Resolving together -/

def resolveInto (scope : Scope) (sofar : Table FieldType) (entry : String × FieldType) :
    Except Fault (Table FieldType) :=
  (TypeText.resolveDeclared scope entry.2).map (sofar.insert entry.1)

def resolveLayer (scope : Scope) (sofar : Table FieldType) (layer : ClassLayer) :
    Except Fault (Table FieldType) :=
  layer.annotations.foldlM (resolveInto (scope.inClass layer.attributes)) sofar

theorem resolveTogether_eq (scope : Scope) (layers : List ClassLayer) :
    resolveTogether scope layers = layers.foldlM (resolveLayer scope) [] := rfl

theorem resolveInto_eq_ok_iff {sofar types : Table FieldType} {entry : String × FieldType} :
    resolveInto scope sofar entry = .ok types ↔
      ∃ resolved, TypeText.resolveDeclared scope entry.2 = .ok resolved ∧
        sofar.insert entry.1 resolved = types :=
  map_eq_ok_iff

/-- Annotations of other names have no part in what a name is resolved to.  By induction
    along the annotations, from tables that agree on the name. -/
theorem exists_resolveInto_filter {annotations : Table FieldType} {sofar own types : Table FieldType}
    (same : own.get? name = sofar.get? name)
    (resolved : annotations.foldlM (resolveInto scope) sofar = .ok types) :
    ∃ types', (annotations.filter (·.1 == name)).foldlM (resolveInto scope) own = .ok types' ∧
      types'.get? name = types.get? name := by
  induction annotations generalizing sofar own with
  | nil =>
    obtain rfl := Except.ok.inj resolved
    exact ⟨own, rfl, same⟩
  | cons entry rest ih =>
    rw [List.foldlM_cons] at resolved
    obtain ⟨next, step, later⟩ := bind_eq_ok_iff.mp resolved
    obtain ⟨type, read, rfl⟩ := resolveInto_eq_ok_iff.mp step
    by_cases isName : entry.1 = name
    · have kept : (own.insert entry.1 type).get? name = (sofar.insert entry.1 type).get? name := by
        rw [← isName, Table.get?_insert_self, Table.get?_insert_self]
      obtain ⟨types', resolved', agree⟩ := ih kept later
      refine ⟨types', ?_, agree⟩
      rw [List.filter_cons, if_pos (by simpa using isName), List.foldlM_cons]
      exact bind_eq_ok_iff.mpr ⟨_, resolveInto_eq_ok_iff.mpr ⟨type, read, rfl⟩, resolved'⟩
    · have kept : own.get? name = (sofar.insert entry.1 type).get? name := by
        rw [Table.get?_insert_of_ne _ _ (Ne.symm isName), same]
      rw [List.filter_cons, if_neg (by simpa using isName)]
      exact ih kept later

theorem exists_resolveLayer_only {layers : List ClassLayer} {sofar own types : Table FieldType}
    (same : own.get? name = sofar.get? name)
    (resolved : layers.foldlM (resolveLayer scope) sofar = .ok types) :
    ∃ types', (layers.map (·.only name)).foldlM (resolveLayer scope) own = .ok types' ∧
      types'.get? name = types.get? name := by
  induction layers generalizing sofar own with
  | nil =>
    obtain rfl := Except.ok.inj resolved
    exact ⟨own, rfl, same⟩
  | cons layer rest ih =>
    rw [List.foldlM_cons] at resolved
    obtain ⟨next, step, later⟩ := bind_eq_ok_iff.mp resolved
    obtain ⟨next', step', agree⟩ := exists_resolveInto_filter same step
    obtain ⟨types', resolved', agree'⟩ := ih agree later
    refine ⟨types', ?_, agree'⟩
    rw [List.map_cons, List.foldlM_cons]
    exact bind_eq_ok_iff.mpr ⟨next', step', resolved'⟩

/-- **A field of a class that resolves comes to the same type alone.** -/
theorem exists_resolveTogether_only {types : Table FieldType}
    (resolved : resolveTogether scope definition.layers = .ok types) :
    ∃ types', resolveTogether scope (definition.only name).layers = .ok types' ∧
      types'.get? name = types.get? name := by
  rw [resolveTogether_eq] at resolved ⊢
  exact exists_resolveLayer_only rfl resolved

/-! ### Reading separately -/

theorem describeSeparately_cons (scope : Scope) (entry : String × FieldDeclaration)
    (rest : Table FieldDeclaration) :
    describeSeparately scope (entry :: rest) =
      (TypeText.readDeclared scope entry.2.type >>= fun read =>
        describeSeparately scope rest >>= fun later =>
          .ok (describeField entry.1 entry.2 read :: later)) := by
  unfold describeSeparately
  rw [List.mapM_cons, bind_assoc]
  rfl

theorem describeSeparately_eq_ok_iff {fields : Table FieldDeclaration}
    {described : List FieldDescription} :
    describeSeparately scope fields = .ok described ↔
      List.Forall₂ (fun entry field => ∃ read,
        TypeText.readDeclared scope entry.2.type = .ok read ∧
          describeField entry.1 entry.2 read = field) fields described := by
  unfold describeSeparately
  rw [mapM_eq_ok_iff]
  simp only [bind_eq_ok_iff, pure, Except.pure, Except.ok.injEq]

theorem readOnce_ne_unknownName (type : FieldType) (unknown : String) :
    TypeText.readDeclared.readOnce scope type ≠ .error (.unknownName unknown) := by
  intro fails
  unfold TypeText.readDeclared.readOnce at fails
  split at fails
  · split at fails
    · rename_i fault _
      cases fault <;> cases fails
    · split at fails
      · cases fails
      · cases fails
      · rename_i other _
        exact other _ (Except.error.inj fails)
  · cases fails

/-- Reading a type on its own never fails for want of a name. -/
theorem readDeclared_ne_unknownName (type : FieldType) (unknown : String) :
    TypeText.readDeclared scope type ≠ .error (.unknownName unknown) := by
  intro fails
  unfold TypeText.readDeclared at fails
  rcases bind_eq_error_iff.mp fails with first | ⟨⟨inner, isRead⟩, -, second⟩
  · exact readOnce_ne_unknownName _ _ first
  · cases isRead with
    | false => cases second
    | true =>
      rcases bind_eq_error_iff.mp second with fails | ⟨outer, -, fails⟩
      · exact readOnce_ne_unknownName _ _ fails
      · cases fails

theorem describeSeparately_ne_unknownName (fields : Table FieldDeclaration) (unknown : String) :
    describeSeparately scope fields ≠ .error (.unknownName unknown) := by
  induction fields with
  | nil => nofun
  | cons entry rest ih =>
    rw [describeSeparately_cons]
    intro fails
    rcases bind_eq_error_iff.mp fails with first | ⟨read, -, later⟩
    · exact readDeclared_ne_unknownName _ _ first
    · rcases bind_eq_error_iff.mp later with fails | ⟨described, -, fails⟩
      · exact ih fails
      · cases fails

theorem readDeclared_of_namesUnknown {text : String} (unknown : namesUnknown scope text = true) :
    TypeText.readDeclared scope (.unresolved text) = .ok (.unresolved text) := by
  have kept : TypeText.readDeclared.readOnce scope (.unresolved text) =
      .ok (.unresolved text, false) := by
    unfold namesUnknown at unknown
    split at unknown
    · cases unknown
    · rename_i expression parsed
      split at unknown
      · rename_i name fails
        simp only [TypeText.readDeclared.readOnce, parsed, fails]
      · cases unknown
  rw [TypeText.readDeclared, kept]
  rfl

/-! ### Descriptions -/

theorem describeFields_eq_ok_iff {fields : List FieldDescription} :
    describeFields scope definition = .ok fields ↔
      (∃ types, resolveTogether scope definition.layers = .ok types ∧
        definition.fields.map (describeBy types) = fields) ∨
      ∃ unknown, resolveTogether scope definition.layers = .error (.unknownName unknown) ∧
        describeSeparately scope definition.fields = .ok fields := by
  unfold describeFields
  cases together : resolveTogether scope definition.layers with
  | ok types =>
    constructor
    · intro told
      exact .inl ⟨types, rfl, Except.ok.inj told⟩
    · rintro (⟨types', same, rfl⟩ | ⟨unknown, other, -⟩)
      · obtain rfl := Except.ok.inj same
        rfl
      · cases other
  | error fault => cases fault <;> simp

theorem describeFields_eq_of_resolved {fields : List FieldDescription} {types : Table FieldType}
    (resolved : resolveTogether scope definition.layers = .ok types)
    (described : describeFields scope definition = .ok fields) :
    definition.fields.map (describeBy types) = fields := by
  rcases describeFields_eq_ok_iff.mp described with ⟨types', again, told⟩ | ⟨unknown, other, -⟩
  · obtain rfl := Except.ok.inj (resolved.symm.trans again)
    exact told
  · cases resolved.symm.trans other

theorem ofDefinition_eq_ok_iff {description : RecordDescription} :
    ofDefinition scope definition = .ok description ↔
      definition.describable = true ∧ description.cls = definition.cls ∧
        describeFields scope definition = .ok description.fields := by
  obtain ⟨cls, fields⟩ := description
  unfold ofDefinition
  cases definition.describable with
  | false => simp
  | true => cases describeFields scope definition <;> simp [eq_comm]

/-- **No unknown name makes a class impossible to describe.** -/
theorem ofDefinition_ne_unknownName (unknown : String) :
    ofDefinition scope definition ≠ .error (.typeText (.unknownName unknown)) := by
  have noFields : describeFields scope definition ≠ .error (.unknownName unknown) := by
    unfold describeFields
    cases together : resolveTogether scope definition.layers with
    | ok types => simp
    | error fault =>
      cases fault with
      | unknownName _ => exact describeSeparately_ne_unknownName _ _
      | _ => simp
  unfold ofDefinition
  cases definition.describable with
  | false => simp
  | true =>
    cases fails : describeFields scope definition with
    | ok fields => simp
    | error fault =>
      rintro same
      obtain rfl : fault = .unknownName unknown := by simpa using same
      exact noFields fails

theorem fieldsCalled_map_describeBy (types : Table FieldType) (fields : Table FieldDeclaration) :
    (fields.map (describeBy types)).filter (·.name == name) =
      (fields.filter (·.1 == name)).map (describeBy types) := by
  rw [List.filter_map]
  rfl

/-- The fields of a name that are read separately are read alike without the others. -/
theorem describeSeparately_filter {fields : Table FieldDeclaration}
    {described : List FieldDescription} (read : describeSeparately scope fields = .ok described) :
    describeSeparately scope (fields.filter (·.1 == name)) =
      .ok (described.filter (·.name == name)) := by
  rw [describeSeparately_eq_ok_iff] at read ⊢
  refine List.rel_filter ?_ read
  rintro entry field ⟨type, -, rfl⟩
  exact Iff.rfl

theorem describeField_eq_iff {declaration : FieldDeclaration} {type type' : FieldType} :
    describeField name declaration type = describeField name declaration type' ↔
      type.unwrapOptional = type'.unwrapOptional := by
  simp [describeField, Prod.ext_iff]

/-- Fields that are read separately are described as a class that resolves tells, where the
    two ways of reading agree. -/
theorem describeSeparately_eq_map_iff {fields : Table FieldDeclaration}
    {described : List FieldDescription} {types : Table FieldType}
    (read : describeSeparately scope fields = .ok described) :
    described = fields.map (describeBy types) ↔ ∀ entry ∈ fields, ReadsAlike scope types entry := by
  rw [describeSeparately_eq_ok_iff] at read
  induction read with
  | nil => simp
  | cons head tail ih =>
    obtain ⟨type, isRead, rfl⟩ := head
    rw [List.map_cons, List.cons.injEq, List.forall_mem_cons, ih, describeBy, describeField_eq_iff,
      ReadsAlike, isRead]
    simp

/-- A class that does not resolve for want of a name is read field by field. -/
theorem describeSeparately_of_not_resolves {fields : List FieldDescription}
    (described : describeFields scope definition = .ok fields) (apart : ¬ definition.Resolves scope) :
    describeSeparately scope definition.fields = .ok fields := by
  rcases describeFields_eq_ok_iff.mp described with ⟨types, resolved, -⟩ | ⟨unknown, -, read⟩
  · exact absurd ⟨types, resolved⟩ apart
  · exact read

theorem describeFields_only_of_resolves {fields : List FieldDescription}
    (described : describeFields scope definition = .ok fields)
    (together : definition.Resolves scope) :
    describeFields scope (definition.only name) = .ok (fields.filter (·.name == name)) := by
  obtain ⟨types, resolved⟩ := together
  have alone : ∃ types', resolveTogether scope (definition.only name).layers = .ok types' ∧
      types'.get? name = types.get? name :=
    exists_resolveTogether_only resolved
  obtain ⟨types', resolved', agree⟩ := alone
  obtain rfl := describeFields_eq_of_resolved resolved described
  refine describeFields_eq_ok_iff.mpr (.inl ⟨types', resolved', ?_⟩)
  rw [fieldsCalled_map_describeBy]
  apply List.map_congr_left
  intro entry member
  have isName : entry.1 = name := by simpa using (List.mem_filter.mp member).2
  rw [describeBy, describeBy, isName, agree]

/-- A field that is read on its own is described alike without the others if its own
    annotations lack a name, or resolve to what it reads as. -/
theorem describeFields_only_iff_of_not_resolves {fields : List FieldDescription}
    (described : describeFields scope definition = .ok fields) (apart : ¬ definition.Resolves scope) :
    describeFields scope (definition.only name) = .ok (fields.filter (·.name == name)) ↔
      (definition.only name).LacksName scope ∨
        ∃ types, resolveTogether scope (definition.only name).layers = .ok types ∧
          ∀ entry ∈ definition.fields, entry.1 = name → ReadsAlike scope types entry := by
  have filtered : describeSeparately scope (definition.only name).fields =
      .ok (fields.filter (·.name == name)) :=
    describeSeparately_filter (describeSeparately_of_not_resolves described apart)
  have alike (types : Table FieldType) :
      (definition.only name).fields.map (describeBy types) = fields.filter (·.name == name) ↔
        ∀ entry ∈ definition.fields, entry.1 = name → ReadsAlike scope types entry := by
    rw [eq_comm, describeSeparately_eq_map_iff filtered]
    simp [RecordDefinition.only, List.mem_filter]
  rw [describeFields_eq_ok_iff, or_comm]
  simp only [alike, filtered, and_true, RecordDefinition.LacksName]

/-- **A class is described if its annotations lack no more than names.**  Each of them
    resolves or has a name that is unknown, and each field can be read on its own. -/
theorem exists_ofDefinition (describable : definition.describable = true)
    (together : ∀ layer ∈ definition.layers, lacksNamesAtMost scope layer = true)
    (apart : ∀ entry ∈ definition.fields, ∃ read,
      TypeText.readDeclared scope entry.2.type = .ok read) :
    ∃ description, ofDefinition scope definition = .ok description := by
  have fields : ∃ fields, describeFields scope definition = .ok fields := by
    simp only [describeFields_eq_ok_iff]
    cases resolved : resolveTogether scope definition.layers with
    | ok types => exact ⟨_, .inl ⟨types, rfl, rfl⟩⟩
    | error fault =>
      rw [resolveTogether_eq] at resolved
      obtain ⟨layer, isLayer, sofar, failsLayer⟩ := exists_of_foldlM_eq_error resolved
      obtain ⟨entry, isEntry, sofar', failsEntry⟩ := exists_of_foldlM_eq_error failsLayer
      have lacks := List.all_eq_true.mp (together layer isLayer) entry isEntry
      rw [map_eq_error_iff.mp failsEntry] at lacks
      obtain ⟨unknown, rfl⟩ : ∃ unknown, fault = .unknownName unknown := by
        cases fault with
        | unknownName unknown => exact ⟨unknown, rfl⟩
        | _ => cases lacks
      have each : ∀ entry ∈ definition.fields, ∃ field read,
          TypeText.readDeclared scope entry.2.type = .ok read ∧
            describeField entry.1 entry.2 read = field := by
        intro entry member
        obtain ⟨read, isRead⟩ := apart entry member
        exact ⟨_, read, isRead, rfl⟩
      obtain ⟨fields, read⟩ := exists_forall₂_iff.mpr each
      exact ⟨fields, .inr ⟨unknown, rfl, describeSeparately_eq_ok_iff.mpr read⟩⟩
  obtain ⟨fields, described⟩ := fields
  exact ⟨⟨definition.cls, fields⟩, ofDefinition_eq_ok_iff.mpr ⟨describable, rfl, described⟩⟩

/-- **A field is described as if it were alone** when all annotations of its class can be
    resolved, or its own lack a name; otherwise only if the type that its declaration reads
    as on its own is what it resolves to, apart from the option.  An unknown name is never
    why a class cannot be described, and a class whose annotations lack no more than names
    is described; where they cannot be resolved together, a text with an unknown name is
    kept as it is. -/
theorem described_alone_iff (scope : Scope) (definition : RecordDefinition) :
    (∀ unknown, ofDefinition scope definition ≠ .error (.typeText (.unknownName unknown))) ∧
    (definition.describable = true →
      (∀ layer ∈ definition.layers, lacksNamesAtMost scope layer = true) →
      (∀ entry ∈ definition.fields, ∃ read, TypeText.readDeclared scope entry.2.type = .ok read) →
      ∃ description, ofDefinition scope definition = .ok description) ∧
    ∀ description, ofDefinition scope definition = .ok description →
      (∀ name, ofDefinition scope (definition.only name) =
          .ok { cls := description.cls, fields := description.fieldsCalled name } ↔
        definition.Resolves scope ∨ (definition.only name).LacksName scope ∨
          ∃ types, resolveTogether scope (definition.only name).layers = .ok types ∧
            ∀ entry ∈ definition.fields, entry.1 = name → ReadsAlike scope types entry) ∧
      (¬ definition.Resolves scope →
        ∀ name text rules, (name, ⟨.unresolved text, rules⟩) ∈ definition.fields →
          namesUnknown scope text = true → ⟨name, .unresolved text, rules, false⟩ ∈ description.fields) := by
  refine ⟨ofDefinition_ne_unknownName, exists_ofDefinition, fun description described => ?_⟩
  obtain ⟨describable, sameClass, fields⟩ := ofDefinition_eq_ok_iff.mp described
  constructor
  · intro name
    have own : ofDefinition scope (definition.only name) =
          .ok { cls := description.cls, fields := description.fieldsCalled name } ↔
        describeFields scope (definition.only name) = .ok (description.fieldsCalled name) := by
      rw [ofDefinition_eq_ok_iff, sameClass]
      exact ⟨fun told => told.2.2, fun told => ⟨describable, rfl, told⟩⟩
    rw [own]
    by_cases together : definition.Resolves scope
    · exact iff_of_true (describeFields_only_of_resolves fields together) (.inl together)
    · rw [fieldsCalled, describeFields_only_iff_of_not_resolves fields together]
      simp only [together, false_or]
  · intro apart name text rules member unknown
    have read := describeSeparately_of_not_resolves fields apart
    obtain ⟨field, isField, type, isRead, rfl⟩ :=
      exists_right_of_forall₂ (describeSeparately_eq_ok_iff.mp read) member
    obtain rfl := Except.ok.inj (isRead.symm.trans (readDeclared_of_namesUnknown unknown))
    exact isField

/-! ### Parcels that name something unknown -/

def parcelClass : RecordClass where
  id := 7
  name := "Parcel"
  qualifiedName := "Parcel"
  ancestors := []

/-- A parcel refers to something of a type that is not known. -/
def parcel (codeType : FieldType) : RecordDefinition :=
  .extending none parcelClass true
    [("code", { type := codeType, rules := some "len(3)" }), ("item", { type := .unresolved "Nowhere" })]
    []

def optionalText : FieldType := .union false [.forward "str", .noneClass]

/-- The reference stays a reference beside an unknown name, and is a class of texts alone. -/
theorem not_described_alone_of_forward :
    ∃ description own, ofDefinition {} (parcel optionalText) = .ok description ∧
      ofDefinition {} ((parcel optionalText).only "code") = .ok own ∧
      (description.fieldsCalled "code").map (·.fieldType) = [.forward "str"] ∧
      own.fields.map (·.fieldType) = [.plain "str" true] := by
  have shown : (ofDefinition {} (parcel optionalText)).toOption.map
      (fun description => (description.fieldsCalled "code").map (·.fieldType)) =
      some [.forward "str"] := by
    decide +kernel
  have shownAlone : (ofDefinition {} ((parcel optionalText).only "code")).toOption.map
      (fun own => own.fields.map (·.fieldType)) = some [.plain "str" true] := by
    decide +kernel
  obtain ⟨description, described, types⟩ := exists_of_toOption_map shown
  obtain ⟨own, alone, typesAlone⟩ := exists_of_toOption_map shownAlone
  exact ⟨description, own, described, alone, types, typesAlone⟩

/-- An annotation that is a text as a whole reads as it resolves. -/
theorem described_alone_iff_of_text :
    ∃ description, ofDefinition {} (parcel (.unresolved "Optional[str]")) = .ok description ∧
      ofDefinition {} ((parcel (.unresolved "Optional[str]")).only "code") =
        .ok { cls := description.cls, fields := description.fieldsCalled "code" } ∧
      ⟨"item", .unresolved "Nowhere", none, false⟩ ∈ description.fields := by
  have apart : ¬ (parcel (.unresolved "Optional[str]")).Resolves {} := by
    rw [RecordDefinition.Resolves]
    decide +kernel
  have resolved : resolveTogether {} ((parcel (.unresolved "Optional[str]")).only "code").layers =
      .ok [("code", .union false [.plain "str" true, .noneClass])] := by
    decide +kernel
  have fields : (parcel (.unresolved "Optional[str]")).fields =
      [("code", { type := .unresolved "Optional[str]", rules := some "len(3)" }),
        ("item", { type := .unresolved "Nowhere" })] := rfl
  obtain ⟨-, succeeds, told⟩ := described_alone_iff {} (parcel (.unresolved "Optional[str]"))
  have lacking : ∀ layer ∈ (parcel (.unresolved "Optional[str]")).layers,
      lacksNamesAtMost {} layer = true := by
    decide +kernel
  have readable : ∀ entry ∈ (parcel (.unresolved "Optional[str]")).fields, ∃ read,
      TypeText.readDeclared {} entry.2.type = .ok read := by
    rw [fields]
    decide +kernel
  obtain ⟨description, described⟩ := succeeds rfl lacking readable
  obtain ⟨alone, kept⟩ := told description described
  refine ⟨description, described, (alone "code").mpr (.inr (.inr ⟨_, resolved, ?_⟩)), ?_⟩
  · intro entry member isCode
    rw [fields] at member
    rcases List.mem_cons.mp member with rfl | later
    · refine ⟨.union false [.plain "str" true, .noneClass], ?_, rfl⟩
      decide +kernel
    · obtain rfl := List.mem_singleton.mp later
      simp at isCode
  · have member : ("item", { type := .unresolved "Nowhere" }) ∈
        (parcel (.unresolved "Optional[str]")).fields := by
      rw [fields]
      simp
    exact kept apart "item" "Nowhere" none member (by decide +kernel)

end RecordDescription

end FieldRules
