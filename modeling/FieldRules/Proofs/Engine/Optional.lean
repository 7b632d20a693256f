/-
  FieldRules/Proofs/Engine/Optional.lean
  ======================================
  **Where the option of the absent value can be seen through.**

  A type that offers one alternative to the absent value is that alternative to
  the rules of a field, whether the option was there before or is added.  An
  option on a type with notes keeps the notes, and a union of several types
  stays a union of several, with one more among them.  The rules then see
  another type than without the option, and what they are about decides
  whether it shows: rules that look at the type refuse notes and unions, and
  the others make nothing of it.
-/
import FieldRules.Proofs.Engine.Builtins
import FieldRules.Proofs.Engine.Frozen

namespace FieldRules

/-- Duplicates may be dropped before or after a choice. -/
theorem eraseDups_filter {α : Type} [BEq α] [LawfulBEq α] (keeps : α → Bool) (items : List α) :
    (items.filter keeps).eraseDups = items.eraseDups.filter keeps := by
  match items with
  | [] => simp
  | first :: rest =>
    have shorter : (rest.filter (!· == first)).length < rest.length + 1 :=
      Nat.lt_succ_of_le (List.length_filter_le _ _)
    have ih := eraseDups_filter keeps (rest.filter (!· == first))
    rw [List.eraseDups_cons, List.filter_cons, List.filter_cons]
    cases kept : keeps first with
    | true =>
      rw [if_pos rfl, if_pos rfl, List.eraseDups_cons, ← ih, List.filter_filter, List.filter_filter]
      simp only [Bool.and_comm]
    | false =>
      rw [if_neg (by simp), if_neg (by simp), ← ih, List.filter_filter]
      congr 1
      apply List.filter_congr
      intro item _
      by_cases same : item = first
      · simp [same, kept]
      · simp [same]
termination_by items.length

/-! ### The alternatives of a type -/

namespace FieldType

variable {type : FieldType}

/-- What a type offers beside the absent value. -/
def alternatives (type : FieldType) : List FieldType :=
  type.unionMembers.filter (!·.isNoneClass)

def isAnnotated : FieldType → Bool
  | annotated _ _ => true
  | _ => false

theorem isNoneClass_iff : type.isNoneClass = true ↔ type = noneClass := by
  constructor
  · intro isNone
    unfold isNoneClass at isNone
    split at isNone
    · rfl
    · cases isNone
  · rintro rfl
    rfl

theorem mem_alternatives {member : FieldType} :
    member ∈ type.alternatives ↔ member ∈ type.unionMembers ∧ member ≠ noneClass := by
  rw [alternatives, List.mem_filter, Bool.not_eq_true', ← Bool.not_eq_true, isNoneClass_iff]

theorem exists_optional_eq_union (part : type.asPart = type) (some : type.alternatives ≠ []) :
    ∃ members, type.optional = union false members ∧
      (union false members).alternatives = type.alternatives.eraseDups := by
  have members : ([type, absent].map asPart).flatMap unionMembers =
      type.unionMembers ++ [noneClass] := by
    rw [List.map_cons, List.flatMap_cons, part]
    rfl
  refine ⟨(type.unionMembers ++ [noneClass]).eraseDups, ?_, ?_⟩
  · unfold optional oneOf unionWith
    rw [members]
    split
    · rename_i only single
      obtain ⟨member, isMember⟩ := List.exists_mem_of_ne_nil _ some
      obtain ⟨inside, other⟩ := mem_alternatives.mp isMember
      have isOnly (candidate : FieldType) (there : candidate ∈ type.unionMembers ++ [noneClass]) :
          candidate = only := by
        rw [← List.mem_eraseDups, single] at there
        exact List.mem_singleton.mp there
      have isNone : member = noneClass :=
        (isOnly member (by simp [inside])).trans (isOnly noneClass (by simp)).symm
      exact absurd isNone other
    · rfl
  · change (type.unionMembers ++ [noneClass]).eraseDups.filter (!·.isNoneClass) = _
    rw [← eraseDups_filter, List.filter_append]
    simp [alternatives, isNoneClass, noneClass]

theorem unwrapOptional_union_of_single {withBars : Bool} {members : List FieldType}
    {member : FieldType} (single : (union withBars members).alternatives = [member]) :
    (union withBars members).unwrapOptional = (member, true) := by
  have filtered : members.filter (!·.isNoneClass) = [member] := single
  simp only [unwrapOptional, filtered]

theorem unwrapOptional_union_of_not_single {withBars : Bool} {members : List FieldType}
    (other : ∀ member, (union withBars members).alternatives ≠ [member]) :
    (union withBars members).unwrapOptional = (union withBars members, false) := by
  unfold unwrapOptional
  dsimp only
  split
  · rename_i member single
    exact absurd single (other member)
  · rfl

/-- **An option on a type with one alternative shows this alternative.** -/
theorem unwrapOptional_optional_of_single (part : type.asPart = type) {member : FieldType}
    (single : type.alternatives = [member]) : type.optional.unwrapOptional = (member, true) := by
  obtain ⟨members, isUnion, same⟩ := exists_optional_eq_union part (by simp [single])
  rw [isUnion]
  refine unwrapOptional_union_of_single ?_
  rw [same, single, List.eraseDups_cons, List.filter_nil, List.eraseDups_nil]

/-- **An option on a type with several alternatives shows a union.** -/
theorem unwrapOptional_optional_of_several (part : type.asPart = type)
    (several : 2 ≤ type.alternatives.eraseDups.length) :
    type.optional.unwrapOptional = (type.optional, false) ∧ type.optional.isUnfit = true := by
  have some : type.alternatives ≠ [] := by
    intro none
    simp [none] at several
  obtain ⟨members, isUnion, same⟩ := exists_optional_eq_union part some
  rw [isUnion]
  refine ⟨unwrapOptional_union_of_not_single fun member single => ?_, rfl⟩
  rw [← same, single] at several
  simp at several

/-- A type without notes shows its only alternative, with or without an option. -/
theorem unwrapOptional_fst_of_single (plain : type.isAnnotated = false) {member : FieldType}
    (single : type.alternatives = [member]) : type.unwrapOptional.1 = member := by
  cases type with
  | annotated inner notes => cases plain
  | union withBars members => rw [unwrapOptional_union_of_single single]
  | _ =>
    have inside := (mem_alternatives.mp (single ▸ List.mem_singleton_self member)).1
    exact (List.mem_singleton.mp inside).symm

/-- A type without notes and with several alternatives is a union, and shows itself. -/
theorem unwrapOptional_of_several (plain : type.isAnnotated = false)
    (several : 2 ≤ type.alternatives.eraseDups.length) :
    type.unwrapOptional = (type, false) ∧ type.isUnfit = true := by
  cases type with
  | annotated inner notes => cases plain
  | union withBars members =>
    refine ⟨unwrapOptional_union_of_not_single fun member single => ?_, rfl⟩
    simp [single, List.eraseDups_cons] at several
  | _ =>
    simp only [alternatives, unionMembers, List.filter_cons, List.filter_nil] at several
    split at several <;> simp [List.eraseDups_cons] at several

/-- Notes that are inside of an option stay where they are. -/
theorem unwrapOptional_optional_annotated (inner : FieldType) (notes : List String) :
    (annotated inner notes).optional.unwrapOptional = (annotated inner notes, true) :=
  unwrapOptional_optional_of_single rfl rfl

end FieldType

/-! ### Rules in the sight of another type -/

namespace Engine

variable {engine : Engine} {type other : FieldType} {rule : Rule} {text name : String}

/-- A built-in rule that looks at the declared type, under whatever name it is registered. -/
def AsksType (engine : Engine) (rule : Rule) : Prop :=
  ∃ builtin : Builtin, engine.factory rule.name = .ok (.builtin builtin) ∧
    builtin.looksAtType = true

theorem resolve_withType (engine : Engine) (type other : FieldType) (rule : Rule) :
    engine.resolve other rule =
      (engine.resolve type rule).map fun arguments => { arguments with fieldType := other } := by
  unfold resolve
  split <;> rfl

theorem buildRule_congr_type (blind : engine.HasTypeBlindFactories)
    (unasked : ¬ engine.AsksType rule) (type other : FieldType) :
    engine.buildRule type rule = engine.buildRule other rule := by
  refine (buildRule_eq_of_resolve rfl (engine.resolve_withType type other rule) ?_).symm
  intro factory arguments known _
  cases factory with
  | builtin builtin =>
    have plain : builtin.looksAtType = false := by
      rw [← Bool.not_eq_true]
      exact fun looks => unasked ⟨builtin, known, looks⟩
    rw [Factory.build, Factory.build, Builtin.build_withType plain]
  | custom factory => rw [Factory.build, Factory.build, blind _ _ known]

theorem not_exists_buildRule_of_isUnfit (asks : engine.AsksType rule)
    (unfit : type.isUnfit = true) : ¬ ∃ built, engine.buildRule type rule = .ok built := by
  rintro ⟨built, ruleBuilt⟩
  obtain ⟨factory, arguments, known, resolved, builds⟩ := buildRule_eq_ok_iff.mp ruleBuilt
  obtain ⟨builtin, isBuiltin, looks⟩ := asks
  obtain rfl := Except.ok.inj (known.symm.trans isBuiltin)
  have declared := (resolve_eq_ok resolved).1
  rw [← declared] at unfit
  obtain ⟨refusal, refuses⟩ := Builtin.exists_refusal_of_isUnfit looks unfit
  rw [Factory.build, refuses] at builds
  cases builds

/-! ### Fields in the sight of another type -/

section

variable {field field' : FieldDescription} {validator validator' : Validator}

theorem readRules_congr (sameText : field.rules = field'.rules) :
    field.readRules = field'.readRules := by
  rw [FieldDescription.readRules, FieldDescription.readRules, sameText]

/-- A field with a type that is fit for no rule is built without rules that look at it. -/
theorem unasked_of_buildField (built : engine.buildField field = .ok validator)
    (unfit : field.fieldType.isUnfit = true) : ∀ rule ∈ field.readRules, ¬ engine.AsksType rule :=
  fun rule member asks =>
    not_exists_buildRule_of_isUnfit asks unfit ((ready_of_buildField built).2 rule member)

theorem exists_buildField_of_same (built : engine.buildField field = .ok validator)
    (sameText : field.rules = field'.rules)
    (same : ∀ rule ∈ field.readRules, (∃ built, engine.buildRule field.fieldType rule = .ok built) →
      ∃ built, engine.buildRule field'.fieldType rule = .ok built) :
    ∃ validator, engine.buildField field' = .ok validator := by
  obtain ⟨read, each⟩ := ready_of_buildField built
  rw [sameText] at read
  exact exists_buildField_iff.mpr ⟨_, read, fun rule member => same rule member (each rule member)⟩

/-- Fields whose rules are built alike agree on every value that they look at. -/
theorem run_buildField_congr (built : engine.buildField field = .ok validator)
    (built' : engine.buildField field' = .ok validator') (sameText : field.rules = field'.rules)
    (sameName : field.name = field'.name)
    (same : ∀ rule ∈ field.readRules,
      engine.buildRule field.fieldType rule = engine.buildRule field'.fieldType rule)
    {value : Value} (present : value ≠ .none) : validator.run value = validator'.run value := by
  have looks (field : FieldDescription) : field.waives value = false := by
    rw [← Bool.not_eq_true, FieldDescription.waives_iff]
    exact fun waived => present waived.2
  have sameAsk : List.Forall₂ (fun rule rule' =>
      engine.ask field.fieldType rule value = engine.ask field'.fieldType rule' value)
      field.readRules field'.readRules := by
    rw [← readRules_congr sameText, List.forall₂_same]
    intro rule member
    rw [ask, ask, same rule member]
  rw [run_buildField built, run_buildField built', looks, looks, if_neg (by simp),
    if_neg (by simp), Outcome.inOrder_eq_of_forall₂ sameAsk, sameName]

end

/-! ### Text for a type, and for an option on it -/

/-- An option passes the absent value, and asks none of the rules. -/
def WaivesAbsence (engine : Engine) (text : String) (type : FieldType) (name : String) : Prop :=
  ∀ offered, engine.compile text type.optional name = .ok offered →
    ∃ inner, offered = .optional inner ∧ offered.run .none = .passed

/-- With and without the option, all values but the absent one are told the same. -/
def AgreesOnPresent (engine : Engine) (text : String) (type : FieldType) (name : String) : Prop :=
  ∀ own offered, engine.compile text type name = .ok own →
    engine.compile text type.optional name = .ok offered →
    ∀ value, value ≠ .none → offered.run value = own.run value

/-- An option adds that the absent value passes, and does nothing else. -/
structure Transparent (engine : Engine) (text : String) (type : FieldType) (name : String) :
    Prop where
  succeeds_iff : (∃ offered, engine.compile text type.optional name = .ok offered) ↔
    ∃ own, engine.compile text type name = .ok own
  waives : engine.WaivesAbsence text type name
  agrees : engine.AgreesOnPresent text type name

theorem waivesAbsence_of_unwrapOptional (offers : type.optional.unwrapOptional.2 = true) :
    engine.WaivesAbsence text type name := by
  intro offered built
  rw [compile_eq_buildField] at built
  obtain ⟨rules, validators, -, -, shape⟩ := buildField_eq_ok_iff.mp built
  rw [FieldDescription.ofText, offers, if_pos rfl] at shape
  subst shape
  exact ⟨_, rfl, rfl⟩

/-- An option shows when the rules see the type with it and it is fit for no rule. -/
theorem exists_compile_optional_iff (blind : engine.HasTypeBlindFactories)
    (unfit : type.optional.unwrapOptional.1.isUnfit = true) :
    (∃ offered, engine.compile text type.optional name = .ok offered) ↔
      (∃ own, engine.compile text type name = .ok own) ∧
        ∀ rules, Rule.parse text = .ok rules → ∀ rule ∈ rules, ¬ engine.AsksType rule := by
  simp only [compile_eq_buildField]
  constructor
  · rintro ⟨offered, built⟩
    have unasked := unasked_of_buildField built unfit
    constructor
    · refine exists_buildField_of_same built rfl ?_
      intro rule member ready
      rwa [buildRule_congr_type blind (unasked rule member) _]
    · intro rules read rule member
      obtain rfl := Except.ok.inj (read.symm.trans (ready_of_buildField built).1)
      exact unasked rule member
  · rintro ⟨⟨own, built⟩, unasked⟩
    have read := (ready_of_buildField built).1
    refine exists_buildField_of_same built rfl ?_
    intro rule member ready
    rwa [buildRule_congr_type blind (unasked _ read rule member) _]

theorem agreesOnPresent_of_isUnfit (blind : engine.HasTypeBlindFactories)
    (unfit : type.optional.unwrapOptional.1.isUnfit = true) :
    engine.AgreesOnPresent text type name := by
  intro own offered built built' value present
  rw [compile_eq_buildField] at built built'
  have unasked := unasked_of_buildField built' unfit
  refine run_buildField_congr built' built rfl rfl ?_ present
  intro rule member
  exact buildRule_congr_type blind (unasked rule member) _ _

/-- **An option is transparent on a type with one alternative to the absent value.** -/
theorem transparent_of_single (part : type.asPart = type) (plain : type.isAnnotated = false)
    {member : FieldType} (single : type.alternatives = [member]) :
    engine.Transparent text type name := by
  have shown := FieldType.unwrapOptional_optional_of_single part single
  have shownOwn := FieldType.unwrapOptional_fst_of_single plain single
  have sameType : (FieldDescription.ofText text type.optional name).fieldType =
      (FieldDescription.ofText text type name).fieldType := by
    rw [FieldDescription.ofText, FieldDescription.ofText, shown, shownOwn]
  constructor
  · simp only [compile_eq_buildField]
    constructor
    · rintro ⟨offered, built⟩
      exact exists_buildField_of_same built rfl fun rule _ ready => sameType ▸ ready
    · rintro ⟨own, built⟩
      exact exists_buildField_of_same built rfl fun rule _ ready => sameType ▸ ready
  · exact waivesAbsence_of_unwrapOptional (by rw [shown])
  · intro own offered built built' value present
    rw [compile_eq_buildField] at built built'
    exact run_buildField_congr built' built rfl rfl (fun rule _ => by rw [sameType]) present

/-- **What becomes of an option.**  On a type with one alternative to the absent value it
    is transparent, whatever factories there are.  On a type with notes it also passes the
    absent value, but the rules see the notes, and on a union of several types they see
    the union.  So with factories that do not look at the type, the text is built for an
    option on notes if it is built without, and has no rule that looks at the type; and for
    an option on several types if it is built without.  All values but the absent one are
    told the same in both cases. -/
theorem option_transparent (engine : Engine) (text name : String) {type : FieldType}
    (part : type.asPart = type) :
    (type.isAnnotated = false → ∀ member, type.alternatives = [member] →
      engine.Transparent text type name) ∧
    (type.isAnnotated = true → engine.WaivesAbsence text type name ∧
      (engine.HasTypeBlindFactories →
        ((∃ offered, engine.compile text type.optional name = .ok offered) ↔
          (∃ own, engine.compile text type name = .ok own) ∧
            ∀ rules, Rule.parse text = .ok rules → ∀ rule ∈ rules, ¬ engine.AsksType rule) ∧
        engine.AgreesOnPresent text type name)) ∧
    (type.isAnnotated = false → 2 ≤ type.alternatives.eraseDups.length →
      engine.HasTypeBlindFactories →
        ((∃ offered, engine.compile text type.optional name = .ok offered) ↔
          ∃ own, engine.compile text type name = .ok own) ∧
        engine.AgreesOnPresent text type name) := by
  refine ⟨fun plain member single => transparent_of_single part plain single, ?_, ?_⟩
  · intro annotated
    cases type with
    | annotated inner notes =>
      have shown := FieldType.unwrapOptional_optional_annotated inner notes
      have unfit : (FieldType.annotated inner notes).optional.unwrapOptional.1.isUnfit = true := by
        rw [shown]
        rfl
      exact ⟨waivesAbsence_of_unwrapOptional (by rw [shown]),
        fun blind => ⟨exists_compile_optional_iff blind unfit, agreesOnPresent_of_isUnfit blind unfit⟩⟩
    | _ => cases annotated
  · intro plain several blind
    obtain ⟨shown, unfit⟩ := FieldType.unwrapOptional_optional_of_several part several
    have unfit : type.optional.unwrapOptional.1.isUnfit = true := by rw [shown]; exact unfit
    refine ⟨?_, agreesOnPresent_of_isUnfit blind unfit⟩
    rw [exists_compile_optional_iff blind unfit, and_iff_left_iff_imp]
    rintro ⟨own, built⟩ rules read rule member
    obtain ⟨shownOwn, unfitOwn⟩ := FieldType.unwrapOptional_of_several plain several
    have unfitOwn : type.unwrapOptional.1.isUnfit = true := by rw [shownOwn]; exact unfitOwn
    rw [compile_eq_buildField] at built
    obtain rfl := Except.ok.inj (read.symm.trans (ready_of_buildField built).1)
    exact unasked_of_buildField built unfitOwn rule member

/-! ### Words with notes, and numbers or words -/

def word : FieldType := .plain "str" true

def notedWord : FieldType := .annotated word ["'meta'"]

def numberOrWord : FieldType := .union true [.plain "int" false, word]

/-- A factory that looks at the declared type: it builds nothing but for numbers or words. -/
def pairFactory : CustomFactory where
  tag := "pair"
  build arguments :=
    if arguments.fieldType = numberOrWord then .ok none else .error (.refused (.stated "no pair"))

/-- An option is not transparent on notes, nor on a union of several types: a rule about the
    length of words refuses notes, the absent value is no number, and a factory may look. -/
theorem not_transparent_of_notes_of_several :
    ¬ (create true).1.Transparent "len(3)" notedWord "value" ∧
    ¬ (create true).1.Transparent "max(1)" numberOrWord "value" ∧
    ¬ ((create true).1.setFactory "pair" (.custom pairFactory)).1.Transparent "pair()" numberOrWord
      "value" := by
  refine ⟨?_, ?_, ?_⟩
  · intro transparent
    have own : ∃ own, (create true).1.compile "len(3)" notedWord "value" = .ok own := by
      decide +kernel
    have none : ¬ ∃ offered, (create true).1.compile "len(3)" notedWord.optional "value" =
        .ok offered := by
      decide +kernel
    exact none (transparent.succeeds_iff.mpr own)
  · intro transparent
    have shown : ((create true).1.compile "max(1)" numberOrWord.optional "value").toOption.map
        (fun offered => (offered.run .none).verdict) =
        some (.ok (some { cause := .wrongKind "an integer" "NoneType", fieldName := "value"
                          path := ["value"] })) := by
      decide +kernel
    obtain ⟨offered, built, refuses⟩ := exists_of_toOption_map shown
    obtain ⟨inner, -, passes⟩ := transparent.waives offered built
    rw [passes] at refuses
    cases refuses
  · intro transparent
    have own : ∃ own, ((create true).1.setFactory "pair" (.custom pairFactory)).1.compile "pair()"
        numberOrWord "value" = .ok own := by
      decide +kernel
    have none : ¬ ∃ offered, ((create true).1.setFactory "pair" (.custom pairFactory)).1.compile
        "pair()" numberOrWord.optional "value" = .ok offered := by
      decide +kernel
    exact none (transparent.succeeds_iff.mpr own)

/-- What becomes of an option on words, on words with notes, and on numbers or words. -/
theorem option_transparent_of_words :
    (∃ offered, (create true).1.compile "len(3)" word.optional "value" = .ok offered ∧
      offered.run .none = .passed ∧
      (offered.run (.text "ab")).verdict =
        .ok (some { cause := .wrongLength 2 3, fieldName := "value", path := ["value"] })) ∧
    (¬ ∃ offered, (create true).1.compile "len(3)" notedWord.optional "value" = .ok offered) ∧
    (∃ offered, (create true).1.compile "max(1)" numberOrWord.optional "value" = .ok offered ∧
      (offered.run (.text "2")).verdict =
        .ok (some { cause := .above 2 1, fieldName := "value", path := ["value"] })) := by
  have blind : (create true).1.HasTypeBlindFactories :=
    (onlyBuiltins_create true).hasTypeBlindFactories
  refine ⟨?_, ?_, ?_⟩
  · have part : word.asPart = word := rfl
    have transparent := (option_transparent (create true).1 "len(3)" "value" part).1 rfl word rfl
    have shown : ((create true).1.compile "len(3)" word "value").toOption.map
        (fun own => (own.run (.text "ab")).verdict) =
        some (.ok (some { cause := .wrongLength 2 3, fieldName := "value", path := ["value"] })) := by
      decide +kernel
    obtain ⟨own, built, refuses⟩ := exists_of_toOption_map shown
    obtain ⟨offered, builtOffered⟩ := transparent.succeeds_iff.mpr ⟨own, built⟩
    obtain ⟨inner, -, passes⟩ := transparent.waives offered builtOffered
    refine ⟨offered, builtOffered, passes, ?_⟩
    rw [transparent.agrees own offered built builtOffered _ (by simp), refuses]
  · intro succeeds
    have part : notedWord.asPart = notedWord := rfl
    have noted := ((option_transparent (create true).1 "len(3)" "value" part).2.1 rfl).2 blind
    have names : (Rule.parse "len(3)").toOption.map (·.map Rule.name) = some ["len"] := by
      decide +kernel
    obtain ⟨rules, read, called⟩ := exists_of_toOption_map names
    obtain ⟨rule, member, isLength⟩ := List.mem_map.mp (called ▸ List.mem_singleton_self "len")
    refine (noted.1.mp succeeds).2 rules read rule member ⟨.length, ?_, rfl⟩
    rw [isLength]
    rfl
  · have part : numberOrWord.asPart = numberOrWord := rfl
    have kept := (option_transparent (create true).1 "max(1)" "value" part).2.2 rfl
      (by decide +kernel) blind
    have shown : ((create true).1.compile "max(1)" numberOrWord "value").toOption.map
        (fun own => (own.run (.text "2")).verdict) =
        some (.ok (some { cause := .above 2 1, fieldName := "value", path := ["value"] })) := by
      decide +kernel
    obtain ⟨own, built, refuses⟩ := exists_of_toOption_map shown
    obtain ⟨offered, builtOffered⟩ := kept.1.mpr ⟨own, built⟩
    refine ⟨offered, builtOffered, ?_⟩
    rw [kept.2 own offered built builtOffered _ (by simp), refuses]

end Engine

end FieldRules
