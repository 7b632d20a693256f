/-
  FieldRules/Proofs/CommandLine/Agreement.lean
  ============================================
  **The table of rules and the check of a value agree on what is built.**

  The table shows for each rule of a text whether it is built, from its printed
  form alone.  The check builds all of them together, as they stand in the text.
  A printed rule is read back (`Rule.parse_render`), and what is made of a rule
  does not depend on where it stands, so the table fails where the check does;
  and since building ends with the first rule that fails, its message is the one
  of the first row that fails.
-/
import FieldRules.Proofs.CommandLine.Screen
import FieldRules.Proofs.Engine.Escaping
import FieldRules.Proofs.Rule.Rendering

namespace FieldRules

/-! ### Rules on their own -/

/-- No pattern that a rule of a text asks for is beyond what is supported. -/
def Engine.SupportsPatterns (engine : Engine) (type : FieldType) (text : String) : Prop :=
  ∀ rules, Rule.parse text = .ok rules → ∀ rule ∈ rules, ∀ known pattern,
    engine.buildRule type rule ≠ .error (.factory known (.unsupportedPattern pattern))

theorem head?_toList_append {front back : String} {c : Char}
    (begins : front.toList.head? = some c) : (front ++ back).toList.head? = some c := by
  rw [String.toList_append, List.head?_append, begins]
  rfl

/-- A message about a rule that is not built begins with a capital letter. -/
theorem BuildFault.head?_message {engine : Engine} {type : FieldType} {rule : Rule}
    {fault : BuildFault} (fails : engine.buildRule type rule = .error fault)
    (configuration : (Error.build fault).isConfiguration = true) :
    ∃ c ∈ ['U', 'C'], fault.message.toList.head? = some c := by
  rcases Engine.buildRule_eq_error_iff.mp fails with
    unknown | ⟨factory, -, unresolved | ⟨arguments, reason, -, -, rfl⟩⟩
  · rw [Engine.eq_unknownRule_of_factory unknown]
    exact ⟨'U', by simp, head?_toList_append (head?_toList_append (head?_toList_append rfl))⟩
  · obtain ⟨symbol, rfl⟩ := Engine.exists_unknownConstant_of_resolve unresolved
    exact ⟨'U', by simp, head?_toList_append (head?_toList_append rfl)⟩
  · cases reason with
    | refused refusal =>
      exact ⟨'C', by simp, head?_toList_append (head?_toList_append (head?_toList_append rfl))⟩
    | unsupportedPattern pattern => cases configuration

namespace CommandLine

variable {engine : Engine} {declared : Declared} {text value name : String} {rules : List Rule}
  {rule : Rule} {fault : BuildFault}

theorem compile_declared_eq_buildField : engine.compile text declared.fieldType name =
    engine.buildField { name := name, fieldType := declared.fieldType, rules := some text } := by
  cases declared <;> rfl

theorem exists_compile_declared_iff :
    (∃ validator, engine.compile text declared.fieldType name = .ok validator) ↔
      ∃ rules, Rule.parse text = .ok rules ∧ ∀ rule ∈ rules, ∃ validator,
        engine.buildRule declared.fieldType rule = .ok validator := by
  rw [compile_declared_eq_buildField]
  exact Engine.exists_buildField_iff

theorem compile_eq_error_of_firstFails (isRead : Rule.parse text = .ok rules)
    (first : FirstFails (engine.buildRule declared.fieldType) rules rule fault) :
    engine.compile text declared.fieldType name = .error fault := by
  rw [compile_declared_eq_buildField]
  exact Engine.buildField_eq_error_iff.mpr (.inr ⟨rules, rule, isRead, first⟩)

theorem isConfiguration_of_supportsPatterns (isRead : Rule.parse text = .ok rules)
    (supported : engine.SupportsPatterns declared.fieldType text) (member : rule ∈ rules)
    (fails : engine.buildRule declared.fieldType rule = .error fault) :
    (Error.build fault).isConfiguration = true := by
  rw [← Bool.not_eq_false, BuildFault.not_isConfiguration_iff]
  rintro ⟨known, pattern, rfl⟩
  exact supported rules isRead rule member known pattern fails

theorem isConfiguration_of_compile (supported : engine.SupportsPatterns declared.fieldType text)
    (fails : engine.compile text declared.fieldType name = .error fault) :
    (Error.build fault).isConfiguration = true := by
  rw [compile_declared_eq_buildField] at fails
  rcases Engine.buildField_eq_error_iff.mp fails with
    ⟨problem, -, rfl⟩ | ⟨rules, rule, isRead, first⟩
  · rfl
  · exact isConfiguration_of_supportsPatterns isRead supported first.mem first.fails

/-- A rule is built from its printed form as it is among the rules of its text. -/
theorem compile_render_eq_error_iff (read : Rule.parse text = .ok rules) (member : rule ∈ rules) :
    engine.compile rule.invocation.render declared.fieldType name = .error fault ↔
      engine.buildRule declared.fieldType rule = .error fault := by
  have printed := Rule.parse_render read member
  rw [compile_declared_eq_buildField, Engine.buildField_eq_error_iff]
  constructor
  · rintro (⟨problem, unread, -⟩ | ⟨alone, other, isRead, first⟩)
    · cases printed.symm.trans unread
    -- one rule is printed, so it is the one that fails
    · cases printed.symm.trans isRead
      rcases firstFails_cons_iff.mp first with ⟨-, fails⟩ | ⟨-, never⟩
      · exact fails
      · exact absurd never not_firstFails_nil
  · intro fails
    exact .inr ⟨_, _, printed, firstFails_cons_iff.mpr (.inl ⟨rfl, fails⟩)⟩

/-! ### Rows -/

namespace Status

theorem ofRule_eq_failed (read : Rule.parse text = .ok rules) (member : rule ∈ rules)
    (fails : engine.buildRule declared.fieldType rule = .error fault) :
    ofRule engine (some declared) rule = .failed (.build fault) := by
  rw [ofRule, (compile_render_eq_error_iff read member).mpr fails]

theorem ofRule_eq_built (read : Rule.parse text = .ok rules) (member : rule ∈ rules)
    (builds : ∃ validator, engine.buildRule declared.fieldType rule = .ok validator) :
    ofRule engine (some declared) rule = .built := by
  have alike (fault : BuildFault) :
      engine.compile rule.invocation.render declared.fieldType "value" = .error fault ↔
        engine.buildRule declared.fieldType rule = .error fault :=
    compile_render_eq_error_iff read member
  obtain ⟨validator, compiles⟩ := (exists_ok_congr alike).mpr builds
  rw [ofRule, compiles]

end Status

def entryUnder (title : String) (header row : List String) : Option String :=
  row[header.idxOf title]?

/-- The status of the first row of a table that is not about a rule that is built. -/
def firstFailing? : List (List String) → Option String
  | [] => none
  | header :: rows => (rows.filterMap (entryUnder "Status" header)).find? (· != "built")

def rulesHeader : List String := ["#", "Rule", "Integers", "Strings", "Symbols", "Status"]

def judge (engine : Engine) (declared : Declared) (rules : List Rule) : List (Rule × Status) :=
  rules.map fun rule => (rule, Status.ofRule engine (some declared) rule)

theorem filterMap_entryUnder_ruleRows (index : Nat) (judged : List (Rule × Status)) :
    (ruleRows index judged).filterMap (entryUnder "Status" rulesHeader) =
      judged.map fun pair => shownCell pair.2.wording := by
  induction judged generalizing index with
  | nil => rfl
  | cons pair rest ih =>
    have first : entryUnder "Status" rulesHeader (ruleRow index pair.1 pair.2) =
        some (shownCell pair.2.wording) := rfl
    rw [ruleRows, List.filterMap_cons_some first, ih, List.map_cons]

theorem shownCell_built : shownCell "built" = "built" := by decide +kernel

theorem shownCell_eq_dropMoves {shown : String}
    (isShown : Markup.shown? (Markup.escape text) = some shown) :
    shownCell text = dropMoves shown := by
  rw [shownCell, isShown]
  rfl

/-- The message about a rule that is not built does not read as if it were. -/
theorem shownCell_message_ne_built (fails : engine.buildRule declared.fieldType rule = .error fault)
    (configuration : (Error.build fault).isConfiguration = true) :
    shownCell fault.message ≠ "built" := by
  -- the first letter is a capital one, and it is neither marked up nor dropped
  obtain ⟨c, capital, begins⟩ := BuildFault.head?_message fails configuration
  rw [List.mem_pair] at capital
  have plain : Markup.IsPlain c := by
    rcases capital with rfl | rfl <;> exact ⟨by decide, by decide, by decide⟩
  have stays : isMove c = false := by rcases capital with rfl | rfl <;> decide
  obtain ⟨shown, isShown, isFirst⟩ := Markup.exists_shown?_escape_of_head? plain begins
  have isCapital := head?_dropMoves isFirst stays
  intro same
  rw [← shownCell_eq_dropMoves isShown, same] at isCapital
  rcases capital with rfl | rfl <;> exact absurd isCapital (by decide)

theorem code_failure (title : String) (error : Error) : (failure title error).code = 1 := by
  rw [failure]
  split <;> rfl

/-- Where no pattern is beyond what is supported, the table shows all rules. -/
theorem showRules_eq (read : Rule.parse text = .ok rules)
    (supported : engine.SupportsPatterns declared.fieldType text) :
    showRules engine text (some declared) =
      { code := if (judge engine declared rules).any (·.2.isFailure) then 1 else 0
        table := rulesHeader :: ruleRows 1 (judge engine declared rules) } := by
  have noCrash : ¬ (judge engine declared rules).any (·.2.isCrash) = true := by
    rw [List.any_eq_true, judge]
    rintro ⟨pair, isJudged, crashes⟩
    obtain ⟨rule, member, rfl⟩ := List.mem_map.mp isJudged
    cases result : engine.buildRule declared.fieldType rule with
    | ok validator =>
      rw [Status.ofRule_eq_built read member ⟨validator, result⟩] at crashes
      cases crashes
    | error fault =>
      rw [Status.ofRule_eq_failed read member result, Status.isCrash,
        isConfiguration_of_supportsPatterns read supported member result] at crashes
      cases crashes
  rw [showRules, read]
  exact if_neg noCrash

theorem any_isFailure_judge_iff (read : Rule.parse text = .ok rules) :
    (judge engine declared rules).any (·.2.isFailure) = true ↔
      ∃ rule ∈ rules, ∃ fault, engine.buildRule declared.fieldType rule = .error fault := by
  rw [List.any_eq_true, judge]
  constructor
  · rintro ⟨pair, isJudged, failure⟩
    obtain ⟨rule, member, rfl⟩ := List.mem_map.mp isJudged
    refine ⟨rule, member, exists_error_iff.mpr fun builds => ?_⟩
    rw [Status.ofRule_eq_built read member builds] at failure
    cases failure
  · rintro ⟨rule, member, fault, fails⟩
    refine ⟨_, List.mem_map_of_mem member, ?_⟩
    rw [Status.ofRule_eq_failed read member fails]
    rfl

/-- **The table fails where the text cannot be compiled.** -/
theorem code_showRules_eq_zero_iff
    (supported : engine.SupportsPatterns declared.fieldType text) :
    (showRules engine text (some declared)).code = 0 ↔
      ∃ validator, engine.compile text declared.fieldType name = .ok validator := by
  rw [exists_compile_declared_iff]
  cases isRead : Rule.parse text with
  | error problem =>
    have code : (showRules engine text (some declared)).code = 1 := by
      rw [showRules, isRead]
      exact code_failure _ _
    simp [code]
  | ok rules =>
    rw [showRules_eq isRead supported]
    constructor
    · intro zero
      refine ⟨rules, rfl, fun rule member => ?_⟩
      by_contra unbuilt
      have fails : (judge engine declared rules).any (·.2.isFailure) = true :=
        (any_isFailure_judge_iff isRead).mpr ⟨rule, member, exists_error_iff.mpr unbuilt⟩
      rw [if_pos fails] at zero
      cases zero
    · rintro ⟨_, ⟨⟩, each⟩
      refine if_neg fun fails => ?_
      obtain ⟨rule, member, unbuilt⟩ := (any_isFailure_judge_iff isRead).mp fails
      exact exists_error_iff.mp unbuilt (each rule member)

theorem firstFailing?_showRules (read : Rule.parse text = .ok rules)
    (supported : engine.SupportsPatterns declared.fieldType text)
    (first : FirstFails (engine.buildRule declared.fieldType) rules rule fault) :
    firstFailing? (showRules engine text (some declared)).table =
      some (shownCell fault.message) := by
  have member := first.mem
  obtain ⟨before, after, rfl, succeed, fails⟩ := first
  have configuration := isConfiguration_of_supportsPatterns read supported member fails
  have differs : (shownCell fault.message != "built") = true := by
    simpa using shownCell_message_ne_built fails configuration
  have isBuilt : ∀ status ∈ (judge engine declared before).map fun pair => shownCell pair.2.wording,
      ¬ (status != "built") = true := by
    intro status shown
    obtain ⟨pair, isJudged, rfl⟩ := List.mem_map.mp shown
    obtain ⟨other, isBefore, rfl⟩ := List.mem_map.mp isJudged
    rw [Status.ofRule_eq_built read (List.mem_append_left _ isBefore) (succeed other isBefore)]
    simp [Status.wording, shownCell_built]
  rw [showRules_eq read supported, firstFailing?, filterMap_entryUnder_ruleRows, judge,
    List.map_append, List.map_append, List.find?_append, ← judge, List.find?_eq_none.mpr isBuilt,
    Option.none_or, List.map_cons, List.map_cons, Status.ofRule_eq_failed read member fails]
  exact List.find?_cons_of_pos differs

/-! ### Messages -/

/-- A command ends with a message under a title, behind what was noted before. -/
def StopsWith (title : String) (noted : List String) (screen : Screen) : Prop :=
  screen.code = 1 ∧ ∃ first more, screen.errors = noted ++ first :: more ∧
    title.toList <+: first.toList

theorem showCheck_eq_of_error (fails : engine.compile text declared.fieldType name = .error fault)
    (configuration : (Error.build fault).isConfiguration = true) :
    showCheck engine text value declared name =
      { code := 1
        errors := screenLines ("Configuration error: " ++ shownCell fault.message) } := by
  obtain ⟨shown, isShown⟩ := Markup.exists_shown?_escape fault.message
  rw [showCheck, fails, shownCell_eq_dropMoves isShown, screenLines_append_dropMoves]
  exact failure_eq (by decide) (by decide +kernel) configuration isShown

theorem errors_showCheck_of_ok
    (compiles : ∃ validator, engine.compile text declared.fieldType name = .ok validator) :
    (showCheck engine text value declared name).errors = [] := by
  obtain ⟨validator, compiles⟩ := compiles
  have telling (code : Nat) (markup : String) : (telling code markup).errors = [] := by
    rw [CommandLine.telling]
    split <;> rfl
  rw [showCheck, compiles]
  dsimp only
  split
  · exact telling _ _
  · exact telling _ _
  · rfl

/-! ### Commands -/

def Screen.behind (noted : List String) (screen : Screen) : Screen :=
  { screen with errors := noted ++ screen.errors }

variable {constants : Option String} {read : FilePath → FileContent} {verbose verbose' : Bool}
  {words words' : List String}

/-- What is noted on the way to an engine, if that is asked for. -/
def noted (verbose : Bool) (constants : Option String) (read : FilePath → FileContent) :
    List String :=
  if verbose then (prepare constants read).1.flatMap (visibleLines ·.logLine) else []

theorem withEngine_eq_behind (loaded : (prepare constants read).2 = .ok engine)
    (present : Engine → Screen) :
    withEngine verbose constants read present =
      (present engine).behind (noted verbose constants read) := by
  rw [withEngine, noted]
  cases same : prepare constants read with
  | mk notices prepared =>
    rw [same] at loaded
    obtain rfl : prepared = .ok engine := loaded
    rfl

theorem run_rules_eq_behind
    (asks : request words = .run verbose (.rules text constants (some declared)))
    (loaded : (prepare constants read).2 = .ok engine) :
    run words read =
      (showRules engine text (some declared)).behind (noted verbose constants read) := by
  rw [run, asks]
  exact withEngine_eq_behind loaded _

theorem run_check_eq_behind
    (asks : request words = .run verbose (.check text value constants declared name))
    (loaded : (prepare constants read).2 = .ok engine) :
    run words read =
      (showCheck engine text value declared name).behind (noted verbose constants read) := by
  rw [run, asks]
  exact withEngine_eq_behind loaded _

/-- **The check stops where the text cannot be compiled.** -/
theorem stopsWith_behind_iff (supported : engine.SupportsPatterns declared.fieldType text)
    (noted : List String) :
    StopsWith "Configuration error:" noted
        ((showCheck engine text value declared name).behind noted) ↔
      ¬ ∃ validator, engine.compile text declared.fieldType name = .ok validator := by
  constructor
  · rintro ⟨-, first, more, errors, -⟩ compiles
    rw [Screen.behind, errors_showCheck_of_ok compiles] at errors
    simp at errors
  · intro uncompiled
    obtain ⟨fault, fails⟩ := exists_error_iff.mpr uncompiled
    obtain ⟨first, more, isLines, begins⟩ := @exists_screenLines_eq_cons "Configuration error:"
      (by decide) (by decide) (" " ++ shownCell fault.message)
    have joined : "Configuration error: " ++ shownCell fault.message =
        "Configuration error:" ++ (" " ++ shownCell fault.message) := by
      rw [← String.append_assoc]
      rfl
    rw [showCheck_eq_of_error fails (isConfiguration_of_compile supported fails), joined, isLines]
    exact ⟨rfl, first, more, rfl, begins⟩

/-- **The table of rules and the check of a value agree.**  The table fails exactly where the
    check stops before it looks at the value; and where the text can be read, the check stops
    with the status of the first row that fails. -/
theorem rules_agree_with_check
    (asksRules : request words = .run verbose (.rules text constants (some declared)))
    (asksCheck : request words' = .run verbose' (.check text value constants declared name))
    (loaded : (prepare constants read).2 = .ok engine)
    (supported : engine.SupportsPatterns declared.fieldType text) :
    ((run words read).code = 0 ↔
        ¬ StopsWith "Configuration error:" (noted verbose' constants read) (run words' read)) ∧
      ((∃ rules, Rule.parse text = .ok rules ∧ ∃ rule ∈ rules, ∀ validator,
          engine.buildRule declared.fieldType rule ≠ .ok validator) →
        ∃ status, firstFailing? (run words read).table = some status ∧
          run words' read =
            { code := 1
              errors := noted verbose' constants read ++
                screenLines ("Configuration error: " ++ status) }) := by
  rw [run_rules_eq_behind asksRules loaded, run_check_eq_behind asksCheck loaded]
  constructor
  · rw [stopsWith_behind_iff supported, not_not]
    exact code_showRules_eq_zero_iff supported
  · rintro ⟨rules, isRead, rule, member, unbuilt⟩
    obtain ⟨rule, fault, first⟩ := exists_firstFails_iff.mpr
      ⟨rule, member, exists_error_iff.mpr fun ⟨validator, builds⟩ => unbuilt validator builds⟩
    have fails : engine.compile text declared.fieldType name = .error fault :=
      compile_eq_error_of_firstFails isRead first
    refine ⟨shownCell fault.message, firstFailing?_showRules isRead supported first, ?_⟩
    rw [showCheck_eq_of_error fails (isConfiguration_of_compile supported fails), Screen.behind]

/-- The second of these rules is unknown, and the third asks for text. -/
def oneUnknown : String := "max(1), nope(2), len(3)"

def noFiles : FilePath → FileContent := fun _ => .error .notFound

theorem names_oneUnknown : (Rule.parse oneUnknown).toOption.map (·.map (·.name)) =
    some ["max", "nope", "len"] := by
  decide +kernel

theorem supportsPatterns_oneUnknown :
    (Engine.create true).1.SupportsPatterns Declared.int.fieldType oneUnknown := by
  intro rules isRead rule member known pattern fails
  obtain ⟨-, isRegex, -⟩ :=
    Engine.of_buildRule_eq_unsupported (Engine.onlyBuiltins_create true) fails
  obtain ⟨others, isRead', named⟩ := exists_of_toOption_map names_oneUnknown
  cases isRead.symm.trans isRead'
  have isNamed : rule.name ∈ ["max", "nope", "len"] := named ▸ List.mem_map_of_mem member
  simp only [List.mem_cons, List.not_mem_nil, or_false] at isNamed
  rcases isNamed with isMax | isNope | isLen
  · rw [isMax] at isRegex
    cases isRegex
  · rw [isNope] at isRegex
    cases isRegex
  · rw [isLen] at isRegex
    cases isRegex

theorem rules_agree_with_check_of_unknown_rule :
    ((run ["rules", oneUnknown, "--type", "int"] noFiles).code = 0 ↔
        ¬ StopsWith "Configuration error:" []
          (run ["check", oneUnknown, "5", "--type", "int"] noFiles)) ∧
      ∃ status,
        firstFailing? (run ["rules", oneUnknown, "--type", "int"] noFiles).table = some status ∧
          run ["check", oneUnknown, "5", "--type", "int"] noFiles =
            { code := 1, errors := screenLines ("Configuration error: " ++ status) } := by
  have asksRules : request ["rules", oneUnknown, "--type", "int"] =
      .run false (.rules oneUnknown none (some .int)) := by decide +kernel
  have asksCheck : request ["check", oneUnknown, "5", "--type", "int"] =
      .run false (.check oneUnknown "5" none .int "value") := by decide +kernel
  have loaded : (prepare none noFiles).2 = .ok (Engine.create true).1 := rfl
  obtain ⟨agree, first⟩ :=
    rules_agree_with_check asksRules asksCheck loaded supportsPatterns_oneUnknown
  obtain ⟨rules, isRead, named⟩ := exists_of_toOption_map names_oneUnknown
  obtain ⟨rule, member, isNope⟩ : ∃ rule ∈ rules, rule.name = "nope" :=
    List.mem_map.mp (named ▸ (by decide : "nope" ∈ ["max", "nope", "len"]))
  refine ⟨agree, first ⟨rules, isRead, rule, member, fun validator builds => ?_⟩⟩
  obtain ⟨factory, arguments, known, -⟩ := Engine.buildRule_eq_ok_iff.mp builds
  rw [isNope] at known
  cases known

end CommandLine

end FieldRules
