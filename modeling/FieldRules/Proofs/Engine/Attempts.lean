/-
  FieldRules/Proofs/Engine/Attempts.lean
  ======================================
  **Attempts at a validator leave no trace.**

  Registering a record in vain leaves the engine as it was, wherever in the
  building it breaks off, and so does compiling rule text, in vain or not: a
  validator is handed over only when it is complete, and nothing of it is kept
  before.  A session from which such a step is left out therefore answers all
  other steps alike, now and later.

  Whether a record can be registered depends on the engine of the moment alone,
  so an attempt that failed is no hindrance: as soon as the engine has what the
  record asks for (`Engine.Supplies`), registering it succeeds, with the
  validator of a first registration.
-/
import FieldRules.Proofs.Engine.Demands
import FieldRules.Proofs.Engine.Reading

namespace FieldRules

/-! ### Attempts -/

namespace Engine

/-- An attempt at a validator: a record is registered in vain, or rule text is compiled. -/
inductive IsAttempt (engine : Engine) : Operation → Prop
  | registerRecord {subject : Subject} {error : Error}
      (fails : engine.registerSubject subject = .error error) :
      IsAttempt engine (.registerRecord subject)
  | compile (rules : String) (type : FieldType) (name : String) :
      IsAttempt engine (.compile rules type name)

variable {engine : Engine} {attempt : Operation}

theorem perform_of_isAttempt (isAttempt : engine.IsAttempt attempt) :
    engine.perform attempt = engine := by
  cases isAttempt with
  | registerRecord fails =>
    unfold registerSubject at fails
    rw [perform, fails]
    rfl
  | compile rules type name => rfl

end Engine

/-! ### Sessions with an attempt -/

namespace History

variable {past : History} {attempt : Operation} {subject : Subject}

/-- **Registering a record succeeds** where its class is registered, or where it can be
    described and the engine has what the description asks for. -/
theorem exists_registerSubject_iff :
    (∃ registration, past.engine.registerSubject subject = .ok registration) ↔
      past.engine.record? subject.cls ≠ none ∨
        ∃ description, subject.description = .ok description ∧
          past.engine.Supplies description := by
  simp only [← Engine.exists_buildRecord_iff_supplies]
  constructor
  · rintro ⟨registration, done⟩
    rcases Engine.registerRecord_eq_ok_iff.mp done with
      ⟨validator, there, -⟩ | ⟨-, description, validator, described, built, -⟩
    · left
      simp [there]
    · exact .inr ⟨description, described, validator, built⟩
  · intro able
    by_cases fresh : past.engine.record? subject.cls = none
    · rcases able with there | ⟨description, described, validator, built⟩
      · exact absurd fresh there
      · exact ⟨_, Engine.registerRecord_eq_ok_iff.mpr
          (.inr ⟨fresh, description, validator, described, built, rfl⟩)⟩
    · obtain ⟨validator, there⟩ := Option.ne_none_iff_exists'.mp fresh
      exact ⟨_, Engine.registerRecord_eq_ok_iff.mpr (.inl ⟨validator, there, rfl⟩)⟩

/-- A class that is registered for the first time gets a validator that reads its rules
    as they stand at that moment. -/
theorem run_passes_iff_of_registerSubject {registration : Engine.Registration}
    (done : past.engine.registerSubject subject = .ok registration)
    (fresh : past.engine.record? subject.cls = none) :
    registration.reused = false ∧ ∃ description, subject.description = .ok description ∧
      ∀ value, (registration.validator.run value).Passes ↔
        value.isInstanceOf subject.cls = true ∧ past.Accepts description value := by
  rcases Engine.registerRecord_eq_ok_iff.mp done with
    ⟨validator, there, -⟩ | ⟨-, description, validator, described, built, rfl⟩
  · rw [fresh] at there
    cases there
  · refine ⟨rfl, description, described, fun value => ?_⟩
    have registered : (past.next (.registerRecord subject)).Registered past description validator :=
      .now subject described fresh built
    have cls : validator.cls = subject.cls :=
      (Engine.buildRecord_eq_ok_iff.mp built).1.trans (subject.cls_eq _ described)
    rw [← cls]
    exact registered.run_passes_iff value

/-- **An attempt at a validator leaves no trace.**  With it or without it a session comes to
    the same engine and gives the same answers to all other operations, whatever they are.
    And it stands in nobody's way: at any later moment registering a record, the one that
    was attempted included, succeeds as soon as the engine has what it asks for, and does
    what it would do if there had been no attempt.  Where the class is not registered yet, the
    validator is new and passes what its description accepts as the rules read now. -/
theorem attempt_leaves_no_trace (isAttempt : past.engine.IsAttempt attempt)
    (later : List Operation) :
    ((past.next attempt).followedBy later).engine = (past.followedBy later).engine ∧
    (∃ answers, (past.followedBy later).answers = past.answers ++ answers ∧
      ((past.next attempt).followedBy later).answers =
        past.answers ++ past.engine.answer attempt :: answers) ∧
    ∀ subject : Subject,
      ((∃ registration, ((past.next attempt).followedBy later).engine.registerSubject subject =
          .ok registration) ↔
        (past.followedBy later).engine.record? subject.cls ≠ none ∨
          ∃ description, subject.description = .ok description ∧
            (past.followedBy later).engine.Supplies description) ∧
      ∀ registration, ((past.next attempt).followedBy later).engine.registerSubject subject =
          .ok registration →
        (past.followedBy later).engine.registerSubject subject = .ok registration ∧
        ((past.followedBy later).engine.record? subject.cls = none →
          registration.reused = false ∧ ∃ description, subject.description = .ok description ∧
            ∀ value, (registration.validator.run value).Passes ↔
              value.isInstanceOf subject.cls = true ∧
                (past.followedBy later).Accepts description value) := by
  have sameEngine : (past.next attempt).engine = past.engine :=
    Engine.perform_of_isAttempt isAttempt
  have sameLater :
      ((past.next attempt).followedBy later).engine = (past.followedBy later).engine := by
    rw [engine_followedBy, engine_followedBy, sameEngine]
  refine ⟨sameLater, ⟨past.engine.answersTo later, answers_followedBy past later, ?_⟩, ?_⟩
  · rw [answers_followedBy, sameEngine, answers, List.append_assoc, List.singleton_append]
  · intro subject
    rw [sameLater]
    refine ⟨exists_registerSubject_iff, ?_⟩
    intro registration done
    exact ⟨done, fun fresh => run_passes_iff_of_registerSubject done fresh⟩

/-- Addresses are not registered yet, so persons cannot be. -/
def unsettled : History := (start true).next (.registerInteger (.text "LOWEST") (.integer 1))

/-- Persons can be registered once addresses are, whether or not it was tried before. -/
theorem attempt_leaves_no_trace_of_person :
    unsettled.engine.IsAttempt (.registerRecord (.ofDescription person)) ∧
      ∃ registration,
        ((unsettled.next (.registerRecord (.ofDescription person))).followedBy
          [.registerRecord (.ofDescription address)]).engine.registerSubject
            (.ofDescription person) = .ok registration ∧
        registration.reused = false := by
  have fails : ∃ error, unsettled.engine.registerSubject (.ofDescription person) = .error error :=
    exists_error_iff.mpr (by decide +kernel)
  obtain ⟨error, fails⟩ := fails
  have isAttempt : unsettled.engine.IsAttempt (.registerRecord (.ofDescription person)) :=
    .registerRecord fails
  obtain ⟨-, -, again⟩ :=
    attempt_leaves_no_trace isAttempt [.registerRecord (.ofDescription address)]
  obtain ⟨able, first⟩ := again (.ofDescription person)
  have supplied : ∃ registration, (unsettled.followedBy
      [.registerRecord (.ofDescription address)]).engine.registerSubject (.ofDescription person) =
        .ok registration := by
    decide +kernel
  obtain ⟨registration, done⟩ := able.mpr (exists_registerSubject_iff.mp supplied)
  have fresh : (unsettled.followedBy
      [.registerRecord (.ofDescription address)]).engine.record? personClass = none := by
    rw [← Option.not_isSome_iff_eq_none]
    decide +kernel
  exact ⟨isAttempt, registration, done, ((first registration done).2 fresh).1⟩

end History

end FieldRules
