import Caseflow.Proofs.Case.Authority
import Caseflow.Proofs.Case.Takeover

/-!
# What predicting leaves out

Where the updates of an action have no stubs, an attempt is decided in the same way while
predicting, but for the checks that are left out then. So an attempt that is taken is predicted with
the same result, and one that is predicted is taken with that result or refused.
-/
namespace Caseflow

/-- The updates of an action write the same while predicting. -/
def Scenario.Action.Stubless (a : Scenario.Action) : Prop := ∀ u ∈ a.updates, u.stub = none

instance (a : Scenario.Action) : Decidable a.Stubless :=
  inferInstanceAs (Decidable (∀ u ∈ a.updates, u.stub = none))

/-- The updates of all actions write the same while predicting. -/
def Scenario.Stubless (s : Scenario) : Prop := ∀ p ∈ s.actions.entries, p.2.Stubless

instance (s : Scenario) : Decidable s.Stubless :=
  inferInstanceAs (Decidable (∀ p ∈ s.actions.entries, p.2.Stubless))

namespace Case

open Scenario Time

variable {α β : Type} {engine : Engine} {c next : Case} {move : Move} {now : Timestamp}
  {profile : Json} {key entry : String} {allowed : List String}

/-- A decision that gives what a more lenient one gives, except that it may refuse instead. -/
structure Stricter (strict lenient : Decision α) : Prop where
  kept : ∀ a, strict = .ok a → lenient = .ok a
  limited : ∀ a, lenient = .ok a → strict = .ok a ∨ ∃ reasons, strict = .error (.refused reasons)

theorem stricter_refl (d : Decision α) : Stricter d d := ⟨fun _ h => h, fun _ h => .inl h⟩

theorem stricter_refuse {more fewer : List Refusal} (h : more = [] → fewer = []) :
    Stricter (refuse more) (refuse fewer) where
  kept _ hmore := refuse_eq_ok_iff.2 (h (refuse_eq_ok_iff.1 hmore))
  limited _ _ := by
    unfold refuse
    split
    · exact .inl rfl
    · exact .inr ⟨more, rfl⟩

theorem Stricter.bind {strict lenient : Decision α} {f g : α → Decision β}
    (h : Stricter strict lenient) (hnext : ∀ a, lenient = .ok a → Stricter (f a) (g a)) :
    Stricter (strict >>= f) (lenient >>= g) where
  kept b hb := by
    obtain ⟨a, ha, hb⟩ := bind_eq_ok_iff.1 hb
    have hlenient := h.kept a ha
    exact bind_eq_ok_iff.2 ⟨a, hlenient, (hnext a hlenient).kept b hb⟩
  limited b hb := by
    obtain ⟨a, ha, hb⟩ := bind_eq_ok_iff.1 hb
    obtain hsame | ⟨reasons, hrefused⟩ := h.limited a ha
    · rw [hsame]
      exact (hnext a ha).limited b hb
    · rw [hrefused]
      exact .inr ⟨reasons, rfl⟩

theorem applyUpdate_predicting {u : Update} (h : u.stub = none) (ctx : Json) :
    applyUpdate engine.regex true ctx u = applyUpdate engine.regex false ctx u := by
  have hsource : sourceOf true u = sourceOf false u := by simp [sourceOf, h]
  rw [applyUpdate, applyUpdate, hsource]

theorem applyUpdates_predicting {updates : List Update} (h : ∀ u ∈ updates, u.stub = none)
    (ctx : Json) :
    applyUpdates engine.regex true ctx updates = applyUpdates engine.regex false ctx updates := by
  induction updates generalizing ctx with
  | nil => rfl
  | cons u rest ih =>
    obtain ⟨hu, hrest⟩ := List.forall_mem_cons.1 h
    rw [applyUpdates, applyUpdates, applyUpdate_predicting hu]
    cases applyUpdate engine.regex false ctx u with
    | error e => rfl
    | ok next => exact ih hrest next

theorem isCovered_predicting (h : isCovered entry key profile false = true) :
    isCovered entry key profile true = true := by
  rw [isCovered, Bool.false_and, Bool.or_false] at h
  rw [isCovered, h, Bool.true_or]

theorem isAuthorized_predicting (h : isAuthorized allowed key profile false = true) :
    isAuthorized allowed key profile true = true := by
  obtain ⟨entry, hentry, hcovered⟩ := List.any_eq_true.1 h
  exact List.any_eq_true.2 ⟨entry, hentry, isCovered_predicting hcovered⟩

theorem admissionRefusals_predicting_eq_nil_iff {offer : Offer} {action : Action} :
    engine.admissionRefusals offer action move profile true = [] ↔
      isAuthorized offer.actors move.actor.key profile true = true := by
  simp [Engine.admissionRefusals]

theorem stricter_admission (engine : Engine) (c : Case) (move : Move) :
    Stricter (engine.admission c move false) (engine.admission c move true) := by
  refine (stricter_refl _).bind fun offer _ => ?_
  refine (stricter_refl _).bind fun action _ => ?_
  refine (stricter_refl _).bind fun profile _ => ?_
  refine (stricter_refuse fun hnone => ?_).bind fun _ _ => stricter_refl _
  rw [admissionRefusals_predicting_eq_nil_iff]
  exact isAuthorized_predicting (isAuthorized_of_admissionRefusals hnone)

theorem stricter_absorb (engine : Engine) (c : Case) (ctx : Json) (key : String) :
    Stricter (engine.absorb c ctx key false) (engine.absorb c ctx key true) := by
  refine (stricter_refuse fun hnone => ?_).bind fun _ _ => stricter_refl _
  rw [List.append_eq_nil_iff] at hnone
  rw [if_pos rfl, List.append_nil]
  exact hnone.1

/-- Deciding for good is stricter than predicting. -/
theorem stricter_decide (engine : Engine) (now : Timestamp)
    (h : ∀ action, c.scenario.actions.get? (c.fullKey move.action) = some action →
      action.Stubless) :
    Stricter (engine.decide c move now false) (engine.decide c move now true) := by
  refine (stricter_admission engine c move).bind fun admission hadmit => ?_
  obtain ⟨_, action, _, -, haction, -, -, rfl⟩ := admission_eq_ok_iff.1 hadmit
  simp only [applyUpdates_predicting (h action haction)]
  refine (stricter_refl _).bind fun ctx _ => ?_
  exact (stricter_absorb engine c ctx move.actor.key).bind fun next _ => stricter_refl _

/-- The manager grades with at most five points, and a grade is a pass from three points on. -/
def gradingDocument : Json := .obj [
  ("actions", .obj [("grade", .obj [("actor", .str "manager"),
    ("response", .obj [("maximum", .num (.int 5)), ("type", .str "integer")]),
    ("update", .str "vars.grade")])]),
  ("actors", .obj [("manager", .null)]),
  ("states", .obj [("initial", .obj [("transitions", .arr [
    .obj [("goto", .str "(passed)"), ("if", .obj [("<ref>", .str "vars.grade >= `3`")]),
      ("on", .str "grade")],
    .obj [("goto", .str "(failed)"), ("on", .str "grade")]])])]),
  ("vars", .obj [("grade", .str "integer")])]

def gradingMove : Move := ⟨"grade", ⟨"manager", some "m1"⟩, some (.num (.int 4))⟩

theorem grading_shown :
    (attempted gradingDocument gradingMove).map (fun (_, admission, next) =>
      (decide admission.action.Stubless, next.current.key)) = some (true, "(passed)") := by
  decide +kernel

/-- An attempt whose updates have no stubs is predicted as it is taken, and taken as it is predicted
unless it is refused. So both ways of deciding it agree where both succeed. -/
theorem predicted_as_taken
    (h : ∀ action, c.scenario.actions.get? (c.fullKey move.action) = some action →
      action.Stubless) :
    (∀ next, engine.decide c move now false = .ok next →
      engine.decide c move now true = .ok next) ∧
    (∀ next, engine.decide c move now true = .ok next →
      engine.decide c move now false = .ok next ∨
        ∃ reasons, engine.decide c move now false = .error (.refused reasons)) ∧
    ∀ taken predicted, engine.decide c move now false = .ok taken →
      engine.decide c move now true = .ok predicted → taken = predicted := by
  have hstricter := stricter_decide engine now h
  refine ⟨hstricter.kept, hstricter.limited, ?_⟩
  intro taken predicted htaken hpredicted
  have hsame := hstricter.kept taken htaken
  rw [hpredicted] at hsame
  exact (Except.ok.inj hsame).symm

/-- The grade of the manager is predicted as it is given. -/
theorem grading_predicted :
    ∃ c next, Reachable (Engine.standard c.scenario) c.scenario c ∧
      next.current.key = "(passed)" ∧
      (Engine.standard c.scenario).decide c gradingMove (afterSeconds 1) true = .ok next := by
  obtain ⟨⟨c, admission, next⟩, hattempted, hshown⟩ := Option.map_eq_some_iff.1 grading_shown
  obtain ⟨-, hreachable, hadmit, hnext⟩ := of_attempted hattempted
  obtain ⟨hstubless, hpassed⟩ := Prod.mk.inj hshown
  obtain ⟨_, action, _, -, haction, -, -, rfl⟩ := admission_eq_ok_iff.1 hadmit
  refine ⟨c, next, hreachable, hpassed, ?_⟩
  refine (predicted_as_taken ?_).1 next hnext
  intro found hfound
  rw [haction, Option.some.injEq] at hfound
  exact hfound ▸ of_decide_eq_true hstubless

end Case
end Caseflow
