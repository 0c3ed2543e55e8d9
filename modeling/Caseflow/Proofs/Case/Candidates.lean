import Caseflow.Case.Forecast
import Caseflow.Proofs.Case.Leniency

/-!
# Whom a prediction tries

Who may act is decided in two ways. An attempt asks whether any entry of the action's list covers
its actor, who has the texts among the given roles. A prediction goes through the entries and
gathers, for each of them, the actors that it may stand for. Both come to the same actors, and a
prediction tries each of them once.
-/
namespace Caseflow.Case

open Scenario

variable {c : Case} {actor entry key role : String} {keys more allowed : List String}
  {profile : Json}

theorem hasRole_eq_contains : hasRole profile role = (rolesOf profile).contains role := by
  rw [Bool.eq_iff_iff, List.contains_iff_mem, hasRole, rolesOf]
  generalize profile.field? "role" = own
  split
  · rw [beq_iff_eq, List.mem_singleton, eq_comm]
  · simp only [List.any_eq_true, beq_iff_eq, List.mem_filterMap]
  · simp

example : hasRole (.obj [("role", .arr [.str "buyer", .null, .str "signer"])]) "signer" = true := by
  decide

theorem mayStandFor_eq_isCovered :
    mayStandFor entry key profile = isCovered entry key profile true := by
  rw [mayStandFor, isCovered, hasRole_eq_contains, Bool.true_and, isService]

theorem mem_actorsOf :
    actor ∈ c.actorsOf entry ↔
      ∃ profile, c.actors.get? actor = some profile ∧
        isCovered entry actor profile true = true := by
  simp [actorsOf, mayStandFor_eq_isCovered, Dict.mem_entries_iff]

theorem mem_addKeys : key ∈ addKeys keys more ↔ key ∈ keys ∨ key ∈ more := by
  unfold addKeys
  induction more generalizing keys with
  | nil => simp
  | cons first rest ih =>
    rw [List.foldl_cons, ih, List.mem_cons]
    split
    · rename_i hknown
      rw [List.contains_iff_mem] at hknown
      constructor
      · exact Or.imp_right .inr
      · rintro (hold | rfl | hrest)
        · exact .inl hold
        · exact .inl hknown
        · exact .inr hrest
    · rw [List.mem_append, List.mem_singleton, or_assoc]

theorem nodup_addKeys (h : keys.Nodup) : (addKeys keys more).Nodup := by
  unfold addKeys
  induction more generalizing keys with
  | nil => exact h
  | cons first rest ih =>
    rw [List.foldl_cons]
    split
    · exact ih h
    · rename_i hnew
      rw [List.contains_iff_mem] at hnew
      exact ih (List.nodup_append.2 ⟨h, List.nodup_singleton first, by grind⟩)

/-- The candidates are the actors of the case who may act while predicting. -/
theorem mem_candidateActors :
    actor ∈ c.candidateActors allowed ↔
      ∃ profile, c.actors.get? actor = some profile ∧
        isAuthorized allowed actor profile true = true := by
  have step (allowed keys : List String) :
      actor ∈ allowed.foldl (fun keys entry => addKeys keys (c.actorsOf entry)) keys ↔
        actor ∈ keys ∨ ∃ entry ∈ allowed, actor ∈ c.actorsOf entry := by
    induction allowed generalizing keys with
    | nil => simp
    | cons entry rest ih => simp [ih, mem_addKeys, or_assoc]
  rw [candidateActors, step, or_iff_right List.not_mem_nil]
  simp only [mem_actorsOf, isAuthorized, List.any_eq_true]
  constructor
  · rintro ⟨entry, hentry, profile, hprofile, hcovered⟩
    exact ⟨profile, hprofile, entry, hentry, hcovered⟩
  · rintro ⟨profile, hprofile, entry, hentry, hcovered⟩
    exact ⟨entry, hentry, profile, hprofile, hcovered⟩

theorem nodup_candidateActors (c : Case) (allowed : List String) :
    (c.candidateActors allowed).Nodup := by
  have step (allowed keys : List String) (h : keys.Nodup) :
      (allowed.foldl (fun keys entry => addKeys keys (c.actorsOf entry)) keys).Nodup := by
    induction allowed generalizing keys with
    | nil => exact h
    | cons entry rest ih => exact ih _ (nodup_addKeys h)
  exact step allowed [] List.nodup_nil

/-- The candidates of a list are the actors of the case who may act while predicting, each of them
once. So a prediction tries exactly the actors of the case to whom it would not refuse the action
itself. -/
theorem candidates_authorized (c : Case) (allowed : List String) :
    (c.candidateActors allowed).Nodup ∧
      (∀ actor, actor ∈ c.candidateActors allowed ↔
        ∃ profile, c.actors.get? actor = some profile ∧
          isAuthorized allowed actor profile true = true) ∧
      ∀ (engine : Engine) (offer : Offer) (action : Action) (move : Move),
        move.actor.key ∈ c.candidateActors offer.actors ↔
          ∃ profile, c.actors.get? move.actor.key = some profile ∧
            engine.admissionRefusals offer action move profile true = [] := by
  refine ⟨nodup_candidateActors c allowed, fun actor => mem_candidateActors,
    fun engine offer action move => ?_⟩
  simp only [mem_candidateActors, admissionRefusals_predicting_eq_nil_iff]

end Caseflow.Case
