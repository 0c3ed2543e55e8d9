import Caseflow.Case.Error
import Caseflow.Proofs.Outcome

/-!
# Outcomes of decisions

When the parts that results and decisions are put together from succeed, and when they refuse.
-/
namespace Caseflow.Case

variable {α β : Type}

theorem orFault_eq_ok_iff {r : Result α} {a : α} : orFault r = .ok a ↔ r = .ok a := by
  cases r with
  | error e => exact iff_of_false (fun h => nomatch h) (fun h => nomatch h)
  | ok b =>
    constructor
    · rintro ⟨⟩
      rfl
    · rintro ⟨⟩
      rfl

theorem orFault_ne_refused (r : Result α) (reasons : List Refusal) :
    orFault r ≠ .error (.refused reasons) := by
  cases r with
  | error e => exact nofun
  | ok a => exact nofun

theorem orRefuse_eq_ok_iff {reason : Refusal} {o : Option α} {a : α} :
    orRefuse reason o = .ok a ↔ o = some a := by
  cases o with
  | none => simp [orRefuse]
  | some b => simp [orRefuse]

theorem orFail_eq_ok_iff {e : Error} {o : Option α} {a : α} :
    orFail e o = .ok a ↔ o = some a := by
  cases o with
  | none => simp [orFail]
  | some b => simp [orFail]

theorem orRefuse_eq_refused_iff {reason : Refusal} {o : Option α} {reasons : List Refusal} :
    orRefuse reason o = .error (.refused reasons) ↔ o = none ∧ reasons = [reason] := by
  cases o with
  | none => simp [orRefuse, eq_comm]
  | some a => simp [orRefuse]

theorem refuse_eq_refused_iff {reasons given : List Refusal} :
    refuse reasons = .error (.refused given) ↔ given = reasons ∧ given ≠ [] := by
  cases reasons with
  | nil => simp [refuse]
  | cons first rest =>
    rw [refuse, if_neg (by simp)]
    constructor
    · rintro ⟨⟩
      exact ⟨rfl, List.cons_ne_nil _ _⟩
    · rintro ⟨rfl, -⟩
      rfl

theorem refuse_of_ne_nil {reasons : List Refusal} (h : reasons ≠ []) :
    refuse reasons = .error (.refused reasons) := refuse_eq_refused_iff.2 ⟨rfl, h⟩

end Caseflow.Case
