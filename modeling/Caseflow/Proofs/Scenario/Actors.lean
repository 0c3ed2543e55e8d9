import Caseflow.Proofs.Json.Fields
import Caseflow.Scenario.Actor

/-!
# The schemas of actors

An actor is bound to the schema that is declared under its own name or else, if it is numbered,
under the name of its template. The schema that is looked up for it is this one, except that a
schema for everybody is found before that of a template with a greater name.
-/
namespace Caseflow.Scenario

variable {s : Scenario} {key pattern template : String} {schema : Json}

theorem toList_of_templateName? (h : templateName? key = some template) :
    template.toList = (key.toList.reverse.dropWhile Json.isDigit).reverse ++ ['*'] := by
  unfold templateName? at h
  simp only at h
  split at h
  · cases h
    rw [String.toList_ofList]
  · cases h

theorem endsWith_of_templateName? (h : templateName? key = some template) :
    Text.endsWith "*" template = true := by
  rw [Text.endsWith, List.isSuffixOf_iff_suffix, toList_of_templateName? h]
  exact List.suffix_append _ _

/-- A template is not numbered itself. -/
theorem templateName?_of_endsWith (h : Text.endsWith "*" key = true) :
    templateName? key = none := by
  rw [Text.endsWith, List.isSuffixOf_iff_suffix] at h
  obtain ⟨stem, hstem⟩ := h
  have hstar : key.toList.reverse.dropWhile Json.isDigit = key.toList.reverse := by
    rw [← hstem, List.reverse_append]
    rfl
  rw [templateName?, hstar, List.reverse_reverse, String.length_toList]
  exact if_neg (Nat.lt_irrefl _)

/-- Besides its own name, the star and its template cover an actor. -/
theorem matchesActor_iff : matchesActor pattern key = true ↔
    pattern = "*" ∨ pattern = key ∨ templateName? key = some pattern := by
  simp only [matchesActor, Bool.or_eq_true, Bool.and_eq_true, beq_iff_eq, or_assoc]
  exact or_congr_right (or_congr_right (and_iff_right_of_imp endsWith_of_templateName?))

/-- The schema that an actor is bound to: its own, or that of its template. -/
def boundSchema? (s : Scenario) (key : String) : Option Json :=
  (s.actors.get? key).or ((templateName? key).bind s.actors.get?)

/-- An actor is not declared, and a schema for everybody comes before its template. -/
def StarFirst (s : Scenario) (key : String) : Prop :=
  s.actors.get? key = none ∧ s.actors.contains "*" = true ∧
    ∃ template, templateName? key = some template ∧ "*" < template

/-- An actor that is not declared has the schema of the first declared template that covers it. -/
theorem actorSchema?_of_first (hnone : s.actors.get? key = none)
    (hpattern : s.actors.get? pattern = some schema) (hends : Text.endsWith "*" pattern = true)
    (hcovers : matchesActor pattern key = true)
    (hfirst : ∀ other, other < pattern → s.actors.contains other = true →
      matchesActor other key = false) :
    s.actorSchema? key = some schema := by
  have hfound : s.actors.entries.find? (fun p => Text.endsWith "*" p.1 && matchesActor p.1 key) =
      some (pattern, schema) := by
    refine Assoc.find?_of_first s.actors.ascend (Dict.mem_entries_iff.2 hpattern) ?_ ?_
    · rw [hends, hcovers, Bool.and_true]
    · intro q hq hless
      have hthere := Dict.contains_iff.2 ⟨q.2, Dict.mem_entries_iff.1 hq⟩
      rw [hfirst q.1 hless hthere, Bool.and_false]
  rw [actorSchema?, hnone]
  exact congrArg (Option.map Prod.snd) hfound

theorem not_contains_of_get? (hnone : s.actors.get? key = none) :
    ¬ s.actors.contains key = true := by
  rw [Dict.contains, hnone]
  exact Bool.false_ne_true

theorem StarFirst.actorSchema?_eq (h : s.StarFirst key) :
    s.actorSchema? key = s.actors.get? "*" := by
  obtain ⟨hnone, hstar, template, htemplate, hbefore⟩ := h
  obtain ⟨schema, hschema⟩ := Dict.contains_iff.1 hstar
  rw [hschema]
  refine actorSchema?_of_first hnone hschema (by decide) (matchesActor_iff.2 (.inl rfl)) ?_
  intro other hless hthere
  rw [Bool.eq_false_iff]
  intro hcovers
  obtain rfl | rfl | hother := matchesActor_iff.1 hcovers
  · exact Std.lt_irrefl hless
  · exact not_contains_of_get? hnone hthere
  · cases htemplate.symm.trans hother
    exact Std.lt_irrefl (String.lt_trans hless hbefore)

/-- Unless the schema for everybody comes first, an actor has the schema that it is bound to. -/
theorem actorSchema?_of_bound (hbound : s.boundSchema? key = some schema)
    (h : ¬ s.StarFirst key) : s.actorSchema? key = some schema := by
  rw [boundSchema?] at hbound
  cases hown : s.actors.get? key with
  | some own =>
    rw [hown, Option.some_or] at hbound
    rw [actorSchema?, hown]
    exact hbound
  | none =>
    rw [hown, Option.none_or] at hbound
    obtain ⟨template, htemplate, hschema⟩ := Option.bind_eq_some_iff.1 hbound
    refine actorSchema?_of_first hown hschema (endsWith_of_templateName? htemplate)
      (matchesActor_iff.2 (.inr (.inr htemplate))) ?_
    intro other hless hthere
    rw [Bool.eq_false_iff]
    intro hcovers
    obtain rfl | rfl | hother := matchesActor_iff.1 hcovers
    · exact h ⟨hown, hthere, template, htemplate, hless⟩
    · exact not_contains_of_get? hown hthere
    · cases htemplate.symm.trans hother
      exact Std.lt_irrefl hless

end Caseflow.Scenario
