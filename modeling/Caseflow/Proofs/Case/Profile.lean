import Caseflow.Proofs.Case.Reachable
import Caseflow.Proofs.Scenario.Actors

/-!
# The actors that a case starts with

Each actor that there is once a start is taken up is made from the schema it is bound to, with what
the start gives put over it. The engine checks it against the schema that is looked up for it. That
is the same one, except where a schema for everybody comes before the template of the actor.
-/
namespace Caseflow.Case

open Scenario

variable {s : Scenario} {key : String} {base profile : Json} {given : Dict Json}

/-- An actor with what a start gives put over it. -/
def endowed (base given : Json) : Json :=
  match base, given with
  | .obj base, .obj given => .obj (Assoc.extend base given)
  | base, _ => base

theorem get?_declaredActors (s : Scenario) (key : String) :
    (declaredActors s).get? key = if Text.endsWith "*" key then none
      else (s.actors.get? key).map fun schema => .obj (actorBase key schema) := by
  let declare (key : String) (schema : Json) : Json := .obj (actorBase key schema)
  have hascend := Dict.keysAscend_map (f := declare)
    (s.actors.ascend.filter fun p => !Text.endsWith "*" p.1)
  have hentries : (declaredActors s).entries = _ := Dict.entries_ofList hascend
  rw [Dict.get?, hentries, Assoc.get?_mapWithKey declare,
    Assoc.get?_filter (fun key => !Text.endsWith "*" key), Dict.get?]
  cases Text.endsWith "*" key with
  | false => rfl
  | true => rfl

theorem nameActor_of_named {actors : Dict Json} {v : Json}
    (h : namedActor? s actors key = some base) :
    (nameActor s actors key v).1 = actors.insert key (endowed base v) := by
  unfold nameActor
  rw [h]
  cases base with
  | obj _ => cases v <;> rfl
  | _ => cases v <;> rfl

theorem get?_nameActor (s : Scenario) (actors : Dict Json) (key other : String) (v : Json) :
    (nameActor s actors key v).1.get? other =
      if key = other then (namedActor? s actors key).map (endowed · v)
      else actors.get? other := by
  cases hnamed : namedActor? s actors key with
  | none =>
    have hsame : (nameActor s actors key v).1 = actors := by
      unfold nameActor
      rw [hnamed]
    have hnone := (Option.or_eq_none_iff.1 hnamed).1
    rw [hsame, Option.map_none]
    split
    · rename_i hother
      rw [← hother, hnone]
    · rfl
  | some base => rw [nameActor_of_named hnamed, Dict.get?_insert, Option.map_some]

/-- Each actor is named once, and the others do not matter to it. -/
theorem get?_nameActors {named : List (String × Json)} (h : KeysAscend named) (s : Scenario)
    (actors : Dict Json) (key : String) :
    (nameActors s actors named).1.get? key =
      (Assoc.get? key named).elim (actors.get? key) fun v =>
        (namedActor? s actors key).map (endowed · v) := by
  induction named generalizing actors with
  | nil => rfl
  | cons p rest ih =>
    obtain ⟨name, v⟩ := p
    obtain ⟨hhead, hrest⟩ := List.pairwise_cons.1 h
    rw [nameActors]
    simp only
    rw [ih hrest, Assoc.get?]
    by_cases hname : name = key
    · -- those named after this one have greater keys
      subst hname
      rw [Assoc.get?_of_below hhead, if_pos rfl, Option.elim_none, Option.elim_some,
        get?_nameActor, if_pos rfl]
    · have hsame : (nameActor s actors name v).1.get? key = actors.get? key := by
        rw [get?_nameActor, if_neg hname]
      rw [if_neg hname, namedActor?, hsame, namedActor?]

theorem namedActor?_declaredActors (s : Scenario) (key : String) :
    namedActor? s (declaredActors s) key = if Text.endsWith "*" key then none
      else (s.boundSchema? key).map fun schema => .obj (actorBase key schema) := by
  rw [namedActor?, get?_declaredActors]
  split
  · rename_i hends
    rw [templateName?_of_endsWith hends]
    rfl
  · rw [boundSchema?, Option.map_or]

/-- An actor that there is in the end is made from the schema it is bound to. -/
theorem exists_bound (h : (nameActors s (declaredActors s) given.entries).1.get? key
      = some profile) :
    ∃ schema, s.boundSchema? key = some schema ∧
      profile = endowed (.obj (actorBase key schema)) ((given.get? key).getD .null) := by
  have hnamed : ∃ base, namedActor? s (declaredActors s) key = some base ∧
      profile = endowed base ((given.get? key).getD .null) := by
    rw [get?_nameActors given.ascend] at h
    change (given.get? key).elim _ _ = _ at h
    cases hgiven : given.get? key with
    | none =>
      rw [hgiven, Option.elim_none] at h
      refine ⟨profile, ?_, ?_⟩
      · rw [namedActor?, h, Option.some_or]
      · cases profile <;> rfl
    | some v =>
      rw [hgiven, Option.elim_some, Option.map_eq_some_iff] at h
      obtain ⟨base, hbase, rfl⟩ := h
      exact ⟨base, hbase, rfl⟩
  obtain ⟨base, hbase, rfl⟩ := hnamed
  rw [namedActor?_declaredActors, Option.ite_none_left_eq_some, Option.map_eq_some_iff] at hbase
  obtain ⟨-, schema, hschema, rfl⟩ := hbase
  exact ⟨schema, hschema, rfl⟩

/-- A signer is declared by a template, with a seal of wax; others may be declared besides. -/
def sealingDocument (others : Fields) : Json := .obj [
  ("actors", .obj (others ++ [("signer_*", .obj [("properties", .obj [
    ("seal", .obj [("default", .str "wax"), ("type", .str "string")])])])])),
  ("states", .obj [("initial", .obj [("goto", .str "(signed)"), ("on", .str "sign")])])]

def sealingStart : Dict Json := .ofList [("signer_1", .obj [("id", .str "s1")])]

theorem sealing_shown :
    ([[], [("*", .obj [("title", .str "Anyone")])]].map fun others => do
      let s ← (normalize (sealingDocument others)).toOption
      let profile ← (nameActors s (declaredActors s) sealingStart.entries).1.get? "signer_1"
      return (decide (profile.field? "seal" = some (.str "wax")), s.actors.contains "*",
        decide (s.actorSchema? "signer_1" = s.boundSchema? "signer_1"),
        ((Engine.standard s).actorRefusals s "signer_1" profile).isEmpty)) =
      [some (true, false, true, true), some (true, true, false, false)] := by
  decide +kernel

/-- An actor that there is after a start has its title and the defaults of its properties from the
schema that it is bound to. This is the one that is looked up for it and that it is checked against,
unless it is not declared and a schema for everybody comes before its template; then it is checked
against that. -/
theorem profile_schema (h : (nameActors s (declaredActors s) given.entries).1.get? key
      = some profile) :
    ∃ schema, s.boundSchema? key = some schema ∧
      profile = endowed (.obj (actorBase key schema)) ((given.get? key).getD .null) ∧
      (¬ s.StarFirst key → s.actorSchema? key = some schema ∧ ∀ engine : Engine,
        engine.actorRefusals s key profile =
          (engine.validate schema profile).map (.actor key)) ∧
      (s.StarFirst key → s.actorSchema? key = s.actors.get? "*") := by
  obtain ⟨schema, hbound, hprofile⟩ := exists_bound h
  refine ⟨schema, hbound, hprofile, ?_, StarFirst.actorSchema?_eq⟩
  intro hfirst
  have hfound := actorSchema?_of_bound hbound hfirst
  refine ⟨hfound, fun engine => ?_⟩
  rw [Engine.actorRefusals, hfound]

/-- Where only signers are declared, the first signer is checked against the template. -/
theorem signer_profile :
    ∃ s profile schema, normalize (sealingDocument []) = .ok s ∧
      (nameActors s (declaredActors s) sealingStart.entries).1.get? "signer_1" = some profile ∧
      profile.field? "seal" = some (.str "wax") ∧ s.boundSchema? "signer_1" = some schema ∧
      s.actorSchema? "signer_1" = some schema := by
  obtain ⟨hshown, -⟩ := List.cons.inj sealing_shown
  simp only [Option.bind_eq_bind, Option.bind_eq_some_iff, toOption_eq_some_iff] at hshown
  obtain ⟨s, hs, profile, hprofile, heq⟩ := hshown
  obtain ⟨hseal, heq⟩ := Prod.mk.inj (Option.some.inj heq)
  obtain ⟨hstar, -⟩ := Prod.mk.inj heq
  obtain ⟨schema, hbound, -, hsame, -⟩ := profile_schema hprofile
  refine ⟨s, profile, schema, hs, hprofile, of_decide_eq_true hseal, hbound, ?_⟩
  refine (hsame ?_).1
  rintro ⟨-, hthere, -⟩
  rw [hstar] at hthere
  cases hthere

/-- Where there is a schema for everybody, the seal that the engine puts on the first signer is not
allowed. -/
theorem signer_misread :
    ∃ s profile, normalize (sealingDocument [("*", .obj [("title", .str "Anyone")])]) = .ok s ∧
      (nameActors s (declaredActors s) sealingStart.entries).1.get? "signer_1" = some profile ∧
      profile.field? "seal" = some (.str "wax") ∧
      s.actorSchema? "signer_1" ≠ s.boundSchema? "signer_1" ∧
      (Engine.standard s).actorRefusals s "signer_1" profile ≠ [] := by
  obtain ⟨-, hrest⟩ := List.cons.inj sealing_shown
  have hshown := (List.cons.inj hrest).1
  simp only [Option.bind_eq_bind, Option.bind_eq_some_iff, toOption_eq_some_iff] at hshown
  obtain ⟨s, hs, profile, hprofile, heq⟩ := hshown
  obtain ⟨hseal, heq⟩ := Prod.mk.inj (Option.some.inj heq)
  obtain ⟨-, heq⟩ := Prod.mk.inj heq
  obtain ⟨hother, hrefused⟩ := Prod.mk.inj heq
  refine ⟨s, profile, hs, hprofile, of_decide_eq_true hseal, of_decide_eq_false hother, ?_⟩
  rwa [Ne, ← List.isEmpty_iff, Bool.not_eq_true]

end Caseflow.Case
