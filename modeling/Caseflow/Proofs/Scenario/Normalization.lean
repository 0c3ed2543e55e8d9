import Caseflow.Proofs.Outcome
import Caseflow.Scenario.Normalize

/-!
# What normalizing goes through

A document that is normalized goes through the reading of its parts, the settling of its states one
after another, and the search for end states. `Normalization` holds all of it, `Settlement` what one
state goes through, and both say exactly when there is a result.
-/
namespace Caseflow.Scenario

variable {s : Scenario} {document : Json} {doc : Fields} {key : String}
  {declared explicit : List String} {actions after : Dict Action} {state : State}
  {authored : AuthoredState}

/-- What a document goes through until it is a scenario. -/
structure Normalization (doc : Fields) (s : Scenario) where
  tags : Option (List String)
  declared : Dict Action
  authored : Dict AuthoredState
  settled : List (String × State)
  format_read : Authored.format (Assoc.get? "$schema" doc) = .ok s.format
  title_read : Authored.textOr "title" "" doc = .ok s.title
  description_read : Authored.textOr "description" "" doc = .ok s.description
  tags_read : Authored.textList? "tags" (Authored.present? "tags" doc) = .ok tags
  tags_eq : s.tags = tags.getD []
  actors_read : Authored.actors (Assoc.get? "actors" doc) = .ok s.actors
  actions_read : Authored.actions (Assoc.get? "actions" doc) = .ok declared
  states_read : AuthoredState.readAll (Assoc.get? "states" doc) = .ok authored
  states_settled : normalizeStates s.actors.keys declared.keys declared authored.entries
    = .ok (settled, s.actions)
  states_ended : addEndStates (Dict.ofList settled) (targets (Dict.ofList settled)) = .ok s.states
  initial : s.states.contains initialKey = true
  vars_read : Authored.schemas "vars" (Assoc.get? "vars" doc) = .ok s.vars
  definitions_read : Authored.schemas "$defs" (Assoc.get? "$defs" doc) = .ok s.definitions
  result_eq : s.result = Schema.Shorthand.expand ((Assoc.get? "result" doc).getD .null)

theorem normalize_eq_ok_iff :
    normalize document = .ok s ↔ ∃ doc, document = .obj doc ∧ Nonempty (Normalization doc s) := by
  cases document with
  | obj doc =>
    have hdoc : (∃ fields, Json.obj doc = .obj fields ∧ Nonempty (Normalization fields s)) ↔
        Nonempty (Normalization doc s) := by
      constructor
      · rintro ⟨_, heq, h⟩
        cases heq
        exact h
      · exact fun h => ⟨doc, rfl, h⟩
    rw [hdoc]
    simp only [normalize, bind_eq_ok_iff]
    constructor
    · rintro ⟨format, hformat, title, htitle, description, hdescription, tags, htags, actors,
        hactors, declared, hdeclared, authored, hauthored, ⟨settled, actions⟩, hsettled, states,
        hstates, h⟩
      by_cases hinitial : states.contains initialKey = true
      · rw [if_neg (by simp [hinitial])] at h
        obtain ⟨vars, hvars, h⟩ := bind_eq_ok_iff.1 h
        obtain ⟨definitions, hdefinitions, h⟩ := bind_eq_ok_iff.1 h
        cases h
        exact ⟨⟨tags, declared, authored, settled, hformat, htitle, hdescription, htags, rfl,
          hactors, hdeclared, hauthored, hsettled, hstates, hinitial, hvars, hdefinitions, rfl⟩⟩
      · rw [if_pos (by simpa using hinitial)] at h
        cases h
    · rintro ⟨n⟩
      refine ⟨_, n.format_read, _, n.title_read, _, n.description_read, _, n.tags_read, _,
        n.actors_read, _, n.actions_read, _, n.states_read, _, n.states_settled, _, n.states_ended,
        ?_⟩
      rw [if_neg (by simp [n.initial]), bind_eq_ok_iff]
      refine ⟨_, n.vars_read, bind_eq_ok_iff.2 ⟨_, n.definitions_read, ?_⟩⟩
      rw [pure_eq_ok_iff, ← n.tags_eq, ← n.result_eq]
  | null | bool _ | num _ | str _ | arr _ =>
    refine iff_of_false (fun h => nomatch h) ?_
    rintro ⟨doc, hdoc, -⟩
    cases hdoc

/-- What an authored state goes through until it is a state. -/
structure Settlement (key : String) (declared explicit : List String) (actions : Dict Action)
    (authored : AuthoredState) (state : State) (after : Dict Action) where
  drafts : List Draft
  implied : Implied
  instructions : Fields
  notices : List Notice
  drafted : settleAll key declared explicit actions 0 .empty authored.transitions
    = .ok (drafts, implied)
  after_eq : after = addImplied key implied actions
  finished : finishAll after drafts = .ok state.transitions
  notices_read : Authored.notices key (Authored.present? "notify" authored.fields) = .ok notices
  instructions_read : Authored.fieldsOrEmpty s!"states.{key}.instructions"
    (Assoc.get? "instructions" authored.fields) = .ok instructions
  ending : isEndState key = true → authored.transitions = []
  title_eq : state.title = (Assoc.get? "title" authored.fields).getD (.str key)
  description_eq : state.description = (Assoc.get? "description" authored.fields).getD (.str "")
  instructions_eq : state.instructions = Dict.ofList instructions
  notices_eq : state.notices = notices ++
    impliedNotices notices (serviceKeys key after state.actionTransitions)

theorem normalizeState_eq_ok_iff :
    normalizeState key declared explicit actions authored = .ok (state, after) ↔
      Nonempty (Settlement key declared explicit actions authored state after) := by
  unfold normalizeState
  constructor
  · intro h
    split at h
    · cases h
    · rename_i hending
      simp only [bind_eq_ok_iff] at h
      obtain ⟨⟨drafts, implied⟩, hdrafts, transitions, hfinish, notices, hnotices, instructions,
        hinstructions, h⟩ := h
      cases h
      refine ⟨⟨drafts, implied, instructions, notices, hdrafts, rfl, hfinish, hnotices,
        hinstructions, ?_, rfl, rfl, rfl, rfl⟩⟩
      simpa using hending
  · rintro ⟨⟨drafts, implied, instructions, notices, hdrafts, rfl, hfinish, hnotices,
      hinstructions, hending, htitle, hdescription, hentries, hall⟩⟩
    rw [if_neg (by simpa using hending)]
    simp only [bind_eq_ok_iff]
    refine ⟨_, hdrafts, _, hfinish, _, hnotices, _, hinstructions, ?_⟩
    rw [pure_eq_ok_iff, Prod.mk.injEq, ← htitle, ← hdescription, ← hentries]
    unfold State.actionTransitions at hall
    rw [← hall]
    exact ⟨rfl, rfl⟩

end Caseflow.Scenario
