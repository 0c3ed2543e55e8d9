import Caseflow.Proofs.Case.Candidates
import Caseflow.Proofs.Scenario.Actors

/-!
# Who stands in while predicting

A prediction tries every action on offer with every actor of the case that the action's list may
stand for, and a service stands for all of them. So whatever an actor of the case can do is
predicted, and what a service can do is if some actor of the case can stand in for it. Where a
transition is kept for a service by its own filter, nobody can.
-/
namespace Caseflow.Case

open Scenario Time

variable {engine : Engine} {s : Scenario} {c next : Case} {move : Move} {now : Timestamp}
  {actor entry key : String} {allowed : List String} {profile : Json} {reasons : List Refusal}

/-- An attempt without an id and a response, as predictions try it. -/
def plainMove (action actor : String) : Move := ⟨action, ⟨actor, none⟩, none⟩

theorem Reachable.mem_candidateMoves (hc : Reachable engine s c) {action : String} {offer : Offer}
    (hoffer : c.current.offer? action = some offer)
    (hactor : actor ∈ c.candidateActors offer.actors) :
    ∃ state, c.scenario.states.get? c.current.key = some state ∧
      plainMove action actor ∈ c.candidateMoves state := by
  obtain ⟨ctx, hentered⟩ := hc.entered
  obtain ⟨hmem, hkey⟩ := mem_of_offer? hoffer
  obtain ⟨state, hstate, t, ht, hshown⟩ := offer_of_enter hentered hmem
  obtain ⟨definition, -, -, -, heq⟩ := offerOf?_eq_some_iff.1 hshown
  have hshort : shortKey c.current.key t.action = action := by
    rw [← hkey, heq]
  rw [hc.scenario]
  refine ⟨state, hstate, List.mem_flatMap.2 ⟨t, ht, ?_⟩⟩
  rw [hshort, hoffer, ← hkey]
  exact List.mem_map.2 ⟨actor, hactor, rfl⟩

theorem Reachable.refused_of_predictNext (hc : Reachable engine s c)
    (h : engine.predictNext c = .ok none) {action : String} {offer : Offer}
    (hoffer : c.current.offer? action = some offer)
    (hactor : actor ∈ c.candidateActors offer.actors) :
    ∃ reasons, engine.decide c (plainMove action actor) c.current.timestamp true =
      .error (.refused reasons) := by
  obtain ⟨state, hstate, hmem⟩ := hc.mem_candidateMoves hoffer hactor
  exact ((predictNext_eq_none_iff (orFail_eq_ok_iff.2 hstate)).1 h).refused _ hmem

/-- Digits at the end are dropped only after a start that does not end in one. -/
theorem prefix_of_dropWhile {lead cs : List Char}
    (hlead : lead.reverse.dropWhile Json.isDigit = lead.reverse) (h : lead <+: cs) :
    lead <+: (cs.reverse.dropWhile Json.isDigit).reverse := by
  obtain ⟨rest, rfl⟩ := h
  rw [List.reverse_append, List.dropWhile_append]
  split
  · rw [hlead]
    simp only [List.reverse_reverse, List.prefix_rfl]
  · rw [List.reverse_append, List.reverse_reverse]
    exact List.prefix_append _ _

/-- The template of a numbered service stands for a service as well. -/
theorem isService_of_templateName? (h : isService key = true)
    (htemplate : templateName? key = some entry) : isService entry = true := by
  have hmark : "service:".toList.reverse.dropWhile Json.isDigit = "service:".toList.reverse := by
    simp [Json.isDigit]
  have hstem := prefix_of_dropWhile hmark (Text.isSome_after?_iff.1 h)
  refine Text.isSome_after?_iff.2 ?_
  rw [toList_of_templateName? htemplate]
  exact hstem.trans (List.prefix_append _ _)

/-- What covers a service that is no actor of a case stands for every actor while predicting. -/
theorem isCovered_of_isService (hservice : isService key = true)
    (h : isCovered entry key (.obj []) false = true) (actor : String) (profile : Json) :
    isCovered entry actor profile true = true := by
  have hroles : rolesOf (.obj []) = [] := rfl
  rw [isCovered, hroles, List.contains_nil, Bool.or_false, Bool.false_and, Bool.or_false] at h
  simp only [matchesActor, Bool.or_eq_true, Bool.and_eq_true, beq_iff_eq] at h
  have hstands (hentry : isService entry = true) : isCovered entry actor profile true = true := by
    rw [isCovered, Bool.true_and, show (serviceName? entry).isSome = true from hentry, Bool.or_true]
  obtain (rfl | rfl) | ⟨-, htemplate⟩ := h
  · simp [isCovered, matchesActor]
  · exact hstands hservice
  · exact hstands (isService_of_templateName? hservice htemplate)

/-- If someone who is no actor of a case may act, every actor may while predicting. -/
theorem isAuthorized_of_stranger (hstranger : c.actors.get? key = none)
    (hprofile : c.profile? key = some profile) (h : isAuthorized allowed key profile false = true)
    (actor : String) (other : Json) : isAuthorized allowed actor other true = true := by
  rw [profile?, hstranger, Option.none_or, Option.ite_none_right_eq_some] at hprofile
  obtain ⟨hservice, heq⟩ := hprofile
  cases heq
  obtain ⟨entry, hentry, hcovered⟩ := List.any_eq_true.1 h
  exact List.any_eq_true.2 ⟨entry, hentry, isCovered_of_isService hservice hcovered actor other⟩

/-- The transition that an actor of the case gets to with an action, whoever may perform it: the
updates are made with the actor as the one who acts, and the first open transition that admits the
actor is taken. -/
def Engine.standIn? (engine : Engine) (c : Case) (action actor : String) :
    Decision ActionTransition := do
  let key := c.fullKey action
  let definition ← orFault (orFail (.missingAction key) (c.scenario.actions.get? key))
  let profile ← orRefuse (.unknownActor actor) (c.actors.get? actor)
  let admission := ⟨key, definition, profile, effectiveResponse definition none⟩
  let ctx ← orFault
    (applyUpdates engine.regex true (c.actingContext actor admission) definition.updates)
  refuse (shapeRefusals ctx)
  engine.transitionOf c (plainMove action actor) key ctx

theorem standIn?_eq {action : String} {definition : Action} {ctx : Json}
    (hdefinition : c.scenario.actions.get? (c.fullKey action) = some definition)
    (hprofile : c.actors.get? actor = some profile)
    (hctx : applyUpdates engine.regex true
      (c.actingContext actor ⟨c.fullKey action, definition, profile,
        effectiveResponse definition none⟩) definition.updates = .ok ctx) :
    engine.standIn? c action actor = (refuse (shapeRefusals ctx) >>= fun _ =>
      engine.transitionOf c (plainMove action actor) (c.fullKey action) ctx) := by
  rw [Engine.standIn?, hdefinition, hprofile]
  change (orFault (applyUpdates engine.regex true _ _) >>= _) = _
  rw [hctx]
  rfl

/-- While predicting, an attempt of a candidate is refused only if the actor cannot stand in. -/
theorem standIn?_of_refused {offer : Offer} {definition : Action} {action : String}
    (hoffer : c.current.offer? action = some offer)
    (hdefinition : c.scenario.actions.get? (c.fullKey action) = some definition)
    (hprofile : c.actors.get? actor = some profile)
    (hallowed : isAuthorized offer.actors actor profile true = true)
    (h : engine.decide c (plainMove action actor) now true = .error (.refused reasons)) :
    ∃ reasons, engine.standIn? c action actor = .error (.refused reasons) := by
  have hknown := profile?_of_get? hprofile
  have hadmit : engine.admission c (plainMove action actor) true =
      .ok ⟨c.fullKey action, definition, profile, effectiveResponse definition none⟩ :=
    admission_eq_ok_iff.2 ⟨offer, definition, profile, hoffer, hdefinition, hknown,
      admissionRefusals_predicting_eq_nil_iff.2 hallowed, rfl⟩
  rw [decide_eq_refused_iff, hadmit] at h
  obtain hnone | ⟨_, hsame, ctx, hctx, hlater⟩ := h
  · cases hnone
  cases hsame
  rw [standIn?_eq hdefinition hprofile hctx]
  obtain habsorb | ⟨next, habsorb, hchosen⟩ := hlater
  · refine ⟨shapeRefusals ctx, bind_eq_error_iff.2 (.inl (refuse_of_ne_nil ?_))⟩
    intro hshape
    have htaken : engine.absorb c ctx actor true = .ok (c.absorb ctx actor) :=
      absorb_eq_ok_iff.2 ⟨hshape, fun hp => (nomatch hp), rfl⟩
    cases htaken.symm.trans habsorb
  · obtain ⟨hshape, -, -⟩ := absorb_eq_ok_iff.1 habsorb
    exact ⟨reasons, bind_eq_error_iff.2 (.inr ⟨(), refuse_eq_ok_iff.2 hshape, hchosen⟩)⟩

theorem Reachable.refused_standIn {offer : Offer} {definition : Action} {action : String}
    (hc : Reachable engine s c) (h : engine.predictNext c = .ok none)
    (hoffer : c.current.offer? action = some offer)
    (hdefinition : c.scenario.actions.get? (c.fullKey action) = some definition)
    (hprofile : c.actors.get? actor = some profile)
    (hallowed : isAuthorized offer.actors actor profile true = true) :
    ∃ reasons, engine.standIn? c action actor = .error (.refused reasons) := by
  obtain ⟨reasons, hdecide⟩ := hc.refused_of_predictNext h hoffer
    (mem_candidateActors.2 ⟨profile, hprofile, hallowed⟩)
  exact standIn?_of_refused hoffer hdefinition hprofile hallowed hdecide

/-- An actor of the case whose attempt is taken can stand in for itself. -/
theorem Passage.standIn? (p : Passage engine c move now false)
    (hstubless : p.admission.action.Stubless)
    (hresponse : givenResponse move.response = none)
    (hprofile : c.actors.get? move.actor.key = some profile) :
    engine.standIn? c move.action move.actor.key = .ok p.transition := by
  obtain ⟨offer, definition, known, -, hdefinition, hknown, -, hadmission⟩ :=
    admission_eq_ok_iff.1 p.admitted
  rw [profile?_of_get? hprofile, Option.some.injEq] at hknown
  subst hknown
  have heffective :
      effectiveResponse definition move.response = effectiveResponse definition none := by
    rw [effectiveResponse, hresponse]
    rfl
  have hctx := p.updated
  rw [← applyUpdates_predicting hstubless, hadmission, heffective] at hctx
  obtain ⟨hshape, -, -⟩ := absorb_eq_ok_iff.1 p.absorbed
  have hchosen := transitionOf_eq_ok_iff.1 p.chosen
  rw [hadmission] at hchosen
  rw [standIn?_eq hdefinition hprofile hctx]
  exact bind_eq_ok_iff.2 ⟨(), refuse_eq_ok_iff.2 hshape, transitionOf_eq_ok_iff.2 hchosen⟩

/-- An invoice is sent by the email service; the transition may have a filter of its own. -/
def invoiceDocument (filter : Fields) : Json := .obj [
  ("actions", .obj [("send", .obj [("actor", .str "service:email")])]),
  ("actors", .obj [("client", .null)]),
  ("states", .obj [("initial", .obj [("transitions", .arr [
    .obj (filter ++ [("goto", .str "(sent)"), ("on", .str "send")])])])])]

def sendingMove : Move := ⟨"send", ⟨"service:email", none⟩, none⟩

/-- The client stands in for the service unless the transition is kept for that by a filter, and
this decides whether there is a prediction. -/
theorem invoice_shown :
    ([[], [("by", .str "service:email")]].map fun filter =>
      (attempted (invoiceDocument filter) sendingMove).map fun (c, _, _) =>
        (decide (c.scenario.Stubless ∧ c.actors.contains "client" = true),
          ((Engine.standard c.scenario).standIn? c "send" "client").toOption.isSome,
          ((Engine.standard c.scenario).predictNext c).toOption.map (·.isSome))) =
      [some (true, true, some true), some (true, false, some false)] := by
  decide +kernel

/-- Where a step without a response is taken, something is predicted, if the step is by an actor of
the case or an actor of the case can stand in for the service that it is by. -/
theorem predictNext_ne_none (hc : Reachable engine s c) (hstubless : s.Stubless)
    (h : engine.decide c move now false = .ok next) (hresponse : givenResponse move.response = none)
    (hstand : c.actors.contains move.actor.key = true ∨
      ∃ actor, ∀ reasons, engine.standIn? c move.action actor ≠ .error (.refused reasons)) :
    engine.predictNext c ≠ .ok none := by
  intro hnone
  obtain ⟨p, rfl⟩ := decide_eq_ok_iff.1 h
  obtain ⟨offer, definition, known, hoffer, hdefinition, hknown, hrefuse, hadmission⟩ :=
    admission_eq_ok_iff.1 p.admitted
  have hallowed := isAuthorized_of_admissionRefusals hrefuse
  cases hactor : c.actors.get? move.actor.key with
  | some profile =>
    rw [profile?_of_get? hactor, Option.some.injEq] at hknown
    subst hknown
    obtain ⟨reasons, hself⟩ := hc.refused_standIn hnone hoffer hdefinition hactor
      (isAuthorized_predicting hallowed)
    have hown : p.admission.action.Stubless := by
      rw [hadmission]
      rw [hc.scenario] at hdefinition
      exact hstubless _ (Dict.mem_entries_iff.2 hdefinition)
    rw [p.standIn? hown hresponse hactor] at hself
    cases hself
  | none =>
    have hstranger : ¬ c.actors.contains move.actor.key = true := by
      simp [Dict.contains, hactor]
    obtain ⟨actor, hnot⟩ := hstand.resolve_left hstranger
    cases hprofile : c.actors.get? actor with
    | some profile =>
      obtain ⟨reasons, hother⟩ := hc.refused_standIn hnone hoffer hdefinition hprofile
        (isAuthorized_of_stranger hactor hknown hallowed actor profile)
      exact hnot reasons hother
    | none =>
      apply hnot [.unknownActor actor]
      rw [Engine.standIn?, hdefinition, hprofile]
      rfl

/-- The client stands in for the email service, and the case goes on. -/
theorem invoice_predicted :
    ∃ s c next, normalize (invoiceDocument []) = .ok s ∧
      Reachable (Engine.standard s) s c ∧ s.Stubless ∧
      (Engine.standard s).decide c sendingMove (afterSeconds 1) false = .ok next ∧
      (Engine.standard s).predictNext c ≠ .ok none := by
  obtain ⟨hopen, -⟩ := List.cons.inj invoice_shown
  obtain ⟨⟨c, admission, next⟩, hattempted, hshown⟩ := Option.map_eq_some_iff.1 hopen
  obtain ⟨hs, hreachable, -, hnext⟩ := of_attempted hattempted
  obtain ⟨hdecided, hstands⟩ := Prod.mk.inj hshown
  obtain ⟨hstubless, -⟩ := of_decide_eq_true hdecided
  obtain ⟨t, ht⟩ := Option.isSome_iff_exists.1 (Prod.mk.inj hstands).1
  refine ⟨c.scenario, c, next, hs, hreachable, hstubless, hnext, ?_⟩
  apply predictNext_ne_none hreachable hstubless hnext rfl
  exact .inr ⟨"client", fun reasons hrefused => nomatch
    (toOption_eq_some_iff.1 ht).symm.trans hrefused⟩

/-- Where the sending is kept for the email service, the service sends the invoice and nothing is
predicted, although there is a client. -/
theorem filtered_invoice_unpredicted :
    ∃ s c next, normalize (invoiceDocument [("by", .str "service:email")]) = .ok s ∧
      Reachable (Engine.standard s) s c ∧ s.Stubless ∧ c.actors.contains "client" = true ∧
      (Engine.standard s).decide c sendingMove (afterSeconds 1) false = .ok next ∧
      (Engine.standard s).predictNext c = .ok none := by
  obtain ⟨-, hfiltered⟩ := List.cons.inj invoice_shown
  obtain ⟨⟨c, admission, next⟩, hattempted, hshown⟩ :=
    Option.map_eq_some_iff.1 (List.cons.inj hfiltered).1
  obtain ⟨hs, hreachable, -, hnext⟩ := of_attempted hattempted
  obtain ⟨hdecided, hstands⟩ := Prod.mk.inj hshown
  obtain ⟨hstubless, hclient⟩ := of_decide_eq_true hdecided
  obtain ⟨found, hfound, hnone⟩ := Option.map_eq_some_iff.1 (Prod.mk.inj hstands).2
  refine ⟨c.scenario, c, next, hs, hreachable, hstubless, hclient, hnext, ?_⟩
  rw [toOption_eq_some_iff.1 hfound]
  exact congrArg Except.ok (Option.not_isSome_iff_eq_none.1 (ne_true_of_eq_false hnone))

end Caseflow.Case
