import Caseflow.Case.Message
import Caseflow.Proofs.Case.Authority
import Caseflow.Proofs.Scenario.Actors
import Caseflow.Proofs.Scenario.Announced

/-!
# What services are told

A service is told the actions on offer that name it, and it may perform all of these. It may perform
more if it is covered by another entry: by the star, by its template, or by a role. What its reply
stands for is one of the actions it is told, unless a notice settles it; this it does whether the
action is on offer or not.
-/
namespace Caseflow.Case

open Scenario Time

variable {engine : Engine} {s : Scenario} {c : Case} {service action : String} {offer : Offer}

/-- An attempt of an actor at an action passes the check against the actors of its offer. -/
def admits (c : Case) (actor action : String) : Bool :=
  match c.current.offer? action, c.profile? actor with
  | some offer, some profile => isAuthorized offer.actors actor profile false
  | _, _ => false

def serviceRoles (c : Case) (service : String) : List String :=
  rolesOf ((c.actors.get? (serviceActor service)).getD (.obj []))

/-- An offer does not name a service, but has an entry that covers it all the same. -/
def CoversUnnamed (c : Case) (service : String) (offer : Offer) : Prop :=
  serviceActor service ∉ offer.actors ∧ ∃ entry ∈ offer.actors,
    entry = "*" ∨ templateName? (serviceActor service) = some entry ∨
      entry ∈ c.serviceRoles service

instance (c : Case) (service : String) (offer : Offer) :
    Decidable (c.CoversUnnamed service offer) := inferInstanceAs (Decidable (_ ∧ _))

theorem isService_serviceActor (service : String) : isService (serviceActor service) = true :=
  Text.isSome_after?_iff.2 ⟨service.toList, (String.toList_append ..).symm⟩

theorem profile?_serviceActor (c : Case) (service : String) :
    c.profile? (serviceActor service) =
      some ((c.actors.get? (serviceActor service)).getD (.obj [])) := by
  rw [profile?, if_pos (isService_serviceActor service)]
  cases c.actors.get? (serviceActor service) <;> rfl

theorem isAuthorized_service_iff :
    isAuthorized offer.actors (serviceActor service)
        ((c.actors.get? (serviceActor service)).getD (.obj [])) false = true ↔
      serviceActor service ∈ offer.actors ∨ c.CoversUnnamed service offer := by
  have hcovered (entry : String) : isCovered entry (serviceActor service)
      ((c.actors.get? (serviceActor service)).getD (.obj [])) false = true ↔
        entry = serviceActor service ∨ entry = "*" ∨
          templateName? (serviceActor service) = some entry ∨ entry ∈ c.serviceRoles service := by
    rw [isCovered, Bool.false_and, Bool.or_false, Bool.or_eq_true, matchesActor_iff,
      List.contains_iff_mem, serviceRoles, or_assoc, or_assoc, or_left_comm]
  simp only [isAuthorized, List.any_eq_true, hcovered]
  by_cases hnamed : serviceActor service ∈ offer.actors
  · exact iff_of_true ⟨_, hnamed, .inl rfl⟩ (.inl hnamed)
  · rw [or_iff_right hnamed, CoversUnnamed, and_iff_right hnamed]
    refine exists_congr fun entry => and_congr_right fun hentry => or_iff_right ?_
    rintro rfl
    exact hnamed hentry

theorem Reachable.nodup_keys (hc : Reachable engine s c) :
    (c.current.offers.map (·.key)).Nodup := by
  obtain ⟨ctx, hentered⟩ := hc.entered
  have hnodup := nodup_keys_of_enter hentered
  exact hnodup

theorem Reachable.admits_service_iff (hc : Reachable engine s c)
    (hmem : offer ∈ c.current.offers) : c.admits (serviceActor service) offer.key = true ↔
      serviceActor service ∈ offer.actors ∨ c.CoversUnnamed service offer := by
  rw [admits, offer?_of_mem hc.nodup_keys hmem, profile?_serviceActor]
  exact isAuthorized_service_iff

/-- Only what passes the check is performed. -/
theorem admits_of_decide {move : Move} {now : Timestamp} {next : Case}
    (h : engine.decide c move now false = .ok next) :
    c.admits move.actor.key move.action = true := by
  obtain ⟨p, -⟩ := decide_eq_ok_iff.1 h
  obtain ⟨offer, definition, profile, hoffer, -, hprofile, hnone, -⟩ :=
    admission_eq_ok_iff.1 p.admitted
  rw [admits, hoffer, hprofile]
  exact isAuthorized_of_admissionRefusals hnone

theorem mem_messageTo : offer ∈ (c.messageTo service).offers ↔
    offer ∈ c.current.offers ∧ serviceActor service ∈ offer.actors := by
  simp [messageTo, serviceOffers]

/-- The email service sends or resends; a client may resend as well, or withdraw. -/
def letterDocument : Fields := [("states", .obj [("initial", .obj [("transitions", .arr [
  .obj [("by", .str "service:email"), ("goto", .str "(sent)"), ("on", .str "send")],
  .obj [("by", .arr [.str "service:email", .str "client"]), ("goto", .str "(sent)"),
    ("on", .str "resend")],
  .obj [("by", .str "client"), ("goto", .str "(withdrawn)"), ("on", .str "withdraw")]])])])]

/-- The sending is declared. -/
def mailingDocument (send : Json) : Fields := [
  ("actions", .obj [("send", send)]),
  ("states", .obj [("initial", .obj [("goto", .str "(sent)"), ("on", .str "send")])])]

def resending : Json := .obj [("action", .str "resend")]

def emailSends : Move := ⟨"send", ⟨"service:email", none⟩, none⟩

/-- A declaration under which the email service may never send. -/
def neverSent : Json := .obj [("actor", .str "service:email"), ("if", .bool false)]

theorem mail_shown :
    ((trial (.obj letterDocument) []).map fun c =>
      (decide ((c.messageTo "email").offers.map (·.key) = ["send", "resend"]),
        decide (∀ offer ∈ c.current.offers, ¬ c.CoversUnnamed "email" offer),
        decide (c.expectedAction? "email" = none ∧
          c.triggeredAction? "email" (some resending) = some "resend"))) =
      some (true, true, true) ∧
    ((trial (.obj (mailingDocument .null)) []).map fun c =>
      (decide ((c.messageTo "email").offers = []),
        (c.current.offers.filter fun offer =>
          c.admits (serviceActor "email") offer.key).map (·.key),
        ((Engine.standard c.scenario).step c emailSends (afterSeconds 1)).toOption.map
          (·.current.key))) = some (true, ["send"], some "(sent)") ∧
    ((trial (.obj (mailingDocument neverSent)) []).map fun c =>
      (decide ((c.messageTo "email").offers = [] ∧ c.current.offer? "send" = none),
        c.triggeredAction? "email" none)) = some (true, some "send") := by
  decide +kernel

/-- A service is told the offers on which it passes the check, in order and no others, exactly if no
offer covers it without naming it. On what it is told it always passes the check, and an attempt is
only taken if it does. -/
theorem message_tells_admitted (hc : Reachable engine s c) (service : String) :
    ((c.messageTo service).offers =
        c.current.offers.filter (fun offer => c.admits (serviceActor service) offer.key) ↔
      ∀ offer ∈ c.current.offers, ¬ c.CoversUnnamed service offer) ∧
    (∀ offer ∈ (c.messageTo service).offers,
      c.admits (serviceActor service) offer.key = true) ∧
    ∀ move now next, engine.decide c move now false = .ok next →
      c.admits move.actor.key move.action = true := by
  refine ⟨⟨?_, ?_⟩, ?_, fun _ _ _ => admits_of_decide⟩
  · intro heq offer hmem hcovers
    have htold : offer ∈ (c.messageTo service).offers := by
      rw [heq, List.mem_filter]
      exact ⟨hmem, (hc.admits_service_iff hmem).2 (.inr hcovers)⟩
    exact hcovers.1 (mem_messageTo.1 htold).2
  · intro hnone
    refine List.filter_congr fun offer hmem => ?_
    rw [Bool.eq_iff_iff, List.contains_iff_mem, hc.admits_service_iff hmem,
      or_iff_left (hnone offer hmem)]
  · intro offer hoffer
    obtain ⟨hmem, hnamed⟩ := mem_messageTo.1 hoffer
    exact (hc.admits_service_iff hmem).2 (.inl hnamed)

/-- The email service is told the sending and the resending, which is all that it may do. -/
theorem letter_told :
    ∃ s c, normalize (Json.obj letterDocument) = .ok s ∧ Reachable (Engine.standard s) s c ∧
      (c.messageTo "email").offers.map (·.key) = ["send", "resend"] ∧
      (c.messageTo "email").offers =
        c.current.offers.filter (fun offer => c.admits (serviceActor "email") offer.key) := by
  obtain ⟨hshown, -⟩ := mail_shown
  obtain ⟨c, hc, heq⟩ := Option.map_eq_some_iff.1 hshown
  obtain ⟨hkeys, heq⟩ := Prod.mk.inj heq
  obtain ⟨huncovered, -⟩ := Prod.mk.inj heq
  obtain ⟨hs, hreachable⟩ := reachable_of_trial hc
  obtain ⟨htold, -⟩ := message_tells_admitted hreachable "email"
  exact ⟨c.scenario, c, hs, hreachable, of_decide_eq_true hkeys,
    htold.2 (of_decide_eq_true huncovered)⟩

/-- The email service is not told the sending that is open to all, though its attempt is taken. -/
theorem mailing_untold :
    ∃ s c next, normalize (Json.obj (mailingDocument .null)) = .ok s ∧
      Reachable (Engine.standard s) s c ∧
      (Engine.standard s).step c emailSends (afterSeconds 1) = .ok next ∧
      next.current.key = "(sent)" ∧
      (c.messageTo "email").offers ≠
        c.current.offers.filter (fun offer => c.admits (serviceActor "email") offer.key) := by
  obtain ⟨-, hshown, -⟩ := mail_shown
  obtain ⟨c, hc, heq⟩ := Option.map_eq_some_iff.1 hshown
  obtain ⟨hnothing, heq⟩ := Prod.mk.inj heq
  obtain ⟨hadmitted, hsent⟩ := Prod.mk.inj heq
  obtain ⟨next, hnext, hkey⟩ := Option.map_eq_some_iff.1 hsent
  obtain ⟨hs, hreachable⟩ := reachable_of_trial hc
  refine ⟨c.scenario, c, next, hs, hreachable, toOption_eq_some_iff.1 hnext, hkey, ?_⟩
  intro hsame
  rw [← hsame, of_decide_eq_true hnothing] at hadmitted
  cases hadmitted

theorem requestedAction?_eq_some_iff {reply : Json} :
    c.requestedAction? service reply = some action ↔
      (reply.field? "action").bind Json.asString? = some action ∧
        ∃ offer ∈ (c.messageTo service).offers, offer.key = action := by
  simp [requestedAction?, messageTo, Option.filter_eq_some_iff]

/-- The reply names an action that the service is told, and no alert settles what is expected. -/
structure Requested (engine : Engine) (c : Case) (service : String) (reply : Option Json)
    (action : String) : Prop where
  unsettled : c.expectedAction? service = none
  named : (reply.bind fun v => (v.field? "action").bind Json.asString?) = some action
  told : ∃ offer ∈ (c.messageTo service).offers, offer.key = action
  available : ∀ move now, move.action = action → ¬ Unavailable engine c move now

/-- The alert for a service is for an action that the service performs in a state: a transition
takes it, and the service is told it whenever it is on offer. This is unless a later state coins
over the action, or the state hides a shared action behind it. -/
structure Derived (doc : Fields) (s : Scenario) (c : Case) (service action : String)
    (state : State) : Prop where
  taken : ∃ t ∈ state.actionTransitions, shortKey c.current.key t.action = action
  told : (∀ t ∈ state.actionTransitions, shortKey c.current.key t.action = action →
      ¬ CoinedAfter doc s c.current.key t.action) → ¬ Hides s c.current.key action →
    ∀ offer ∈ c.current.offers, offer.key = action → offer ∈ (c.messageTo service).offers

/-- The first alert for the service expects an action, whether it is on offer or not. It is written
like that, or is for what the service performs. The action is not on offer exactly if no transition
on it was open when the state was entered. -/
structure Expected (engine : Engine) (doc : Fields) (s : Scenario) (c : Case)
    (service action : String) (state : State) (ctx : Json) : Prop where
  expected : c.expectedAction? service = some action
  state_eq : s.states.get? c.current.key = some state
  entered : Stage.enter engine.regex s c.current.key ctx c.current.timestamp = .ok c.current.bare
  source : (∃ named, authoredNotices doc c.current.key = .ok named ∧
      ∃ n ∈ named, n.service = service ∧ n.trigger = some action) ∨
    Derived doc s c service action state
  unavailable_iff : ∀ move now, move.action = action → (Unavailable engine c move now ↔
    ∀ t ∈ state.actionTransitions, shortKey c.current.key t.action = action →
      ¬ Opens engine.regex s ctx t)

theorem Reachable.told_of_serves (hc : Reachable engine s c) {state : State}
    (hstate : s.states.get? c.current.key = some state)
    (hserves : state.Serves c.current.key s.actions service action)
    (hhides : ¬ Hides s c.current.key action) (hmem : offer ∈ c.current.offers)
    (hkey : offer.key = action) : offer ∈ (c.messageTo service).offers := by
  have hfound := offer?_of_mem hc.nodup_keys hmem
  rw [hkey] at hfound
  obtain ⟨shown, hshown, u, hu, performed, hperformed, hactors, hown⟩ := hc.offered hfound
  cases hstate.symm.trans hshown
  obtain ⟨t, ht, served, hserved, hactor, hshort⟩ := hserves
  have hkeys := eq_or_eq_scopedKey c.current.key t.action
  rw [hshort] at hkeys
  have hsame : t.action = u.action := by
    obtain ht' | ht' := hkeys <;> obtain hu' | hu' := hown
    · rw [ht', hu']
    · exact absurd ⟨state, hstate, ⟨t, ht, ht'⟩, u, hu, hu'⟩ hhides
    · exact absurd ⟨state, hstate, ⟨u, hu, hu'⟩, t, ht, ht'⟩ hhides
    · rw [ht', hu']
  rw [hsame, hperformed, Option.some.injEq] at hserved
  refine mem_messageTo.2 ⟨hmem, ?_⟩
  rw [hactors, hserved]
  exact hactor

/-- What a notice that is added expects is for what the service performs. -/
theorem Reachable.derived (hc : Reachable engine s c) {doc : Fields} {state : State}
    {named added : List Notice} {between : Dict Action} {n : Notice}
    (hstate : s.states.get? c.current.key = some state)
    (hadded : Announces c.current.key between state named added)
    (hlater : ∀ k, ¬ CoinedAfter doc s c.current.key k → between.get? k = s.actions.get? k)
    (hn : n ∈ added) (htrigger : n.trigger = some action) :
    Derived doc s c n.service action state := by
  obtain ⟨t, ht, performed, hperformed, hactor, hshort⟩ := hadded.serves hn htrigger
  refine ⟨⟨t, ht, hshort⟩, fun hlast hhides offer hmem hkey => ?_⟩
  rw [hlater t.action (hlast t ht hshort)] at hperformed
  exact hc.told_of_serves hstate ⟨t, ht, performed, hperformed, hactor, hshort⟩ hhides hmem hkey

theorem requested_of_eq (hc : Reachable engine s c) {reply : Option Json}
    (hnone : c.expectedAction? service = none)
    (h : reply.bind (c.requestedAction? service) = some action) :
    Requested engine c service reply action := by
  obtain ⟨v, rfl, hv⟩ := Option.bind_eq_some_iff.1 h
  obtain ⟨hnamed, offer, htold, rfl⟩ := requestedAction?_eq_some_iff.1 hv
  refine ⟨hnone, hnamed, ⟨offer, htold, rfl⟩, ?_⟩
  rintro move now hmove hunavailable
  rw [unavailable_iff, hmove, offer?_of_mem hc.nodup_keys (mem_messageTo.1 htold).1]
    at hunavailable
  cases hunavailable

theorem expected_of_eq {doc : Fields} (hs : normalize (Json.obj doc) = .ok s)
    (hc : Reachable engine s c) (h : c.expectedAction? service = some action) :
    ∃ state ctx, Expected engine doc s c service action state ctx := by
  obtain ⟨ctx, hentered⟩ := hc.entered
  obtain ⟨state, _, _, _, _, _, hstate, -⟩ := enter_eq_ok_iff.1 hentered
  refine ⟨state, ctx, h, hstate, hentered, ?_, ?_⟩
  · obtain ⟨alert, hfound, htrigger⟩ := Option.bind_eq_some_iff.1 h
    have hservice : alert.service = service := by simpa using List.find?_some hfound
    obtain ⟨n, hn, hname, hsame⟩ :=
      alert_of_enter hentered hstate (List.mem_of_find?_eq_some hfound)
    rw [hservice] at hname
    rw [hsame] at htrigger
    obtain ⟨_, heq, ⟨z⟩⟩ := normalize_eq_ok_iff.1 hs
    cases heq
    obtain ⟨named, added, between, hnamed, hnotices, hadded, hlater⟩ := z.exists_announced hstate
    rw [hnotices, List.mem_append] at hn
    obtain hn | hn := hn
    · exact .inl ⟨named, hnamed, n, hn, hname.symm, htrigger⟩
    · right
      rw [hname]
      exact hc.derived hstate hadded hlater hn htrigger
  · intro move now hmove
    have hkeys : action ∈ c.current.bare.offers.map (·.key) ↔ _ :=
      mem_keys_of_enter hentered hstate
    rw [unavailable_iff, hmove, ← Option.not_isSome_iff_eq_none, isSome_offer?_iff]
    refine (not_congr hkeys).trans ?_
    simp only [not_exists, not_and]

/-- What a reply stands for is an action that the service is told, and which is on offer, unless an
alert settles it. -/
theorem triggered_told {doc : Fields} {reply : Option Json}
    (hs : normalize (Json.obj doc) = .ok s) (hc : Reachable engine s c)
    (h : c.triggeredAction? service reply = some action) :
    Requested engine c service reply action ∨
      ∃ state ctx, Expected engine doc s c service action state ctx := by
  obtain hexpected | ⟨hnone, hrequested⟩ := Option.or_eq_some_iff.1 h
  · exact .inr (expected_of_eq hs hc hexpected)
  · exact .inl (requested_of_eq hc hnone hrequested)

/-- Of its two actions, the email service picks the resending. -/
theorem resending_told :
    ∃ s c, normalize (Json.obj letterDocument) = .ok s ∧ Reachable (Engine.standard s) s c ∧
      Requested (Engine.standard s) c "email" (some resending) "resend" := by
  obtain ⟨hshown, -⟩ := mail_shown
  obtain ⟨c, hc, heq⟩ := Option.map_eq_some_iff.1 hshown
  obtain ⟨hnone, htriggered⟩ := of_decide_eq_true (Prod.mk.inj (Prod.mk.inj heq).2).2
  obtain ⟨hs, hreachable⟩ := reachable_of_trial hc
  obtain hrequested | ⟨_, _, hexpected⟩ := triggered_told hs hreachable htriggered
  · exact ⟨c.scenario, c, hs, hreachable, hrequested⟩
  · cases hnone.symm.trans hexpected.expected

/-- The email service is expected to send where it may not, and it is told nothing. -/
theorem sending_expected :
    ∃ s c, normalize (Json.obj (mailingDocument neverSent)) = .ok s ∧
      Reachable (Engine.standard s) s c ∧ c.triggeredAction? "email" none = some "send" ∧
      (¬ ∃ offer ∈ (c.messageTo "email").offers, offer.key = "send") ∧
      Unavailable (Engine.standard s) c emailSends (afterSeconds 1) := by
  obtain ⟨-, -, hshown⟩ := mail_shown
  obtain ⟨c, hc, heq⟩ := Option.map_eq_some_iff.1 hshown
  obtain ⟨hclosed, htriggered⟩ := Prod.mk.inj heq
  obtain ⟨hnothing, hnone⟩ := of_decide_eq_true hclosed
  obtain ⟨hs, hreachable⟩ := reachable_of_trial hc
  refine ⟨c.scenario, c, hs, hreachable, htriggered, ?_, unavailable_iff.2 hnone⟩
  rintro ⟨offer, hoffer, -⟩
  rw [hnothing] at hoffer
  cases hoffer

end Caseflow.Case
