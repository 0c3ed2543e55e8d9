import Caseflow.Proofs.Case.Writes
import Caseflow.Proofs.Case.Reachable
import Caseflow.Proofs.Json.Fields

/-!
# What a step takes over

A step that is taken ends with the title, the actors, the variables and the result that its context
shows after the updates. The actor who acts is shown twice there, among the actors and in the
current state, and only the latter is taken over, without its property `key`. So a write is found
in the case unless it is made at the entry of the acting actor, or at that key; and where nothing is
written, that key is all that can be lost.
-/
namespace Caseflow.Case

open Scenario Time

variable {engine : Engine} {c next : Case} {move : Move} {now : Timestamp} {predicting : Bool}
  {ctx profile v : Json} {key other name : String} {path place : List String} {fields : Fields}
  {actor : Performer}

theorem valueAt?_title (c : Case) (path : List String) :
    valueAt? ("title" :: path) c.encode = valueAt? path (.str c.title) := by
  simp [valueAt?, encode, Json.field?, Assoc.get?]

theorem valueAt?_result (c : Case) (path : List String) :
    valueAt? ("result" :: path) c.encode = valueAt? path c.result := by
  simp [valueAt?, encode, Json.field?, Assoc.get?]

theorem valueAt?_vars (c : Case) (name : String) (path : List String) :
    valueAt? ("vars" :: name :: path) c.encode = (c.vars.get? name).bind (valueAt? path) := by
  simp [valueAt?, encode, Json.field?, Assoc.get?, Dict.get?]

theorem valueAt?_actors (c : Case) (name : String) (path : List String) :
    valueAt? ("actors" :: name :: path) c.encode = (c.actors.get? name).bind (valueAt? path) := by
  simp [valueAt?, encode, Json.field?, Assoc.get?, Dict.get?]

theorem isText_field_iff :
    (v.field name).asString?.isSome = true ↔ ∃ text, v.field? name = some (.str text) := by
  rw [Json.field]
  cases v.field? name with
  | none => simp [Json.asString?]
  | some w => cases w <;> simp [Json.asString?]

theorem isObject_field_iff :
    (v.field name).asObject?.isSome = true ↔ ∃ fields, v.field? name = some (.obj fields) := by
  rw [Json.field]
  cases v.field? name with
  | none => simp [Json.asObject?]
  | some w => cases w <;> simp [Json.asObject?]

theorem shapeRefusals_eq_nil_iff :
    shapeRefusals ctx = [] ↔
      (∃ title, ctx.field? "title" = some (.str title)) ∧
        (∃ fields, ctx.field? "actors" = some (.obj fields)) ∧
        ∃ fields, ctx.field? "vars" = some (.obj fields) := by
  simp [shapeRefusals, ← isText_field_iff, ← isObject_field_iff, Option.isSome_iff_ne_none]

/-- An actor with the id that is given, if the one who acts had none before. -/
def identified (actor : Performer) (profile v : Json) : Json :=
  match actor.id, boundId? profile, v with
  | some id, none, .obj fields => .obj (Assoc.insert "id" (.str id) fields)
  | _, _, v => v

theorem bindActor_of_isService (h : isService actor.key = true) :
    c.bindActor actor profile = c := by
  unfold bindActor
  split
  · rw [if_pos h]
  · rfl

theorem get?_bindActor (hperson : isService actor.key = false) (c : Case) (profile : Json)
    (other : String) : (c.bindActor actor profile).actors.get? other =
      if actor.key = other then (c.actors.get? other).map (identified actor profile)
      else c.actors.get? other := by
  by_cases hother : actor.key = other
  · subst hother
    rw [if_pos rfl]
    unfold bindActor identified
    cases hid : actor.id with
    | none => simp
    | some id =>
      cases hbound : boundId? profile with
      | some bound => simp
      | none =>
        cases hactor : c.actors.get? actor.key with
        | none => simp [hactor]
        | some found => cases found <;> simp [hactor, hperson]
  · rw [if_neg hother]
    unfold bindActor
    split
    · rw [hperson, if_neg (by decide), Dict.get?_insert, if_neg hother]
    · rfl

theorem get?_withActing_of_ne {d : Dict Json} (h : key ≠ other) (acting : Json) :
    (withActing key acting d).get? other = d.get? other := by
  cases acting with
  | obj fields => simp [withActing, h]
  | _ => rfl

theorem get?_absorb (hactors : ctx.field? "actors" = some (.obj fields)) (hother : key ≠ other)
    (c : Case) : (c.absorb ctx key).actors.get? other = Assoc.get? other fields := by
  have hentries : entriesOf (ctx.field "actors") c.actors = .ofFields fields := by
    rw [field_of_field? hactors, entriesOf]
  unfold absorb
  rw [hentries]
  dsimp only
  split
  · exact Dict.get?_ofFields fields other
  · rw [get?_withActing_of_ne hother, Dict.get?_ofFields]

theorem get?_absorb_self (hperson : isService key = false)
    (hactor : (ctx.field "current").field "actor" = .obj fields) (c : Case) :
    (c.absorb ctx key).actors.get? key = some (.obj (Assoc.erase "key" fields)) := by
  simp [absorb, hperson, withActing, hactor]

theorem field?_identified (h : name = "id" → actor.id = none ∨ (boundId? profile).isSome = true)
    (v : Json) : (identified actor profile v).field? name = v.field? name := by
  unfold identified
  split
  · rename_i id fields hid hbound
    have hname : "id" ≠ name := by
      rintro rfl
      simp [hid, hbound] at h
    rw [Json.field?, Json.field?, Assoc.get?_insert_of_ne hname]
  · rfl

/-- An actor without its key. -/
def unkeyed : Json → Json
  | .obj fields => .obj (Assoc.erase "key" fields)
  | v => v

theorem field?_unkeyed_keyed (h : "key" ≠ name) (key : String) (v : Json) :
    (unkeyed (keyed key v)).field? name = v.field? name := by
  cases v with
  | obj fields =>
    simp [keyed, unkeyed, Json.field?, Assoc.get?_erase_of_ne h, Assoc.get?_insert_of_ne h]
  | _ => rfl

theorem unkeyed_keyed (h : v.field? "key" = none) (key : String) : unkeyed (keyed key v) = v := by
  cases v with
  | obj fields => simp [keyed, unkeyed, Assoc.erase_insert h]
  | _ => rfl

/-- The same id is bound, whether or not the actor had its key in between. -/
theorem field?_identified_unkeyed (h : "key" ≠ name) (key : String) (v : Json) :
    (identified actor profile (unkeyed (keyed key v))).field? name =
      (identified actor profile v).field? name := by
  cases v with
  | obj fields =>
    have hsame := field?_unkeyed_keyed h key (.obj fields)
    simp only [keyed, unkeyed, Json.field?] at hsame
    cases hid : actor.id with
    | none => simpa [identified, hid, keyed, unkeyed, Json.field?] using hsame
    | some id =>
      cases hbound : boundId? profile with
      | some bound => simpa [identified, hid, hbound, keyed, unkeyed, Json.field?] using hsame
      | none =>
        simp [identified, hid, hbound, keyed, unkeyed, Json.field?, Assoc.get?_insert, hsame]
  | _ => rfl

namespace Passage

variable {p : Passage engine c move now predicting}

def writes (p : Passage engine c move now predicting) : List Write :=
  writesOf engine.regex predicting (c.actingContext move.actor.key p.admission)
    p.admission.action.updates

/-- Where a case has what its context shows at a path after the updates. The acting actor is taken
from the current state, without the key and with the id that the step binds. -/
inductive Lands (p : Passage engine c move now predicting) : List String → List String → Prop
  | title (path : List String) : p.Lands ("title" :: path) ("title" :: path)
  | result (path : List String) : p.Lands ("result" :: path) ("result" :: path)
  | vars (name : String) (path : List String) :
      p.Lands ("vars" :: name :: path) ("vars" :: name :: path)
  | actors {name : String} (path : List String) (hother : move.actor.key ≠ name) :
      p.Lands ("actors" :: name :: path) ("actors" :: name :: path)
  | acting {name : String} {fields : Fields} (path : List String)
      (hactor : (p.ctx.field "current").field "actor" = .obj fields) (hkey : "key" ≠ name)
      (hid : name = "id" → move.actor.id = none ∨ (boundId? p.admission.profile).isSome = true) :
      p.Lands ("current" :: "actor" :: name :: path) ("actors" :: move.actor.key :: name :: path)

theorem result_eq (p : Passage engine c move now predicting) :
    p.result = { c.absorb p.ctx move.actor.key with
      actors := p.result.actors
      current := p.result.current
      events := p.result.events
      log := p.result.log } := by
  rw [result, bound, bindActor_eq]

theorem writes_eq (p : Passage engine c move now predicting) {admission : Admission}
    (h : engine.admission c move predicting = .ok admission) :
    p.writes = writesOf engine.regex predicting (c.actingContext move.actor.key admission)
      admission.action.updates := by
  rw [writes, Except.ok.inj (p.admitted.symm.trans h)]

theorem applied (p : Passage engine c move now predicting) :
    Applied engine.regex predicting (c.actingContext move.actor.key p.admission)
      p.admission.action.updates p.writes p.ctx := applied_writesOf p.updated

theorem reads (hperson : isService move.actor.key = false) (h : p.Lands path place) :
    valueAt? place p.result.encode = valueAt? path p.ctx := by
  obtain ⟨⟨title, htitle⟩, ⟨actors, hactors⟩, vars, hvars⟩ :=
    shapeRefusals_eq_nil_iff.1 (absorb_eq_ok_iff.1 p.absorbed).1
  cases h with
  | title path =>
    have heq : p.result.title = title := by
      rw [result_eq p]
      simp [absorb, field_of_field? htitle, Json.asString?]
    rw [valueAt?_title, heq, valueAt?, htitle, Option.bind_some]
  | result path =>
    obtain ⟨value, hvalue⟩ := Option.isSome_iff_exists.1 (p.applied.isSome_field?
      (show ((c.actingContext move.actor.key p.admission).field? "result").isSome = true from rfl))
    have heq : p.result.result = value := by
      rw [result_eq p]
      exact field_of_field? hvalue
    rw [valueAt?_result, heq, valueAt?, hvalue, Option.bind_some]
  | vars name path =>
    have heq : p.result.vars = .ofFields vars := by
      rw [result_eq p]
      simp [absorb, field_of_field? hvars, entriesOf]
    rw [valueAt?_vars, heq, Dict.get?_ofFields, valueAt?, hvars, Option.bind_some, valueAt?,
      Json.field?]
  | @actors name path hother =>
    have heq : p.result.actors.get? name = Assoc.get? name actors := by
      rw [result, bound, get?_bindActor hperson, if_neg hother, get?_absorb hactors hother]
    rw [valueAt?_actors, heq, valueAt?, hactors, Option.bind_some, valueAt?, Json.field?]
  | @acting name fields path hactor hkey hid =>
    have heq : p.result.actors.get? move.actor.key =
        some (identified move.actor p.admission.profile (.obj (Assoc.erase "key" fields))) := by
      rw [result, bound, get?_bindActor hperson, if_pos rfl, get?_absorb_self hperson hactor,
        Option.map_some]
    rw [valueAt?_actors, heq, Option.bind_some, valueAt?, field?_identified hid, Json.field?,
      Assoc.get?_erase_of_ne hkey, valueAt?_cons (by simp), valueAt?_cons (by simp), hactor,
      valueAt?, Json.field?]

end Passage

/-- The case that an authored scenario starts with, what an attempt is admitted with, and the case
that it leads to. -/
def attempted (document : Json) (move : Move) : Option (Case × Admission × Case) := do
  let c ← trial document []
  let engine := Engine.standard c.scenario
  let admission ← (engine.admission c move false).toOption
  let next ← (engine.decide c move (afterSeconds 1) false).toOption
  return (c, admission, next)

theorem of_attempted {document : Json} {admission : Admission}
    (h : attempted document move = some (c, admission, next)) :
    normalize document = .ok c.scenario ∧
      Reachable (Engine.standard c.scenario) c.scenario c ∧
      (Engine.standard c.scenario).admission c move false = .ok admission ∧
      (Engine.standard c.scenario).decide c move (afterSeconds 1) false = .ok next := by
  simp only [attempted, Option.bind_eq_bind, Option.bind_eq_some_iff, toOption_eq_some_iff] at h
  obtain ⟨c, hc, admission, hadmit, next, hnext, heq⟩ := h
  cases heq
  exact ⟨(reachable_of_trial hc).1, (reachable_of_trial hc).2, hadmit, hnext⟩

/-- A client may make a note, which is written where it is told. -/
def notingDocument (target : String) : Json := .obj [
  ("actions", .obj [("note", .obj [
    ("update", .obj [("set", .str target), ("value", .str "x")])])]),
  ("actors", .obj [("client", .obj [("properties", .obj [("note", .str "string")])])]),
  ("states", .obj [("initial", .obj [("goto", .str "(done)"), ("on", .str "note")])])]

def notingMove : Move := ⟨"note", ⟨"client", some "c1"⟩, none⟩

/-- A note that the client writes as the one who acts is among the actors afterwards; one that is
written there at once is lost. -/
theorem noting_shown :
    (["current.actor.note", "actors.client.note"].map fun target =>
      (attempted (notingDocument target) notingMove).map fun (c, admission, next) =>
        (writesOf Regex.linear false (c.actingContext "client" admission) admission.action.updates,
          valueAt? ["actors", "client", "note"] next.encode)) =
      [some ([⟨["current", "actor", "note"], .str "x"⟩], some (.str "x")),
        some ([⟨["actors", "client", "note"], .str "x"⟩], none)] := by
  decide +kernel

/-- What the context of a step shows after its updates, the case has at the end: so a write is found
there, but for what later writes put over it. -/
theorem writes_found (h : engine.decide c move now false = .ok next)
    (hperson : isService move.actor.key = false) :
    ∃ p : Passage engine c move now false, p.result = next ∧
      (∀ path place, p.Lands path place → valueAt? place next.encode = valueAt? path p.ctx) ∧
      ∀ earlier w later, p.writes = earlier ++ w :: later → ∀ more place,
        (∀ u ∈ later, Apart (w.path ++ more) u.path) → p.Lands (w.path ++ more) place →
          valueAt? place next.encode = valueAt? more w.value := by
  obtain ⟨p, rfl⟩ := decide_eq_ok_iff.1 h
  refine ⟨p, rfl, fun path place => p.reads hperson, ?_⟩
  intro earlier w later hwrites more place hlater hplace
  have happlied := p.applied
  rw [hwrites] at happlied
  rw [p.reads hperson hplace, happlied.survives hlater]

/-- The note of the client who acts is found among the actors. -/
theorem acting_note_found :
    ∃ s c next, normalize (notingDocument "current.actor.note") = .ok s ∧
      Reachable (Engine.standard s) s c ∧
      (Engine.standard s).decide c notingMove (afterSeconds 1) false = .ok next ∧
      isService notingMove.actor.key = false ∧
      valueAt? ["actors", "client", "note"] next.encode = some (.str "x") := by
  obtain ⟨hacting, -⟩ := List.cons.inj noting_shown
  obtain ⟨⟨c, admission, next⟩, hattempted, hshown⟩ := Option.map_eq_some_iff.1 hacting
  obtain ⟨hs, hreachable, hadmit, hnext⟩ := of_attempted hattempted
  obtain ⟨p, -, -, hfound⟩ := writes_found hnext rfl
  have hwrites := (p.writes_eq hadmit).trans (congrArg Prod.fst hshown)
  have happlied :
      Applied _ false _ _ ([] ++ ⟨["current", "actor", "note"], .str "x"⟩ :: []) p.ctx :=
    hwrites ▸ p.applied
  have hnote : valueAt? ["current", "actor", "note"] p.ctx = some (.str "x") :=
    happlied.survives (by simp)
  rw [valueAt?_cons (by simp), valueAt?_cons (by simp)] at hnote
  obtain ⟨fields, hactor⟩ := isObject_of_valueAt? hnote
  refine ⟨c.scenario, c, next, hs, hreachable, hnext, rfl, ?_⟩
  apply hfound [] _ [] hwrites [] _ (by simp)
  exact .acting [] hactor (by decide) fun hid => absurd hid (by decide)

/-- The note that is written at the entry of the client is lost where the client acts. -/
theorem entry_note_lost :
    ∃ s c, normalize (notingDocument "actors.client.note") = .ok s ∧
      Reachable (Engine.standard s) s c ∧
      ∃ p : Passage (Engine.standard s) c notingMove (afterSeconds 1) false,
        p.writes = [⟨["actors", "client", "note"], .str "x"⟩] ∧
        valueAt? ["actors", "client", "note"] p.result.encode = none := by
  obtain ⟨-, hentry⟩ := List.cons.inj noting_shown
  obtain ⟨⟨c, admission, next⟩, hattempted, hshown⟩ :=
    Option.map_eq_some_iff.1 (List.cons.inj hentry).1
  obtain ⟨hs, hreachable, hadmit, hnext⟩ := of_attempted hattempted
  obtain ⟨p, rfl⟩ := decide_eq_ok_iff.1 hnext
  exact ⟨c.scenario, c, hs, hreachable, p, (p.writes_eq hadmit).trans (congrArg Prod.fst hshown),
    congrArg Prod.snd hshown⟩

theorem absorb_actingContext (c : Case) (key : String) (admission : Admission) :
    c.absorb (c.actingContext key admission) key =
      if isService key then c
      else { c with actors := withActing key (keyed key admission.profile) c.actors } := by
  have hacting : ((c.actingContext key admission).field "current").field "actor" =
      keyed key admission.profile := by
    simp [actingContext, context, Json.field, Json.field?, Assoc.get?, Assoc.get?_insert]
  unfold absorb
  rw [hacting]
  simp only [Json.asString?, Json.field, Json.field?, actingContext, context, Assoc.get?,
    String.reduceEq, if_true, if_false, Option.getD_some, entriesOf, Dict.ofFields_entries]
  split <;> rfl

theorem get?_withActing_keyed {d : Dict Json} (h : d.get? key = some profile) :
    (withActing key (keyed key profile) d).get? key = some (unkeyed (keyed key profile)) := by
  cases profile with
  | obj fields => simp [keyed, withActing, unkeyed]
  | _ => exact h

/-- A step that writes nothing changes no actor but the one who acts, and nothing else that updates
can write. An actor who acts and has no property `key` at most gains the id that is given; of one
that has such a property, all others are as they were but for that id. -/
theorem unwritten_unchanged (h : engine.decide c move now false = .ok next) :
    ∃ p : Passage engine c move now false, p.result = next ∧ (p.writes = [] →
      next = { c with
        actors := next.actors
        current := next.current
        events := next.events
        log := next.log } ∧
      (∀ other, move.actor.key ≠ other ∨ isService move.actor.key = true →
        next.actors.get? other = c.actors.get? other) ∧
      (isService move.actor.key = false → ∃ before after,
        c.actors.get? move.actor.key = some before ∧
        next.actors.get? move.actor.key = some after ∧
        (before.field? "key" = none → after = identified move.actor before before) ∧
        ∀ name, "key" ≠ name →
          after.field? name = (identified move.actor before before).field? name)) := by
  obtain ⟨p, rfl⟩ := decide_eq_ok_iff.1 h
  refine ⟨p, rfl, ?_⟩
  intro hnone
  have happlied := p.applied
  rw [hnone] at happlied
  have habsorb := absorb_actingContext c move.actor.key p.admission
  rw [← happlied.eq_of_nil] at habsorb
  refine ⟨?_, ?_, ?_⟩
  · rw [p.result_eq, habsorb]
    split <;> rfl
  · intro other hother
    rw [Passage.result, Passage.bound, habsorb]
    by_cases hservice : isService move.actor.key = true
    · rw [bindActor_of_isService hservice, if_pos hservice]
    · have hne := hother.resolve_right hservice
      rw [get?_bindActor (by simpa using hservice), if_neg hne, if_neg hservice]
      exact get?_withActing_of_ne hne _
  · intro hperson
    obtain ⟨offer, action, before, -, -, hbefore, -, hadmission⟩ := admission_eq_ok_iff.1 p.admitted
    have hprofile : p.admission.profile = before := by rw [hadmission]
    rw [profile?, hperson, if_neg (by decide), Option.or_none] at hbefore
    refine ⟨before, identified move.actor before (unkeyed (keyed move.actor.key before)), hbefore,
      ?_, ?_, ?_⟩
    · rw [Passage.result, Passage.bound, habsorb, get?_bindActor hperson, if_pos rfl, hperson,
        if_neg (by decide), hprofile]
      exact congrArg _ (get?_withActing_keyed hbefore)
    · intro hkey
      rw [unkeyed_keyed hkey]
    · intro name hname
      exact field?_identified_unkeyed hname _ _

/-- A client with a property that no action writes. -/
def keepsakeDocument (name : String) : Json := .obj [
  ("actors", .obj [("client", .obj [("properties", .obj [
    (name, .obj [("default", .str "k-1"), ("type", .str "string")])])])]),
  ("states", .obj [("initial", .obj [("goto", .str "(done)"), ("on", .str "complete")])])]

def completingMove : Move := ⟨"complete", ⟨"client", some "c1"⟩, none⟩

def keepsakes (c : Case) : List (Option Json) :=
  ["note", "key"].map fun name => valueAt? ["actors", "client", name] c.encode

/-- A keepsake under one name stays, and one under the other is lost. -/
theorem keepsake_shown :
    (["note", "key"].map fun name =>
      (attempted (keepsakeDocument name) completingMove).map fun (c, admission, next) =>
        (writesOf Regex.linear false (c.actingContext "client" admission) admission.action.updates,
          c.keepsakes, next.keepsakes)) =
      [some ([], [some (.str "k-1"), none], [some (.str "k-1"), none]),
        some ([], [none, some (.str "k-1")], [none, none])] := by
  decide +kernel

/-- A client with a note keeps it on completing, and gets an id. -/
theorem note_kept :
    ∃ s c next before, normalize (keepsakeDocument "note") = .ok s ∧
      Reachable (Engine.standard s) s c ∧
      (Engine.standard s).decide c completingMove (afterSeconds 1) false = .ok next ∧
      c.actors.get? "client" = some before ∧ before.field? "note" = some (.str "k-1") ∧
      next.actors.get? "client" = some (identified completingMove.actor before before) := by
  obtain ⟨hnote, -⟩ := List.cons.inj keepsake_shown
  obtain ⟨⟨c, admission, next⟩, hattempted, hshown⟩ := Option.map_eq_some_iff.1 hnote
  obtain ⟨hs, hreachable, hadmit, hnext⟩ := of_attempted hattempted
  obtain ⟨hwrites, hkeepsakes⟩ := Prod.mk.inj hshown
  obtain ⟨p, -, hunwritten⟩ := unwritten_unchanged hnext
  obtain ⟨-, -, hacting⟩ := hunwritten ((p.writes_eq hadmit).trans hwrites)
  obtain ⟨before, after, hbefore, hafter, hsame, -⟩ := hacting rfl
  have hnames := (Prod.mk.inj hkeepsakes).1
  simp only [keepsakes, List.map_cons, List.map_nil, valueAt?_actors] at hnames
  change c.actors.get? "client" = some before at hbefore
  simp only [hbefore, Option.bind_some, valueAt?, Option.bind_fun_some, List.cons.injEq,
    and_true] at hnames
  refine ⟨c.scenario, c, next, before, hs, hreachable, hnext, hbefore, hnames.1, ?_⟩
  rw [← hsame hnames.2]
  exact hafter

/-- A client with a property `key` loses it on completing. -/
theorem key_lost :
    ∃ s c, normalize (keepsakeDocument "key") = .ok s ∧
      Reachable (Engine.standard s) s c ∧
      ∃ p : Passage (Engine.standard s) c completingMove (afterSeconds 1) false,
        p.writes = [] ∧ c.keepsakes = [none, some (.str "k-1")] ∧
        p.result.keepsakes = [none, none] := by
  obtain ⟨-, hkey⟩ := List.cons.inj keepsake_shown
  obtain ⟨⟨c, admission, next⟩, hattempted, hshown⟩ :=
    Option.map_eq_some_iff.1 (List.cons.inj hkey).1
  obtain ⟨hs, hreachable, hadmit, hnext⟩ := of_attempted hattempted
  obtain ⟨p, rfl⟩ := decide_eq_ok_iff.1 hnext
  obtain ⟨hwrites, hkeepsakes⟩ := Prod.mk.inj hshown
  obtain ⟨hbefore, hafter⟩ := Prod.mk.inj hkeepsakes
  exact ⟨c.scenario, c, hs, hreachable, p, (p.writes_eq hadmit).trans hwrites, hbefore, hafter⟩

end Caseflow.Case
