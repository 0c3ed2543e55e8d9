import Caseflow.Case.Standard
import Caseflow.Case.Start
import Caseflow.Proofs.Case.Passage
import Caseflow.Proofs.Case.Stage
import Caseflow.Scenario.Normalize

/-!
# Reachable cases

A case is reachable if an engine makes it from a start by attempts and looks at the clock.
`reachable_iff_play` says the same by a run over a list of requests. A reachable case keeps its
scenario, and its current state shows what entering that state in some context shows.
-/
namespace Caseflow.Case

open Scenario Time

variable {engine : Engine} {s : Scenario} {c next : Case}

/-- What can be asked of a case: an attempt, or a look at the clock. -/
inductive Request
  | attempt (move : Move) (now : Timestamp)
  | clock (now : Timestamp)
deriving DecidableEq

namespace Engine

def serve (engine : Engine) (c : Case) : Request → Result Case
  | .attempt move now => engine.step c move now
  | .clock now => engine.timeout c now

def serveAll (engine : Engine) : Case → List Request → Result Case
  | c, [] => .ok c
  | c, request :: rest => do serveAll engine (← engine.serve c request) rest

def play (engine : Engine) (s : Scenario) (start : Start) (requests : List Request) :
    Result Case := do
  engine.serveAll (← engine.instantiate s start) requests

end Engine

/-- The cases of a scenario that an engine can make. -/
inductive Reachable (engine : Engine) (s : Scenario) : Case → Prop
  | start {start : Start} {c : Case} (h : engine.instantiate s start = .ok c) :
      Reachable engine s c
  | step {c next : Case} {move : Move} {now : Timestamp} (hc : Reachable engine s c)
      (h : engine.step c move now = .ok next) : Reachable engine s next
  | timeout {c next : Case} {now : Timestamp} (hc : Reachable engine s c)
      (h : engine.timeout c now = .ok next) : Reachable engine s next

theorem serveAll_append (engine : Engine) (c : Case) (requests more : List Request) :
    engine.serveAll c (requests ++ more) =
      (engine.serveAll c requests >>= fun c => engine.serveAll c more) := by
  induction requests generalizing c with
  | nil => rfl
  | cons request rest ih =>
    simp only [List.cons_append, Engine.serveAll]
    cases engine.serve c request with
    | error e => rfl
    | ok next => exact ih next

theorem Reachable.serve (hc : Reachable engine s c) {request : Request}
    (h : engine.serve c request = .ok next) : Reachable engine s next := by
  cases request with
  | attempt move now => exact hc.step h
  | clock now => exact hc.timeout h

theorem Reachable.serveAll (hc : Reachable engine s c) {requests : List Request}
    (h : engine.serveAll c requests = .ok next) : Reachable engine s next := by
  induction requests generalizing c with
  | nil =>
    cases h
    exact hc
  | cons request rest ih =>
    obtain ⟨d, hd, h⟩ := bind_eq_ok_iff.1 h
    exact ih (hc.serve hd) h

theorem reachable_iff_play :
    Reachable engine s c ↔ ∃ start requests, engine.play s start requests = .ok c := by
  constructor
  · intro h
    have extend {c next : Case} (request : Request)
        (hc : ∃ start requests, engine.play s start requests = .ok c)
        (hnext : engine.serve c request = .ok next) :
        ∃ start requests, engine.play s start requests = .ok next := by
      obtain ⟨start, requests, hplay⟩ := hc
      obtain ⟨first, hfirst, hserve⟩ := bind_eq_ok_iff.1 hplay
      refine ⟨start, requests ++ [request], bind_eq_ok_iff.2 ⟨first, hfirst, ?_⟩⟩
      rw [serveAll_append, bind_eq_ok_iff]
      exact ⟨c, hserve, bind_eq_ok_iff.2 ⟨next, hnext, rfl⟩⟩
    induction h with
    | @start start c h => exact ⟨start, [], bind_eq_ok_iff.2 ⟨c, h, rfl⟩⟩
    | @step c next move now _ h ih => exact extend (.attempt move now) ih h
    | @timeout c next now _ h ih => exact extend (.clock now) ih h
  · rintro ⟨start, requests, h⟩
    obtain ⟨first, hfirst, hserve⟩ := bind_eq_ok_iff.1 h
    exact (Reachable.start hfirst).serveAll hserve

theorem begin_eq_ok_iff {start : Genesis} :
    engine.begin s start = .ok c ↔
      ∃ actors stage, nameActors s (declaredActors s) start.actors.entries = (actors, []) ∧
        engine.refusals (unentered s start actors) = [] ∧
        Stage.enter engine.regex s initialKey ((unentered s start actors).context .null)
          start.timestamp = .ok stage ∧
        c = { unentered s start actors with current := stage } := by
  unfold Engine.begin
  obtain ⟨actors, reasons⟩ := nameActors s (declaredActors s) start.actors.entries
  simp only [Prod.mk.injEq]
  constructor
  · intro h
    split at h
    · rename_i hnone
      rw [List.isEmpty_iff, List.append_eq_nil_iff] at hnone
      obtain ⟨stage, hstage, heq⟩ := bind_eq_ok_iff.1 h
      cases heq
      exact ⟨actors, stage, ⟨rfl, hnone.1⟩, hnone.2, hstage, rfl⟩
    · cases h
  · rintro ⟨_, stage, ⟨rfl, rfl⟩, hsound, hstage, rfl⟩
    rw [if_pos (by rw [List.nil_append, hsound]; rfl), bind_eq_ok_iff]
    exact ⟨stage, hstage, rfl⟩

theorem scenario_step {move : Move} {now : Timestamp} (h : engine.step c move now = .ok next) :
    next.scenario = c.scenario := by
  obtain htaken | ⟨reasons, -, -, rfl⟩ := step_eq_ok_iff.1 h
  · obtain ⟨p, rfl⟩ := decide_eq_ok_iff.1 htaken
    exact scenario_bindActor _ _ _
  · rfl

theorem scenario_timeout {now : Timestamp} (h : engine.timeout c now = .ok next) :
    next.scenario = c.scenario := by
  obtain ⟨-, rfl⟩ | hdue := timeout_eq_ok_iff.1 h
  · rfl
  · obtain ⟨state, t, entries, stage, -, -, -, -, rfl⟩ := expire?_eq_some_iff.1 hdue
    rfl

theorem Reachable.scenario (h : Reachable engine s c) : c.scenario = s := by
  induction h with
  | start h =>
    obtain ⟨actors, stage, -, -, -, rfl⟩ := begin_eq_ok_iff.1 h
    rfl
  | step _ h ih => rw [scenario_step h, ih]
  | timeout _ h ih => rw [scenario_timeout h, ih]

/-- The current state of a reachable case shows what entering it in some context shows. -/
theorem Reachable.entered (h : Reachable engine s c) :
    ∃ ctx,
      Stage.enter engine.regex s c.current.key ctx c.current.timestamp = .ok c.current.bare := by
  induction h with
  | start h =>
    obtain ⟨actors, stage, -, -, hstage, rfl⟩ := begin_eq_ok_iff.1 h
    exact ⟨_, enter_again hstage⟩
  | step hc h ih =>
    obtain htaken | ⟨reasons, -, -, rfl⟩ := step_eq_ok_iff.1 h
    · obtain ⟨p, rfl⟩ := decide_eq_ok_iff.1 htaken
      have hstage := enter_again p.entered
      rw [hc.scenario] at hstage
      exact ⟨_, hstage⟩
    · exact ih
  | timeout hc h ih =>
    obtain ⟨-, rfl⟩ | hdue := timeout_eq_ok_iff.1 h
    · exact ih
    · obtain ⟨state, t, entries, stage, -, -, -, hstage, rfl⟩ := expire?_eq_some_iff.1 hdue
      have hshown := enter_again hstage
      rw [hc.scenario] at hshown
      exact ⟨_, hshown⟩

/-- The case that requests make of an authored scenario, with nothing given at its start. -/
def trial (document : Json) (requests : List Request) : Option Case := do
  let s ← (normalize document).toOption
  ((Engine.standard s).play s ⟨Uuid.urlNamespace, .epoch, .empty, .empty⟩ requests).toOption

def afterSeconds (n : Int) : Timestamp := ⟨n, 0, .inl (by decide)⟩

/-- What has been submitted expires after an hour. -/
def expiringDocument : Json := .obj [("states", .obj [
  ("initial", .obj [("goto", .str "waiting"), ("on", .str "submit")]),
  ("waiting", .obj [("after", .str "1 hour"), ("goto", .str "(expired)")])])]

/-- A step that is skipped, one that is taken, and the clock before and after the hour. -/
def expiringRequests : List Request :=
  [.attempt ⟨"submit", ⟨"nobody", none⟩, none⟩ (afterSeconds 1),
    .attempt ⟨"submit", ⟨"actor", some "a1"⟩, some .null⟩ (afterSeconds 1),
    .clock (afterSeconds 2), .clock (afterSeconds 3601)]

theorem trial_eq_some_iff {document : Json} {requests : List Request} :
    trial document requests = some c ↔
      ∃ s, normalize document = .ok s ∧
        (Engine.standard s).play s ⟨Uuid.urlNamespace, .epoch, .empty, .empty⟩ requests
          = .ok c := by
  simp only [trial, Option.bind_eq_bind, Option.bind_eq_some_iff, toOption_eq_some_iff]

theorem reachable_of_trial {document : Json} {requests : List Request}
    (h : trial document requests = some c) :
    normalize document = .ok c.scenario ∧
      Reachable (Engine.standard c.scenario) c.scenario c := by
  obtain ⟨s, hs, hplay⟩ := trial_eq_some_iff.1 h
  have hreachable := reachable_iff_play.2 ⟨_, _, hplay⟩
  obtain rfl := hreachable.scenario
  exact ⟨hs, hreachable⟩

/-- The trial ends in the state that time leads to, with an event for all but the early look at
the clock. -/
theorem trial_expiring :
    (trial expiringDocument expiringRequests).map (fun c => (c.current.key, c.events.length)) =
      some ("(expired)", 4) := by
  decide +kernel

end Caseflow.Case
