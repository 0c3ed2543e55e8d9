import Caseflow.Proofs.Scenario.Coined
import Caseflow.Proofs.Scenario.Services

/-!
# Notices for services that can act

Behind the notices that are written for a state stands one more for each service that can act in it
and has none yet, with the only key it can act with as the trigger. Who can act is looked up when
the state is settled. A later state may coin an action over one that this state takes, and then the
services of the new action are not announced, while those of the old one still are.
-/
namespace Caseflow.Scenario

variable {s : Scenario} {doc : Fields} {key service short : String} {actions more : Dict Action}
  {state : State} {named added : List Notice}

/-- What is added to the notices of a state: one for each service that can act and is not named yet,
with a trigger if the service can act with just one key. -/
structure Announces (key : String) (actions : Dict Action) (state : State)
    (named added : List Notice) : Prop where
  nodup : (added.map (·.service)).Nodup
  mem_iff : ∀ service, service ∈ added.map (·.service) ↔
    (∃ short, state.Serves key actions service short) ∧ service ∉ named.map (·.service)
  trigger_iff : ∀ n ∈ added, ∀ short, n.trigger = some short ↔
    ∀ other, state.Serves key actions n.service other ↔ other = short
  plain : ∀ n ∈ added, n.guard = .bool true ∧ n.message = none

theorem onlyKey?_eq_some_iff {keys : List String} :
    onlyKey? keys = some short ↔ keys = [short] := by
  unfold onlyKey?
  split
  · simp
  · rename_i hmany
    refine iff_of_false nofun ?_
    rintro rfl
    exact hmany short rfl

def noticeFor (mentions : List (String × String)) (service : String) : Notice where
  service := service
  trigger := onlyKey? (keysOf service mentions).eraseDups
  guard := .bool true
  message := none

theorem impliedNotices_eq (named : List Notice) (mentions : List (String × String)) :
    impliedNotices named (gather mentions) =
      ((mentions.map (·.1)).eraseDups.filter fun service =>
        !named.any (·.service == service)).map (noticeFor mentions) := by
  rw [impliedNotices, gather_eq, List.filter_map, List.map_map]
  rfl

theorem services_impliedNotices (named : List Notice) (mentions : List (String × String)) :
    (impliedNotices named (gather mentions)).map (·.service) =
      (mentions.map (·.1)).eraseDups.filter fun service => !named.any (·.service == service) := by
  rw [impliedNotices_eq, List.map_map]
  exact List.map_id _

theorem announces_impliedNotices (key : String) (actions : Dict Action) (state : State)
    (named : List Notice) : Announces key actions state named
      (impliedNotices named (serviceKeys key actions state.actionTransitions)) := by
  rw [serviceKeys_eq_gather]
  refine ⟨?_, ?_, ?_, ?_⟩
  · rw [services_impliedNotices]
    exact (nodup_eraseDups _).filter _
  · intro service
    rw [services_impliedNotices, names_mentions, List.mem_filter, List.mem_eraseDups,
      mem_services_iff key]
    simp
  · rw [impliedNotices_eq]
    intro n hn short
    obtain ⟨service, -, rfl⟩ := List.mem_map.1 hn
    refine onlyKey?_eq_some_iff.trans (eraseDups_eq_singleton_iff.trans ?_)
    exact forall_congr' fun other => iff_congr mem_keysOf_mentions Iff.rfl
  · rw [impliedNotices_eq]
    intro n hn
    obtain ⟨service, -, rfl⟩ := List.mem_map.1 hn
    exact ⟨rfl, rfl⟩

/-- Only the actions that the transitions of a state take matter. -/
theorem serves_congr (key : String)
    (h : ∀ t ∈ state.actionTransitions, actions.get? t.action = more.get? t.action) :
    state.Serves key actions = state.Serves key more := by
  funext service short
  refine propext (exists_congr fun t => and_congr_right fun ht => ?_)
  rw [h t ht]

theorem Announces.congr (ha : Announces key actions state named added)
    (h : ∀ t ∈ state.actionTransitions, actions.get? t.action = more.get? t.action) :
    Announces key more state named added := by
  have hserves := serves_congr key h
  refine ⟨ha.nodup, ?_, ?_, ha.plain⟩
  · intro service
    rw [ha.mem_iff, hserves]
  · intro n hn short
    rw [ha.trigger_iff n hn, hserves]

/-- The service of a notice that is added can act with what the notice expects. -/
theorem Announces.serves (ha : Announces key actions state named added) {n : Notice}
    (hn : n ∈ added) (h : n.trigger = some short) : state.Serves key actions n.service short :=
  ((ha.trigger_iff n hn short).1 h short).2 rfl

/-- The notices that a document has for a state; it has none for a state that it does not name. -/
def authoredNotices (doc : Fields) (key : String) : Result (List Notice) := do
  let states ← AuthoredState.readAll (Assoc.get? "states" doc)
  match states.get? key with
  | some authored => Authored.notices key (Authored.present? "notify" authored.fields)
  | none => return []

/-- How the notices of a state come about: those for services are for who can act in the state with
the actions as they are then, and a later state may coin over these. -/
theorem Normalization.exists_announced (n : Normalization doc s)
    (hstate : s.states.get? key = some state) :
    ∃ named added between, authoredNotices doc key = .ok named ∧ state.notices = named ++ added ∧
      Announces key between state named added ∧
      ∀ k, ¬ CoinedAfter doc s key k → between.get? k = s.actions.get? k := by
  have hread (named : List Notice) : authoredNotices doc key = .ok named ↔
      (match n.authored.get? key with
        | some authored => Authored.notices key (Authored.present? "notify" authored.fields)
        | none => .ok []) = .ok named := by
    rw [authoredNotices, n.states_read]
    rfl
  cases hauthored : n.authored.get? key with
  | some authored =>
    obtain ⟨_, _, between, hsame, ⟨t⟩, -, hlater⟩ := n.exists_settlement hauthored
    cases hstate.symm.trans hsame
    refine ⟨t.notices, _, between, ?_, t.notices_eq, announces_impliedNotices .., ?_⟩
    · rw [hread, hauthored]
      exact t.notices_read
    · exact fun k hk => (hlater k hk).symm
  | none =>
    obtain ⟨_, _, _, hsome, -⟩ | ⟨-, rfl⟩ := n.origin hstate
    · rw [hauthored] at hsome
      cases hsome
    · refine ⟨[], [], s.actions, ?_, rfl, ?_, fun _ _ => rfl⟩
      · rw [hread, hauthored]
      · exact announces_impliedNotices key s.actions (.ending key) []

/-- The services that are to file something, or to file and sign it, besides one that is told so. -/
def archivingDocument : Fields := [("states", .obj [("initial", .obj [
  ("notify", .str "mailer"),
  ("transitions", .arr [
    .obj [("by", .arr [.str "service:mailer", .str "service:archive"]), ("goto", .str "(filed)"),
      ("on", .str "file")],
    .obj [("by", .arr [.str "service:archive", .str "service:docs"]), ("goto", .str "(signed)"),
      ("on", .str "sign")]])])])]

/-- A clerk may sign in one state, and a service in a state below it, under the same key. -/
def reviewDocument : Fields := [("states", .obj [
  ("initial", .obj [("by", .str "service:clerk"), ("goto", .str "initial.review"),
    ("on", .str "review.sign")]),
  ("initial.review", .obj [("by", .str "service:docs"), ("goto", .str "(signed)"),
    ("on", .str "sign")])])]

def initialNotices? (doc : Fields) :
    Option (List String × List Notice × List String) := do
  let s ← (normalize (.obj doc)).toOption
  let state ← s.states.get? initialKey
  let states ← (AuthoredState.readAll (Assoc.get? "states" doc)).toOption
  return (states.keys, state.notices, state.services s.actions)

theorem announced_shown :
    initialNotices? archivingDocument = some (["initial"],
      [⟨"mailer", none, .bool true, none⟩, ⟨"archive", none, .bool true, none⟩,
        ⟨"docs", some "sign", .bool true, none⟩],
      ["mailer", "archive", "archive", "docs"]) ∧
    initialNotices? reviewDocument = some (["initial", "initial.review"],
      [⟨"clerk", some "review.sign", .bool true, none⟩], ["docs"]) ∧
    (authoredNotices reviewDocument initialKey).toOption = some [] := by
  decide +kernel

/-- The notices of a state are the written ones and then those for the services that can act in it
and are not named there, unless a later state coins an action over one that the state takes. Then
they are for those that could act before. -/
theorem services_announced (h : normalize (.obj doc) = .ok s)
    (hstate : s.states.get? key = some state) :
    ∃ named added, authoredNotices doc key = .ok named ∧ state.notices = named ++ added ∧
      (∃ between, Announces key between state named added ∧
        ∀ k, ¬ CoinedAfter doc s key k → between.get? k = s.actions.get? k) ∧
      ((∀ t ∈ state.actionTransitions, ¬ CoinedAfter doc s key t.action) →
        Announces key s.actions state named added) := by
  obtain ⟨_, heq, ⟨n⟩⟩ := normalize_eq_ok_iff.1 h
  cases heq
  obtain ⟨named, added, between, hnamed, hnotices, hadded, hlater⟩ := n.exists_announced hstate
  refine ⟨named, added, hnamed, hnotices, ⟨between, hadded, hlater⟩, ?_⟩
  intro hlast
  exact hadded.congr fun t ht => hlater t.action (hlast t ht)

/-- Only one state is written in the document about archiving, so its services are announced as they
are in the result, each once. -/
theorem archiving_announced :
    ∃ s state, normalize (.obj archivingDocument) = .ok s ∧ s.states.get? initialKey = some state ∧
      state.notices = [⟨"mailer", none, .bool true, none⟩, ⟨"archive", none, .bool true, none⟩,
        ⟨"docs", some "sign", .bool true, none⟩] ∧
      ∃ named added, authoredNotices archivingDocument initialKey = .ok named ∧
        state.notices = named ++ added ∧ Announces initialKey s.actions state named added := by
  obtain ⟨hshown, -⟩ := announced_shown
  simp only [initialNotices?, Option.bind_eq_bind, Option.bind_eq_some_iff,
    toOption_eq_some_iff] at hshown
  obtain ⟨s, hs, state, hstate, states, hstates, heq⟩ := hshown
  obtain ⟨hkeys, heq⟩ := Prod.mk.inj (Option.some.inj heq)
  obtain ⟨hnotices, -⟩ := Prod.mk.inj heq
  obtain ⟨named, added, hnamed, hall, -, hlast⟩ := services_announced hs hstate
  refine ⟨s, state, hs, hstate, hnotices, named, added, hnamed, hall, hlast fun t _ => ?_⟩
  rintro ⟨other, target, habove, hcoins, -⟩
  have hother := mem_keys_of_coins hstates hcoins
  rw [hkeys, List.mem_singleton] at hother
  rw [hother] at habove
  exact Std.lt_irrefl habove

/-- The clerk is announced for an action that in the end another service performs. -/
theorem review_misannounced :
    ∃ s state, normalize (.obj reviewDocument) = .ok s ∧ s.states.get? initialKey = some state ∧
      ¬ ∃ named added, authoredNotices reviewDocument initialKey = .ok named ∧
        state.notices = named ++ added ∧ Announces initialKey s.actions state named added := by
  obtain ⟨-, hshown, hnone⟩ := announced_shown
  simp only [initialNotices?, Option.bind_eq_bind, Option.bind_eq_some_iff,
    toOption_eq_some_iff] at hshown
  obtain ⟨s, hs, state, hstate, states, -, heq⟩ := hshown
  obtain ⟨hnotices, hservices⟩ := Prod.mk.inj (Prod.mk.inj (Option.some.inj heq)).2
  refine ⟨s, state, hs, hstate, ?_⟩
  rintro ⟨named, added, hnamed, hall, hadded⟩
  rw [toOption_eq_some_iff, hnamed] at hnone
  cases hnone
  rw [hall, List.nil_append] at hnotices
  have hclerk : "clerk" ∈ added.map (·.service) := by
    rw [hnotices]
    exact List.mem_cons_self
  obtain ⟨hserves, -⟩ := (hadded.mem_iff "clerk").1 hclerk
  have hmem := (mem_services_iff initialKey).2 hserves
  rw [hservices] at hmem
  exact absurd hmem (by decide)

end Caseflow.Scenario
