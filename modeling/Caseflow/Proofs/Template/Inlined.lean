import Caseflow.Proofs.Template.Alike
import Caseflow.Proofs.Outcome

/-!
# Included templates in place of their tags

Including a template while another one is rendered comes to the same as writing its text where its
tag stands: also inside sections, where it is rendered with the stack of frames at that place.
-/
namespace Caseflow.Template

variable {partials : Fields} {levels : Nat} {template : String}

def source? (partials : Fields) (name : String) : Option String :=
  match Assoc.get? name partials with
  | some (.str source) => some source
  | _ => none

/-- What comes in the place of a span: for the tag of a template to include the spans of its text
or, if there is no text, nothing. -/
def Span.replaced (partials : Fields) (within : String → List Span) (s : Span) : List Span :=
  match s.piece with
  | .tag (.include name) => ((source? partials name).map within).getD []
  | _ => [s]

/-- The spans of a template with those of the included ones in the place of their tags, so many
levels deep. -/
def inlined (partials : Fields) : Nat → String → List Span
  | 0, template => (spans template).flatMap (Span.replaced partials fun _ => [])
  | levels + 1, template =>
    (spans template).flatMap (Span.replaced partials (inlined partials levels))

def includedBy (partials : Fields) (ps : List Piece) : List String :=
  ps.filterMap fun
    | .tag (.include name) => source? partials name
    | _ => none

/-- Templates include each other to no more than so many levels. -/
def NestsWithin (partials : Fields) : Nat → String → Prop
  | 0, template => includedBy partials (pieces template) = []
  | levels + 1, template =>
    ∀ source ∈ includedBy partials (pieces template), NestsWithin partials levels source

instance decidableNestsWithin (partials : Fields) :
    ∀ levels template, Decidable (NestsWithin partials levels template)
  | 0, _ => inferInstanceAs (Decidable (_ = _))
  | levels + 1, template =>
    have : DecidablePred (NestsWithin partials levels) := decidableNestsWithin partials levels
    inferInstanceAs (Decidable (∀ source ∈ includedBy partials (pieces template), _))

/-- Every template to include can be parsed. -/
def Parsable (partials : Fields) : Prop :=
  ∀ name source, source? partials name = some source → ∃ nodes, parse source = .ok nodes

/-- A template with the texts of the included ones in the place of their tags. -/
def inlinedText (partials : Fields) (levels : Nat) (template : String) : String :=
  String.ofList ((inlined partials levels template).flatMap (·.chars))

theorem renderIncluded_of_none {name : String} (h : source? partials name = none)
    (stack : List Json) : renderIncluded partials levels name stack = .ok "" := by
  unfold renderIncluded
  split
  next hget => simp [source?, hget] at h
  next hget => simp [source?, hget] at h
  next => rfl

theorem get?_of_source? {name source : String} (h : source? partials name = some source) :
    Assoc.get? name partials = some (.str source) := by
  rw [source?] at h
  split at h
  next hget => rw [hget, Option.some.inj h]
  next => cases h

theorem renderIncluded_of_some {name source : String} (h : source? partials name = some source)
    (stack : List Json) :
    renderIncluded partials (levels + 1) name stack =
      (do renderNodes (renderIncluded partials levels) (← parse source) stack) := by
  rw [renderIncluded.eq_def]
  dsimp only
  rw [get?_of_source? h]

theorem Span.replaced_of_include {s : Span} {name : String} (h : s.piece = .tag (.include name))
    (within : String → List Span) :
    s.replaced partials within = ((source? partials name).map within).getD [] := by
  rw [Span.replaced, h]

theorem Span.replaced_of_ne {s : Span} (h : ∀ name, s.piece ≠ .tag (.include name))
    (within : String → List Span) : s.replaced partials within = [s] := by
  unfold Span.replaced
  split
  next name hname => exact absurd hname (h name)
  next => rfl

theorem mem_includedBy_cons {source : String} {ps : List Piece} (p : Piece)
    (h : source ∈ includedBy partials ps) : source ∈ includedBy partials (p :: ps) := by
  rw [includedBy, List.filterMap_cons]
  split
  · exact h
  · exact List.mem_cons_of_mem _ h

theorem mem_includedBy_include {name source : String} (h : source? partials name = some source)
    (ps : List Piece) : source ∈ includedBy partials (.tag (.include name) :: ps) := by
  rw [includedBy, List.filterMap_cons]
  dsimp only
  rw [h]
  exact List.mem_cons_self

/-- Replacing a tag by the pieces of a template that is rendered in its place keeps what is gathered
alike. -/
theorem agree_replaced {inc others : String → List Json → Except Error String}
    {within : String → List Span} (ss : List Span)
    (hnone : ∀ name, source? partials name = none → ∀ stack, inc name stack = .ok "")
    (hsome : ∀ name source, source? partials name = some source →
      source ∈ includedBy partials (ss.map (·.piece)) →
        ∃ nodes, build [] [] ((within source).map (·.piece)) = .ok nodes ∧
          ∀ stack, inc name stack = renderNodes others nodes stack) :
    Agree inc others (ss.map (·.piece))
      ((ss.flatMap (Span.replaced partials within)).map (·.piece)) := by
  induction ss with
  | nil => exact .nil
  | cons s ss ih =>
    rw [List.map_cons] at hsome
    have hrest := ih fun name source hsource hmem =>
      hsome name source hsource (mem_includedBy_cons s.piece hmem)
    rw [List.map_cons, List.flatMap_cons, List.map_append]
    by_cases hs : ∃ name, s.piece = .tag (.include name)
    · obtain ⟨name, hname⟩ := hs
      rw [Span.replaced_of_include hname, hname]
      cases hsource : source? partials name with
      | none =>
        have hnodes : build [] [] [] = .ok [] := rfl
        refine Agree.included hnodes (fun stack => ?_) hrest
        rw [hnone name hsource, renderNodes_nil]
        rfl
      | some source =>
        rw [hname] at hsome
        obtain ⟨nodes, hnodes, hinc⟩ :=
          hsome name source hsource (mem_includedBy_include hsource _)
        exact Agree.included hnodes hinc hrest
    · rw [Span.replaced_of_ne fun name hname => hs ⟨name, hname⟩]
      exact hrest.cons fun name hname => absurd ⟨name, hname⟩ hs

/-- While templates do not include each other deeper than the levels left, a template agrees with
its inlined pieces. By induction on the levels. -/
theorem agree_inlined (others : String → List Json → Except Error String)
    (hparse : Parsable partials)
    (hnests : NestsWithin partials levels template) :
    Agree (renderIncluded partials levels) others (pieces template)
      ((inlined partials levels template).map (·.piece)) := by
  induction levels generalizing template with
  | zero =>
    refine agree_replaced (spans template) (fun name h => renderIncluded_of_none h) ?_
    intro name source hsource hmem
    have hnil : includedBy partials (pieces template) = [] := hnests
    rw [pieces] at hnil
    rw [hnil] at hmem
    cases hmem
  | succ levels ih =>
    refine agree_replaced (spans template) (fun name h => renderIncluded_of_none h) ?_
    intro name source hsource hmem
    obtain ⟨nodes, hnodes⟩ := hparse name source hsource
    have hmatches := ih (hnests source hmem) .nil
    rw [parse] at hnodes
    rw [hnodes] at hmatches
    obtain ⟨ms, hms, halike⟩ := hmatches.ok
    refine ⟨ms, hms, fun stack => ?_⟩
    rw [renderIncluded_of_some hsource, parse, hnodes]
    exact halike stack

theorem closed_replaced {within : String → List Span} {s : Span}
    (hwithin : ∀ name source, source? partials name = some source → Closed (within source))
    (hs : s.IsText ∨ s.IsTag) : Closed (s.replaced partials within) := by
  by_cases hinclude : ∃ name, s.piece = .tag (.include name)
  · obtain ⟨name, hname⟩ := hinclude
    rw [Span.replaced_of_include hname]
    cases hsource : source? partials name with
    | none => exact .nil
    | some source => exact hwithin name source hsource
  · rw [Span.replaced_of_ne fun name hname => hinclude ⟨name, hname⟩]
    exact List.forall_mem_singleton.2 hs

theorem sound_replaced {within : String → List Span} {ss : List Span}
    (hwithin : ∀ name source, source? partials name = some source → Closed (within source))
    (hss : Sound ss) : Sound (ss.flatMap (Span.replaced partials within)) := by
  induction hss with
  | nil => exact .nil
  | text hs _ ih => exact (closed_replaced hwithin (.inl hs)).sound_append ih
  | tag hs _ ih => exact (closed_replaced hwithin (.inr hs)).sound_append ih
  | @unclosed s hs =>
    have hne : ∀ name, s.piece ≠ .tag (.include name) := by
      intro name hname
      have hpiece := hs.piece
      simp [hname] at hpiece
    rw [List.flatMap_singleton, Span.replaced_of_ne hne]
    exact .unclosed hs

/-- Where a template can be parsed, its tags are closed also once others stand in their place. -/
theorem closed_flatMap_replaced {within : String → List Span} {source : String}
    {nodes : List Node}
    (hwithin : ∀ name source, source? partials name = some source → Closed (within source))
    (h : parse source = .ok nodes) :
    Closed ((spans source).flatMap (Span.replaced partials within)) := by
  have hspans : Closed (spans source) := (sound_cut _).closed (closed_of_build h)
  intro t ht
  obtain ⟨s, hs, hts⟩ := List.mem_flatMap.1 ht
  exact closed_replaced hwithin (hspans s hs) t hts

theorem closed_inlined (hparse : Parsable partials) (levels : Nat) :
    ∀ name source, source? partials name = some source →
      Closed (inlined partials levels source) := by
  induction levels with
  | zero =>
    intro name source hsource
    obtain ⟨nodes, hnodes⟩ := hparse name source hsource
    exact closed_flatMap_replaced (fun _ _ _ => .nil) hnodes
  | succ levels ih =>
    intro name source hsource
    obtain ⟨nodes, hnodes⟩ := hparse name source hsource
    exact closed_flatMap_replaced ih hnodes

theorem sound_inlined (hparse : Parsable partials) (levels : Nat) (template : String) :
    Sound (inlined partials levels template) := by
  cases levels with
  | zero => exact sound_replaced (fun _ _ _ => .nil) (sound_cut _)
  | succ levels => exact sound_replaced (closed_inlined hparse levels) (sound_cut _)

/-- A template that includes nothing stays as it is, and no braces meet in it. -/
theorem inlined_eq_self (h : ∀ name, .tag (.include name) ∉ pieces template) :
    Seamless (inlined partials levels template) ∧
      inlinedText partials levels template = template := by
  have hreplaced (within : String → List Span) (s : Span) (hs : s ∈ spans template) :
      s.replaced partials within = [s] :=
    Span.replaced_of_ne (fun name hname => h name (List.mem_map.2 ⟨s, hs, hname⟩)) within
  have hspans : inlined partials levels template = spans template := by
    cases levels with
    | zero => exact (List.flatMap_congr (hreplaced _)).trans (List.flatMap_singleton' _)
    | succ levels => exact (List.flatMap_congr (hreplaced _)).trans (List.flatMap_singleton' _)
  rw [inlinedText, hspans, spans, flatMap_cut, String.ofList_toList]
  exact ⟨seamless_cut _, rfl⟩

/-- Where every template to include can be parsed and they do not nest too deeply, rendering a
template is rendering its text with the texts of the others in the place of their tags, whatever
there then is to include. No brace may come to stand next to another one where a text was put in. -/
theorem render_eq_inlined
    (hparse : Parsable partials)
    (hnests : NestsWithin partials maxIncludeDepth template)
    (hseams : Seamless (inlined partials maxIncludeDepth template)) (view : Json)
    (others : Fields) :
    render template view partials =
      render (inlinedText partials maxIncludeDepth template) view others := by
  have hagree := agree_inlined (renderIncluded others maxIncludeDepth) hparse hnests
  have hpieces : pieces (inlinedText partials maxIncludeDepth template) =
      ((inlined partials maxIncludeDepth template).map (·.piece)).foldr Piece.onto [] := by
    rw [pieces, spans, inlinedText, String.toList_ofList]
    exact map_cut_flatMap (sound_inlined hparse maxIncludeDepth template) hseams
  rw [render, render, parse, parse, hpieces]
  exact ((hagree .nil).trans (Agree.foldr_onto _ .nil)).render [view]

def addressParts : Fields :=
  [("person", .str "\x7b\x7b> title\x7d\x7d \x7b\x7bname\x7d\x7d"), ("title", .str "Dr")]

def letter : String :=
  "To \x7b\x7b#to\x7d\x7d\x7b\x7b>person\x7d\x7d, \x7b\x7b/to\x7d\x7d\x7b\x7b>greeting\x7d\x7dhello"

def addressees : Json :=
  .obj [("to", .arr [.obj [("name", .str "Ada")], .obj [("name", .str "Bo")]])]

theorem parsable_addressParts : Parsable addressParts := by
  have hparse {source : String} (h : (parse source).toOption.isSome) :
      ∃ nodes, parse source = .ok nodes :=
    (Option.isSome_iff_exists.1 h).imp fun _ => toOption_eq_some_iff.1
  intro name source hsource
  have hget : Assoc.get? name addressParts = some (.str source) := get?_of_source? hsource
  simp only [addressParts, Assoc.get?] at hget
  split at hget
  · cases hget
    exact hparse (by decide)
  · split at hget
    · cases hget
      exact hparse (by decide)
    · cases hget

theorem render_letter_inlined :
    Parsable addressParts ∧ NestsWithin addressParts maxIncludeDepth letter ∧
      Seamless (inlined addressParts maxIncludeDepth letter) ∧
        render letter addressees addressParts =
          render "To \x7b\x7b#to\x7d\x7dDr \x7b\x7bname\x7d\x7d, \x7b\x7b/to\x7d\x7dhello"
            addressees [] ∧
        render letter addressees addressParts = .ok "To Dr Ada, Dr Bo, hello" := by
  have hnests : NestsWithin addressParts maxIncludeDepth letter := by decide
  have hseams : Seamless (inlined addressParts maxIncludeDepth letter) := by decide
  have htext : inlinedText addressParts maxIncludeDepth letter =
    "To \x7b\x7b#to\x7d\x7dDr \x7b\x7bname\x7d\x7d, \x7b\x7b/to\x7d\x7dhello" := by decide
  have hinlined := render_eq_inlined parsable_addressParts hnests hseams addressees []
  rw [htext] at hinlined
  refine ⟨parsable_addressParts, hnests, hseams, hinlined, hinlined.trans ?_⟩
  exact toOption_eq_some_iff.1 (by decide +kernel)

end Caseflow.Template
