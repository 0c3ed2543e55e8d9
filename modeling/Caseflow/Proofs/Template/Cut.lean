import Caseflow.Template.Tag
import Caseflow.Proofs.Text.Break
import Mathlib.Data.List.Chain

/-!
# Cutting templates

What is put together from pieces is cut at the same places again. A tag ends where it ended on its
own, whatever stands behind it; a text runs on into a text that follows it. The one exception is a
text that ends with a brace before a piece that starts with one: these two could be taken for the
braces of a tag.
-/
namespace Caseflow.Template

open Text

variable {cs before after rest : List Char} {span : Span}

/-- Where one text ends and the next begins there are not two braces. -/
def Meets (a b : List Char) : Prop := ¬ (a.getLast? = some '\x7b' ∧ b.head? = some '\x7b')

instance decidableMeets (a b : List Char) : Decidable (Meets a b) :=
  inferInstanceAs (Decidable (¬ _))

/-- A double brace behind a text without one is the first one of both texts. -/
theorem breakAt_braces_append (hcs : breakAt ['\x7b', '\x7b'] cs = none) (hmeets : Meets cs rest) :
    breakAt ['\x7b', '\x7b'] (cs ++ rest) =
      (breakAt ['\x7b', '\x7b'] rest).map fun p => (cs ++ p.1, p.2) := by
  induction cs with
  | nil => simp
  | cons c cs ih =>
    have hnot : List.isPrefixOf ['\x7b', '\x7b'] (c :: cs) = false := by
      rw [Bool.eq_false_iff]
      intro hprefix
      rw [breakAt, if_pos hprefix] at hcs
      cases hcs
    rw [breakAt_cons_of_not hnot, Option.map_eq_none_iff] at hcs
    have hseam : List.isPrefixOf ['\x7b', '\x7b'] (c :: (cs ++ rest)) = false := by
      cases cs with
      | nil =>
        cases rest with
        | nil => exact hnot
        | cons d rest =>
          rw [Bool.eq_false_iff]
          intro hprefix
          obtain ⟨tail, htail⟩ := List.isPrefixOf_iff_prefix.1 hprefix
          cases htail
          exact hmeets ⟨rfl, rfl⟩
      | cons d cs => exact (@isPrefixOf_append _ (c :: d :: cs) (by simp) rest).trans hnot
    have hmeets' : Meets cs rest := by
      intro hbraces
      refine hmeets ⟨?_, hbraces.2⟩
      rw [List.getLast?_cons, hbraces.1]
      rfl
    rw [List.cons_append, breakAt_cons_of_not hseam, ih hcs hmeets', Option.map_map]
    rfl

theorem tagSpan_of_head (h : after.head? ≠ some '\x7b') :
    tagSpan after =
      match breakAt ['\x7d', '\x7d'] after with
      | some (content, rest) =>
        (⟨['\x7b', '\x7b'] ++ (content ++ ['\x7d', '\x7d']), .tag (.ofContent content)⟩, some rest)
      | none => (⟨['\x7b', '\x7b'] ++ after, .unclosed⟩, none) := by
  cases after with
  | nil => rfl
  | cons c after =>
    rw [tagSpan.eq_def]
    split
    next inner heq =>
      cases heq
      exact absurd rfl h
    next => rfl

/-- A tag is either written with three braces or with two, and closed by as many, or it is not
closed. -/
theorem tagSpan_cases (after : List Char) :
    (∃ name rest, tagSpan after = (⟨['\x7b', '\x7b', '\x7b'] ++ (name ++ ['\x7d', '\x7d', '\x7d']),
      .tag (.ofContent ('&' :: name))⟩, some rest) ∧
      ∃ inner, after = '\x7b' :: inner ∧
        breakAt ['\x7d', '\x7d', '\x7d'] inner = some (name, rest)) ∨
    (∃ content rest, tagSpan after = (⟨['\x7b', '\x7b'] ++ (content ++ ['\x7d', '\x7d']),
      .tag (.ofContent content)⟩, some rest) ∧ after.head? ≠ some '\x7b' ∧
        breakAt ['\x7d', '\x7d'] after = some (content, rest)) ∨
    ∃ piece, tagSpan after = (⟨['\x7b', '\x7b'] ++ after, piece⟩, none) ∧
      (piece = .unclosed ∨ piece = .unclosedTriple) := by
  by_cases hhead : after.head? = some '\x7b'
  · obtain ⟨inner, rfl⟩ := List.head?_eq_some_iff.1 hhead
    rw [tagSpan]
    cases h : breakAt ['\x7d', '\x7d', '\x7d'] inner with
    | none => exact .inr (.inr ⟨_, rfl, .inr rfl⟩)
    | some p => exact .inl ⟨p.1, p.2, rfl, inner, rfl, h⟩
  · rw [tagSpan_of_head hhead]
    cases h : breakAt ['\x7d', '\x7d'] after with
    | none => exact .inr (.inr ⟨_, rfl, .inl rfl⟩)
    | some p => exact .inr (.inl ⟨p.1, p.2, rfl, hhead, rfl⟩)

theorem tagSpan_append (h : tagSpan after = (span, some rest)) (more : List Char) :
    tagSpan (after ++ more) = (span, some (rest ++ more)) := by
  obtain ⟨name, end', hspan, inner, rfl, hinner⟩ | ⟨content, end', hspan, hhead, hcontent⟩ |
    ⟨piece, hspan, -⟩ := tagSpan_cases after
  · cases h.symm.trans hspan
    rw [List.cons_append, tagSpan, breakAt_append hinner (by decide)]
  · cases h.symm.trans hspan
    have hhead' : (after ++ more).head? ≠ some '\x7b' := by
      rw [breakAt_eq_some hcontent] at hhead ⊢
      cases content <;> exact hhead
    rw [tagSpan_of_head hhead', breakAt_append hcontent (by decide)]
  · cases h.symm.trans hspan

theorem tagSpan_closed (h : tagSpan after = (span, some rest)) :
    ∃ own, span.chars = ['\x7b', '\x7b'] ++ own ∧ after = own ++ rest ∧
      tagSpan own = (span, some []) := by
  obtain ⟨name, end', hspan, inner, rfl, hinner⟩ | ⟨content, end', hspan, hhead, hcontent⟩ |
    ⟨piece, hspan, -⟩ := tagSpan_cases after
  · cases h.symm.trans hspan
    refine ⟨'\x7b' :: (name ++ ['\x7d', '\x7d', '\x7d']), rfl, ?_, ?_⟩
    · simp [breakAt_eq_some hinner]
    · rw [tagSpan, breakAt_before hinner (by decide)]
  · cases h.symm.trans hspan
    refine ⟨content ++ ['\x7d', '\x7d'], rfl, ?_, ?_⟩
    · rw [breakAt_eq_some hcontent, List.append_assoc]
    · rw [tagSpan_of_head, breakAt_before hcontent (by decide)]
      rw [breakAt_eq_some hcontent] at hhead
      cases content <;> exact hhead
  · cases h.symm.trans hspan

/-- A tag that is not closed goes on to the end. -/
theorem tagSpan_unclosed (h : tagSpan after = (span, none)) :
    span.chars = ['\x7b', '\x7b'] ++ after := by
  obtain ⟨name, end', hspan, -⟩ | ⟨content, end', hspan, -⟩ | ⟨piece, hspan, -⟩ :=
    tagSpan_cases after
  · cases h.symm.trans hspan
  · cases h.symm.trans hspan
  · cases h.symm.trans hspan
    rfl

theorem length_lt_of_tagSpan (hcs : breakAt ['\x7b', '\x7b'] cs = some (before, after))
    (htag : tagSpan after = (span, some rest)) : rest.length < cs.length := by
  obtain ⟨own, -, rfl, -⟩ := tagSpan_closed htag
  simp only [breakAt_eq_some hcs, List.length_append, List.length_cons]
  omega

@[simp]
theorem textSpans_nil : textSpans [] = [] := rfl

theorem textSpans_of_ne_nil (h : cs ≠ []) : textSpans cs = [⟨cs, .text (String.ofList cs)⟩] := by
  cases cs with
  | nil => exact absurd rfl h
  | cons c cs => rfl

theorem cutWith_congr {f g : List Char → List Span}
    (h : ∀ rest, rest.length < cs.length → f rest = g rest) : cutWith f cs = cutWith g cs := by
  unfold cutWith
  cases hbreak : breakAt ['\x7b', '\x7b'] cs with
  | none => rfl
  | some p =>
    obtain ⟨before, after⟩ := p
    dsimp only
    cases htag : tagSpan after with
    | mk span rest? =>
      cases rest? with
      | none => rfl
      | some rest =>
        dsimp only
        rw [h rest (length_lt_of_tagSpan hbreak htag)]

/-- The fuel does not matter as long as it exceeds the length. -/
theorem spansOf_eq {n m : Nat} (hn : cs.length < n) (hm : cs.length < m) :
    spansOf n cs = spansOf m cs := by
  induction n generalizing m cs with
  | zero => exact absurd hn (Nat.not_lt_zero _)
  | succ n ih =>
    obtain ⟨m, rfl⟩ := Nat.exists_eq_add_one_of_ne_zero (Nat.ne_zero_of_lt hm)
    rw [spansOf, spansOf]
    exact cutWith_congr fun rest hrest => ih (by omega) (by omega)

theorem cut_eq (cs : List Char) : cut cs = cutWith cut cs := by
  rw [cut, spansOf]
  exact cutWith_congr fun rest hrest => spansOf_eq hrest (Nat.lt_succ_self _)

/-- A text before the first double brace does not end with a brace of its own. -/
theorem getLast?_of_breakAt (h : breakAt ['\x7b', '\x7b'] cs = some (before, after)) :
    before.getLast? ≠ some '\x7b' := by
  induction cs generalizing before with
  | nil => cases h
  | cons c cs ih =>
    obtain ⟨-, rfl, -⟩ | ⟨hnot, front, hfront, rfl⟩ := breakAt_cons_eq_some h
    · simp
    · cases front with
      | nil =>
        rintro ⟨⟩
        rw [breakAt_eq_some hfront] at hnot
        cases hnot
      | cons d front =>
        rw [List.getLast?_cons_cons]
        exact ih hfront

/-- A text without a double brace. -/
def Span.IsText (s : Span) : Prop :=
  s.chars ≠ [] ∧ breakAt ['\x7b', '\x7b'] s.chars = none ∧
    s.piece = .text (String.ofList s.chars)

def Span.IsTag (s : Span) : Prop :=
  ∃ own, s.chars = ['\x7b', '\x7b'] ++ own ∧ tagSpan own = (s, some [])

def Span.IsUnclosed (s : Span) : Prop :=
  ∃ own, s.chars = ['\x7b', '\x7b'] ++ own ∧ tagSpan own = (s, none)

/-- Texts and tags, of which only the last may lack its closing braces. -/
inductive Sound : List Span → Prop
  | nil : Sound []
  | text {s : Span} {ss : List Span} : s.IsText → Sound ss → Sound (s :: ss)
  | tag {s : Span} {ss : List Span} : s.IsTag → Sound ss → Sound (s :: ss)
  | unclosed {s : Span} : s.IsUnclosed → Sound [s]

/-- A cut is a text, or a text with a tag behind it and, if that is closed, the cut of the rest. -/
@[elab_as_elim]
theorem cut_induction {motive : List Char → List Span → Prop}
    (text : ∀ cs, breakAt ['\x7b', '\x7b'] cs = none → motive cs (textSpans cs))
    (tag : ∀ before (s : Span) rest, breakAt ['\x7b', '\x7b'] before = none →
      before.getLast? ≠ some '\x7b' → s.IsTag → motive rest (cut rest) →
        motive (before ++ (s.chars ++ rest)) (textSpans before ++ s :: cut rest))
    (unclosed : ∀ before (s : Span), breakAt ['\x7b', '\x7b'] before = none →
      before.getLast? ≠ some '\x7b' → s.IsUnclosed →
        motive (before ++ s.chars) (textSpans before ++ [s]))
    (cs : List Char) : motive cs (cut cs) := by
  rw [cut_eq, cutWith]
  cases hbreak : breakAt ['\x7b', '\x7b'] cs with
  | none => exact text cs hbreak
  | some p =>
    obtain ⟨before, after⟩ := p
    have hbefore := breakAt_front hbreak (by decide)
    have hlast := getLast?_of_breakAt hbreak
    dsimp only
    cases htag : tagSpan after with
    | mk s rest? =>
      cases rest? with
      | some rest =>
        obtain ⟨own, hs, rfl, hown⟩ := tagSpan_closed htag
        have ih := cut_induction text tag unclosed rest
        have hcs : cs = before ++ (s.chars ++ rest) := by
          rw [breakAt_eq_some hbreak, hs, List.append_assoc]
        rw [hcs]
        exact tag before s rest hbefore hlast ⟨own, hs, hown⟩ ih
      | none =>
        have hs : s.chars = ['\x7b', '\x7b'] ++ after := tagSpan_unclosed htag
        have hcs : cs = before ++ s.chars := by rw [breakAt_eq_some hbreak, hs]
        rw [hcs]
        exact unclosed before s hbefore hlast ⟨after, hs, htag⟩
termination_by cs.length
decreasing_by exact length_lt_of_tagSpan hbreak htag

@[simp]
theorem flatMap_textSpans (cs : List Char) : (textSpans cs).flatMap (·.chars) = cs := by
  cases cs with
  | nil => rfl
  | cons c cs => simp [textSpans]

/-- The characters of a cut are those of the text that is cut. -/
theorem flatMap_cut (cs : List Char) : (cut cs).flatMap (·.chars) = cs := by
  induction cs using cut_induction with
  | text cs hcs => exact flatMap_textSpans cs
  | tag before s rest hbefore hlast hs ih =>
    rw [List.flatMap_append, List.flatMap_cons, flatMap_textSpans, ih]
  | unclosed before s hbefore hlast hs =>
    rw [List.flatMap_append, flatMap_textSpans, List.flatMap_singleton]

theorem Sound.textSpans_append {ss : List Span} (hss : Sound ss)
    (hcs : breakAt ['\x7b', '\x7b'] cs = none) : Sound (textSpans cs ++ ss) := by
  cases cs with
  | nil => exact hss
  | cons c cs => exact .text ⟨List.cons_ne_nil _ _, hcs, rfl⟩ hss

theorem sound_cut (cs : List Char) : Sound (cut cs) := by
  induction cs using cut_induction with
  | text cs hcs => simpa using Sound.nil.textSpans_append hcs
  | tag before s rest hbefore hlast hs ih => exact (ih.tag hs).textSpans_append hbefore
  | unclosed before s hbefore hlast hs => exact (Sound.unclosed hs).textSpans_append hbefore

def Closed (ss : List Span) : Prop := ∀ s ∈ ss, s.IsText ∨ s.IsTag

theorem Closed.nil : Closed [] := nofun

theorem Closed.sound_append {ss ts : List Span} (hss : Closed ss) (hts : Sound ts) :
    Sound (ss ++ ts) := by
  induction ss with
  | nil => exact hts
  | cons s ss ih =>
    obtain ⟨hs, hss⟩ := List.forall_mem_cons.1 hss
    rcases hs with hs | hs
    · exact (ih hss).text hs
    · exact (ih hss).tag hs

theorem Span.IsUnclosed.piece {s : Span} (h : s.IsUnclosed) :
    s.piece = .unclosed ∨ s.piece = .unclosedTriple := by
  obtain ⟨own, -, hown⟩ := h
  obtain ⟨name, end', hspan, -⟩ | ⟨content, end', hspan, -⟩ | ⟨piece, hspan, hpiece⟩ :=
    tagSpan_cases own
  · cases hown.symm.trans hspan
  · cases hown.symm.trans hspan
  · cases hown.symm.trans hspan
    exact hpiece

theorem Sound.closed {ss : List Span} (h : Sound ss)
    (hss : ∀ p ∈ ss.map (·.piece), p ≠ .unclosed ∧ p ≠ .unclosedTriple) : Closed ss := by
  induction h with
  | nil => exact nofun
  | text hs hss ih =>
    rw [List.map_cons, List.forall_mem_cons] at hss
    exact List.forall_mem_cons.2 ⟨.inl hs, ih hss.2⟩
  | tag hs hss ih =>
    rw [List.map_cons, List.forall_mem_cons] at hss
    exact List.forall_mem_cons.2 ⟨.inr hs, ih hss.2⟩
  | unclosed hs =>
    obtain ⟨hne, hne'⟩ := hss _ (List.mem_cons_self ..)
    exact (hs.piece.elim hne hne').elim

/-- Put a piece before others; a text becomes one with a text that follows it. -/
def Piece.onto : Piece → List Piece → List Piece
  | .text s, .text t :: rest => .text (s ++ t) :: rest
  | p, rest => p :: rest

theorem Piece.onto_cons {p q : Piece} (h : ∀ t, q ≠ .text t) (rest : List Piece) :
    p.onto (q :: rest) = p :: q :: rest := by
  cases q with
  | text t => exact absurd rfl (h t)
  | _ => cases p <;> rfl

theorem Piece.onto_of_ne {p : Piece} (h : ∀ t, p ≠ .text t) (rest : List Piece) :
    p.onto rest = p :: rest := by
  cases p with
  | text t => exact absurd rfl (h t)
  | _ => rfl

theorem tagSpan_ne_text (after : List Char) (t : String) : (tagSpan after).1.piece ≠ .text t := by
  obtain ⟨name, end', hspan, -⟩ | ⟨content, end', hspan, -⟩ | ⟨piece, hspan, rfl | rfl⟩ :=
    tagSpan_cases after <;>
  · rw [hspan]
    exact nofun

/-- A text runs on into a text that follows it and ends before a tag. -/
theorem map_cut_text_append {a : List Char} (ha : a ≠ [])
    (hnone : breakAt ['\x7b', '\x7b'] a = none) (hmeets : Meets a cs) :
    (cut (a ++ cs)).map (·.piece) =
      Piece.onto (.text (String.ofList a)) ((cut cs).map (·.piece)) := by
  rw [cut_eq, cut_eq cs, cutWith, cutWith, breakAt_braces_append hnone hmeets]
  cases breakAt ['\x7b', '\x7b'] cs with
  | none =>
    cases cs with
    | nil => simp [textSpans_of_ne_nil ha, Piece.onto]
    | cons c cs => simp [textSpans_of_ne_nil, Piece.onto, String.ofList_append]
  | some p =>
    obtain ⟨before, after⟩ := p
    have htag := tagSpan_ne_text after
    cases before with
    | nil =>
      cases h : tagSpan after with
      | mk s rest? =>
        rw [h] at htag
        cases rest? <;> simp [h, textSpans_of_ne_nil ha, Piece.onto_cons htag]
    | cons c before => simp [textSpans_of_ne_nil, Piece.onto, String.ofList_append]

theorem cut_tag_append {s : Span} (h : s.IsTag) (cs : List Char) :
    cut (s.chars ++ cs) = s :: cut cs := by
  obtain ⟨own, hs, hown⟩ := h
  rw [cut_eq, cutWith, hs, List.append_assoc, breakAt_self_append _ _ (by decide)]
  simp [tagSpan_append hown]

theorem cut_unclosed {s : Span} (h : s.IsUnclosed) : cut s.chars = [s] := by
  obtain ⟨own, hs, hown⟩ := h
  rw [cut_eq, cutWith, hs, breakAt_self_append _ _ (by decide)]
  simp [hown]

theorem Span.IsTag.ne_text {s : Span} (h : s.IsTag) (t : String) : s.piece ≠ .text t := by
  obtain ⟨own, -, hown⟩ := h
  have htag := tagSpan_ne_text own t
  rwa [hown] at htag

/-- Between spans that follow each other there are not two braces. -/
def Seamless (ss : List Span) : Prop := ss.IsChain fun s t => Meets s.chars t.chars

instance decidableSeamless (ss : List Span) : Decidable (Seamless ss) :=
  inferInstanceAs (Decidable (List.IsChain _ ss))

theorem Span.IsTag.getLast? {s : Span} (h : s.IsTag) : s.chars.getLast? = some '\x7d' := by
  obtain ⟨own, -, hown⟩ := h
  obtain ⟨name, end', hspan, -⟩ | ⟨content, end', hspan, -⟩ | ⟨piece, hspan, -⟩ :=
    tagSpan_cases own
  · cases hown.symm.trans hspan
    rw [List.getLast?_append, List.getLast?_append]
    rfl
  · cases hown.symm.trans hspan
    rw [List.getLast?_append, List.getLast?_append]
    rfl
  · cases hown.symm.trans hspan

theorem Seamless.cons {s : Span} {ss : List Span} (hs : s.chars.getLast? ≠ some '\x7b')
    (hss : Seamless ss) : Seamless (s :: ss) :=
  List.isChain_cons.2 ⟨fun _ _ hbraces => hs hbraces.1, hss⟩

theorem Seamless.textSpans_append {ss : List Span} (hss : Seamless ss)
    (hcs : cs.getLast? ≠ some '\x7b') : Seamless (textSpans cs ++ ss) := by
  cases cs with
  | nil => exact hss
  | cons c cs => exact hss.cons hcs

/-- The spans of one text are seamless, so that only what is put between them makes seams. -/
theorem seamless_cut (cs : List Char) : Seamless (cut cs) := by
  induction cs using cut_induction with
  | text cs hcs =>
    cases cs with
    | nil => exact .nil
    | cons c cs => exact .singleton _
  | tag before s rest hbefore hlast hs ih =>
    have hne : s.chars.getLast? ≠ some '\x7b' := by
      rw [hs.getLast?]
      decide
    exact (ih.cons hne).textSpans_append hlast
  | unclosed before s hbefore hlast hs =>
    exact Seamless.textSpans_append (.singleton _) hlast

theorem Sound.chars_ne_nil {s : Span} {ss : List Span} (h : Sound (s :: ss)) : s.chars ≠ [] := by
  cases h with
  | text hs => exact hs.1
  | tag hs | unclosed hs =>
    obtain ⟨own, hs, -⟩ := hs
    simp [hs]

/-- What follows a span begins as the next span does. -/
theorem Seamless.meets {s : Span} {ss : List Span} (hseams : Seamless (s :: ss)) (hss : Sound ss) :
    Meets s.chars (ss.flatMap (·.chars)) := by
  cases ss with
  | nil => simp [Meets]
  | cons t ss =>
    have hmeets : Meets s.chars t.chars := hseams.rel
    rwa [Meets, List.flatMap_cons, List.head?_append_of_ne_nil _ hss.chars_ne_nil]

/-- What is put together from pieces is cut into the same pieces again, but for texts that have come
to stand next to each other. -/
theorem map_cut_flatMap {ss : List Span} (hsound : Sound ss) (hseams : Seamless ss) :
    (cut (ss.flatMap (·.chars))).map (·.piece) = (ss.map (·.piece)).foldr Piece.onto [] := by
  induction hsound with
  | nil => rfl
  | @text s ss hs hss ih =>
    rw [List.flatMap_cons, map_cut_text_append hs.1 hs.2.1 (hseams.meets hss), ih hseams.tail,
      List.map_cons, List.foldr_cons, hs.2.2]
  | @tag s ss hs hss ih =>
    rw [List.flatMap_cons, cut_tag_append hs, List.map_cons, ih hseams.tail, List.map_cons,
      List.foldr_cons, Piece.onto_of_ne hs.ne_text]
  | @unclosed s hs =>
    rw [List.flatMap_singleton, cut_unclosed hs]
    cases h : s.piece <;> simp [h, Piece.onto]

end Caseflow.Template
