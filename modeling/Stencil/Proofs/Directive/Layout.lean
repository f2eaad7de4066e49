import Mathlib.Data.List.TakeWhile
import Stencil.Directive.Basic
import Stencil.Proofs.Text.Leftmost

namespace Stencil

/-- Marked places with the text before, between and behind them. -/
structure Layout (β : Type) where
  lead : Text
  /-- each place with the text up to the next one -/
  places : List (β × Text)

namespace Layout

variable {β : Type}

/-- The matches of a text that has been read, as places. -/
def ofPieces : List (Text.Piece β) → Layout β
  | [] => ⟨[], []⟩
  | .char c :: rest => ⟨c :: (ofPieces rest).lead, (ofPieces rest).places⟩
  | .found b :: rest => ⟨[], (b, (ofPieces rest).lead) :: (ofPieces rest).places⟩

/-- What stands at the places. -/
def marks (layout : Layout β) : List β :=
  layout.places.map Prod.fst

/-- The texts around the places: one more than there are places. -/
def gaps (layout : Layout β) : List Text :=
  layout.lead :: layout.places.map Prod.snd

/-- Puts a text at every place. -/
def write (text : β → Text) (layout : Layout β) : Text :=
  layout.lead ++ layout.places.flatMap fun (b, gap) => text b ++ gap

theorem dropLast_gaps_cons (lead gap : Text) (b : β) (places : List (β × Text)) :
    (gaps ⟨lead, (b, gap) :: places⟩).dropLast = lead :: (gaps ⟨gap, places⟩).dropLast := rfl

theorem write_cons (text : β → Text) (lead gap : Text) (b : β) (places : List (β × Text)) :
    write text ⟨lead, (b, gap) :: places⟩ = lead ++ (text b ++ write text ⟨gap, places⟩) := by
  simp only [write, List.flatMap_cons, List.append_assoc]

theorem write_congr {layout : Layout β} {f g : β → Text} (heq : ∀ b ∈ layout.marks, f b = g b) :
    layout.write f = layout.write g := by
  obtain ⟨lead, places⟩ := layout
  induction places generalizing lead with
  | nil => rfl
  | cons place places ih =>
    obtain ⟨b, gap⟩ := place
    have hhead : f b = g b := heq b (by simp [marks])
    rw [write_cons, write_cons, hhead, ih gap]
    intro b' hb'
    exact heq b' (List.mem_cons_of_mem _ hb')

theorem marks_ofPieces (pieces : List (Text.Piece β)) :
    (ofPieces pieces).marks =
      pieces.filterMap fun | .char _ => none | .found b => some b := by
  induction pieces with
  | nil => rfl
  | cons piece pieces ih =>
    cases piece with
    | char c => exact ih
    | found b =>
      rw [List.filterMap_cons]
      exact congrArg (b :: ·) ih

end Layout

namespace Directive

theorem token_append (payload rest : Text) :
    token payload ++ rest = '{' :: '{' :: (payload ++ '}' :: '}' :: rest) := by
  simp [token]

theorem length_token (payload : Text) : (token payload).length = payload.length + 4 := by
  simp [token]

/-- The token of a payload without closing braces is found at the front of a text. -/
theorem tokenAt_token_append {payload : Text} (hclosed : '}' ∉ payload) (rest : Text) :
    tokenAt (token payload ++ rest) = some (payload, payload.length + 3) := by
  have hpayload : (payload ++ '}' :: '}' :: rest).takeWhile (· ≠ '}') = payload := by
    rw [List.takeWhile_append_of_pos]
    · simp
    · intro c hc
      exact decide_eq_true fun heq => hclosed (heq ▸ hc)
  rw [token_append, tokenAt]
  simp only [hpayload, List.drop_left]

/-- What is found at the front of a text is a token whose payload has no closing brace. -/
theorem eq_token_append_of_tokenAt {t payload : Text} {more : Nat}
    (hfound : tokenAt t = some (payload, more)) :
    ∃ rest, t = token payload ++ rest ∧ '}' ∉ payload ∧ more = payload.length + 3 := by
  unfold tokenAt at hfound
  split at hfound
  · rename_i body
    obtain ⟨behind, hsplit⟩ := List.takeWhile_prefix (l := body) (· ≠ '}')
    have hdrop : body.drop (body.takeWhile (· ≠ '}')).length = behind :=
      calc body.drop (body.takeWhile (· ≠ '}')).length
          = (body.takeWhile (· ≠ '}') ++ behind).drop (body.takeWhile (· ≠ '}')).length := by
            rw [hsplit]
        _ = behind := List.drop_left
    simp only [hdrop] at hfound
    split at hfound
    · rename_i rest
      cases hfound
      refine ⟨rest, ?_, ?_, rfl⟩
      · rw [token_append, hsplit]
      · intro hmem
        simpa using List.mem_takeWhile_imp hmem
    · cases hfound
  · cases hfound

/-- Reading a text goes through its tokens: in front of a character that begins none, and behind
each token that is found. -/
theorem token_induction {P : Text → Prop} (nil : P [])
    (char : ∀ c r, tokenAt (c :: r) = none → P r → P (c :: r))
    (token : ∀ payload rest, '}' ∉ payload → P rest → P (token payload ++ rest)) :
    ∀ t, P t := by
  apply Text.pieces_induction tokenAt nil char
  intro c r payload more hfound hrest
  obtain ⟨rest, hsplit, hclosed, hmore⟩ := eq_token_append_of_tokenAt hfound
  have hdrop : r.drop more = rest := by
    have hbehind := congrArg (List.drop (more + 1)) hsplit
    rwa [hmore, ← length_token payload, List.drop_left, length_token, List.drop_succ_cons,
      ← hmore] at hbehind
  rw [hsplit]
  exact token payload rest hclosed (hdrop ▸ hrest)

/-- The layout of a text around its tokens. -/
def layout (t : Text) : Layout Text :=
  Layout.ofPieces (Text.pieces tokenAt t)

theorem layout_cons_of_none {c : Char} {r : Text} (hnone : tokenAt (c :: r) = none) :
    layout (c :: r) = ⟨c :: (layout r).lead, (layout r).places⟩ := by
  rw [layout, Text.pieces_cons_of_none hnone, Layout.ofPieces, ← layout]

theorem layout_token_append {payload : Text} (hclosed : '}' ∉ payload) (rest : Text) :
    layout (token payload ++ rest) =
      ⟨[], (payload, (layout rest).lead) :: (layout rest).places⟩ := by
  rw [layout, Text.pieces_append_of_match (length_token payload)
    (tokenAt_token_append hclosed rest), Layout.ofPieces, ← layout]

theorem marks_layout (t : Text) : (layout t).marks = payloads t :=
  Layout.marks_ofPieces _

/-- A text is its gaps with its tokens between them. -/
theorem write_layout (t : Text) : (layout t).write token = t := by
  induction t using token_induction with
  | nil => rfl
  | char c r hnone ih =>
    rw [layout_cons_of_none hnone, Layout.write, List.cons_append]
    exact congrArg (c :: ·) ih
  | token payload rest hclosed ih =>
    rw [layout_token_append hclosed, Layout.write_cons, List.nil_append]
    exact congrArg (token payload ++ ·) ih

/-- The payload of a token has no closing brace. -/
theorem not_mem_of_mem_payloads {t payload : Text} (hpayload : payload ∈ payloads t) :
    '}' ∉ payload := by
  rw [← marks_layout] at hpayload
  induction t using token_induction with
  | nil => cases hpayload
  | char c r hnone ih =>
    rw [layout_cons_of_none hnone] at hpayload
    exact ih hpayload
  | token payload' rest hclosed ih =>
    rw [layout_token_append hclosed] at hpayload
    cases hpayload with
    | head => exact hclosed
    | tail _ hrest => exact ih hrest

/-- An opening brace in front of a token would have begun that token. -/
theorem tokenAt_brace_append_token {payload : Text} (hclosed : '}' ∉ payload) (rest : Text) :
    tokenAt ('{' :: (token payload ++ rest)) ≠ none := by
  have hlonger : '{' :: (token payload ++ rest) = token ('{' :: payload) ++ rest := by
    simp [token]
  rw [hlonger, tokenAt_token_append]
  · simp
  · simpa using hclosed

/-- A gap with a token behind it does not end in an opening brace. -/
theorem not_brace_suffix_lead {t : Text} (hplaces : (layout t).places ≠ []) :
    ¬ ['{'] <:+ (layout t).lead := by
  induction t using token_induction with
  | nil => exact absurd rfl hplaces
  | char c r hnone ih =>
    rw [layout_cons_of_none hnone] at hplaces ⊢
    change (layout r).places ≠ [] at hplaces
    intro hsuffix
    rcases List.suffix_cons_iff.mp hsuffix with heq | hshorter
    · obtain ⟨rfl, hlead⟩ := List.cons.inj heq
      obtain ⟨⟨payload, gap⟩, places, hcons⟩ := List.exists_cons_of_ne_nil hplaces
      have hclosed : '}' ∉ payload := by
        apply not_mem_of_mem_payloads (t := r)
        simp [← marks_layout, Layout.marks, hcons]
      have hwrite := write_layout r
      rw [Layout.write, ← hlead, hcons, List.flatMap_cons, List.nil_append,
        List.append_assoc] at hwrite
      rw [← hwrite] at hnone
      exact tokenAt_brace_append_token hclosed _ hnone
    · exact ih hplaces hshorter
  | token payload rest hclosed ih =>
    rw [layout_token_append hclosed]
    simp

theorem not_brace_suffix_of_mem_dropLast_gaps {t gap : Text}
    (hgap : gap ∈ (layout t).gaps.dropLast) : ¬ ['{'] <:+ gap := by
  induction t using token_induction with
  | nil => cases hgap
  | char c r hnone ih =>
    have hlead := not_brace_suffix_lead (t := c :: r)
    rw [layout_cons_of_none hnone] at hgap hlead
    cases hplaces : (layout r).places with
    | nil => simp [Layout.gaps, hplaces] at hgap
    | cons place places =>
      simp only [Layout.gaps, hplaces, List.map_cons, List.dropLast_cons_cons,
        List.mem_cons] at hgap
      rcases hgap with rfl | hgap
      · exact hlead (by simp [hplaces])
      · apply ih
        simp only [Layout.gaps, hplaces, List.map_cons, List.dropLast_cons_cons]
        exact List.mem_cons_of_mem _ hgap
  | token payload rest hclosed ih =>
    rw [layout_token_append hclosed, Layout.dropLast_gaps_cons] at hgap
    cases hgap with
    | head => simp
    | tail _ hrest => exact ih hrest

end Directive

end Stencil
