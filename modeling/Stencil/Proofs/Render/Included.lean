import Mathlib.Algebra.Order.BigOperators.Group.List
import Mathlib.Algebra.Order.Ring.Nat
import Stencil.Files.Shelf
import Stencil.Proofs.Render.Resolved

namespace Stencil

namespace Layout

variable {β : Type}

/-- How often a character stands in what is written, by gaps and places. -/
theorem count_write (text : β → Text) (layout : Layout β) (c : Char) :
    (layout.write text).count c =
      (layout.gaps.map (List.count c)).sum + (layout.marks.map fun b => (text b).count c).sum := by
  obtain ⟨lead, places⟩ := layout
  induction places generalizing lead with
  | nil => simp [write, gaps, marks]
  | cons place places ih =>
    obtain ⟨b, gap⟩ := place
    rw [write_cons, List.count_append, List.count_append, ih gap]
    simp only [gaps, marks, List.map_cons, List.sum_cons]
    omega

/-- A measure that texts put together only raise is at least its sum over the places. -/
theorem sum_marks_le_write (measure : Text → Nat)
    (hadd : ∀ a b, measure a + measure b ≤ measure (a ++ b)) (text : β → Text)
    (layout : Layout β) :
    (layout.marks.map fun b => measure (text b)).sum ≤ measure (layout.write text) := by
  obtain ⟨lead, places⟩ := layout
  induction places generalizing lead with
  | nil => exact Nat.zero_le _
  | cons place places ih =>
    obtain ⟨b, gap⟩ := place
    have hlead := hadd lead (text b ++ write text ⟨gap, places⟩)
    have hplace := hadd (text b) (write text ⟨gap, places⟩)
    have hrest := ih gap
    rw [write_cons]
    simp only [marks, List.map_cons, List.sum_cons] at hrest ⊢
    omega

end Layout

namespace Replacements

theorem apply_append (front back : Replacements) (t : Text) :
    (front ++ back).apply t = back.apply (front.apply t) :=
  List.foldl_append

/-- How often texts that are to be replaced stand in a text, all of them together. -/
def standing (items : Replacements) (t : Text) : Nat :=
  (items.map fun item => Text.occurrences item.1 t).sum

theorem standing_add_le {items : Replacements} (hitems : ∀ item ∈ items, item.1 ≠ [])
    (a b : Text) : items.standing a + items.standing b ≤ items.standing (a ++ b) := by
  rw [standing, standing, ← List.sum_map_add]
  exact List.sum_le_sum fun item hmem => Text.occurrences_add_le (hitems item hmem) a b

theorem standing_pos {items : Replacements} {item : Text × Text} {t : Text} (hmem : item ∈ items)
    (hitem : item.1 ≠ []) (hwithin : item.1 <:+: t) : 0 < items.standing t :=
  calc 0 < Text.occurrences item.1 t := Text.occurrences_pos hitem hwithin
    _ ≤ items.standing t := List.le_sum_of_mem (List.mem_map.mpr ⟨item, hmem, rfl⟩)

end Replacements

namespace Directive

theorem count_brace_token {payload : Text} (hopened : '{' ∉ payload) :
    (token payload).count '{' = 2 := by
  simp [token, List.count_eq_zero.mpr hopened]

/-- Every sweep that puts in no opening brace takes away two for each place of its token, and leaves
the places of the other tokens to the sweeps for those. -/
theorem count_apply_add_le {items : Replacements} (hdistinct : (items.map Prod.fst).Nodup)
    (htokens : ∀ raw ∈ items.map Prod.fst, ∃ p, raw = token p ∧ '{' ∉ p ∧ '}' ∉ p)
    (hanswers : ∀ item ∈ items, '{' ∉ item.2) (t : Text) :
    (items.apply t).count '{' + 2 * items.standing t ≤ t.count '{' := by
  induction items generalizing t with
  | nil => exact Nat.le_refl _
  | cons item items ih =>
    obtain ⟨raw, new⟩ := item
    obtain ⟨p, rfl, hopened, hclosed⟩ := htokens raw List.mem_cons_self
    obtain ⟨hfresh, hdistinct⟩ := List.nodup_cons.mp hdistinct
    have hcount : (Text.replaceAll (token p) new t).count '{' +
        2 * Text.occurrences (token p) t = t.count '{' := by
      have hsweep : (Text.replaceAll (token p) new t).count '{' +
          Text.occurrences (token p) t * (token p).count '{' =
            t.count '{' + Text.occurrences (token p) t * new.count '{' :=
        Text.count_replaceAll (not_beginsIn_behind_token hclosed) new t '{'
      rw [count_brace_token hopened,
        List.count_eq_zero.mpr (hanswers _ List.mem_cons_self)] at hsweep
      omega
    have hkept : Replacements.standing items t ≤
        Replacements.standing items (Text.replaceAll (token p) new t) := by
      refine List.sum_le_sum fun item hmem => ?_
      obtain ⟨p', hp', hopened', hclosed'⟩ := htokens item.1
        (List.mem_cons_of_mem _ (List.mem_map_of_mem hmem))
      have hne : p ≠ p' := by
        rintro rfl
        exact hfresh (List.mem_map.mpr ⟨item, hmem, hp'⟩)
      rw [hp']
      exact Text.occurrences_le_replaceAll (token_ne_nil p) (token_ne_nil p')
        (not_beginsIn_token hclosed hopened' hclosed' hne)
        (not_beginsIn_token hclosed' hopened hclosed (Ne.symm hne)) new t
    have hrest := ih hdistinct (fun raw hmem => htokens raw (List.mem_cons_of_mem _ hmem))
      (fun item hmem => hanswers item (List.mem_cons_of_mem _ hmem))
      (Text.replaceAll (token p) new t)
    have hstanding : Replacements.standing ((token p, new) :: items) t =
        Text.occurrences (token p) t + Replacements.standing items t := List.sum_cons
    rw [Replacements.apply_cons, hstanding]
    omega

end Directive

namespace Replacements

/-- What stands at the place of a token when every token was replaced at its own places only. -/
def placed (items : Replacements) (payload : Text) : Text :=
  (items.lookup (Directive.token payload)).getD (Directive.token payload)

theorem placed_append_of_lookup {front : Replacements} {payload answer : Text}
    (hlookup : front.lookup (Directive.token payload) = some answer) (rest : Replacements) :
    (front ++ rest).placed payload = answer := by
  rw [placed, List.lookup_append, hlookup]
  rfl

/-- What is still to be swept for takes its own braces away, and no others are to go. -/
theorem count_placed_le {rest : Replacements} (hdistinct : (rest.map Prod.fst).Nodup)
    (hne : ∀ item ∈ rest, item.1 ≠ []) {payload : Text} (hopened : '{' ∉ payload)
    (front : Replacements) :
    (front.placed payload).count '{' ≤
      ((front ++ rest).placed payload).count '{' + 2 * rest.standing (front.placed payload) := by
  cases hfront : front.lookup (Directive.token payload) with
  | some answer =>
    rw [placed_append_of_lookup hfront, placed, hfront]
    exact Nat.le_add_right _ _
  | none =>
    rw [placed, placed, List.lookup_append, hfront, Option.none_or, Option.getD_none]
    cases hrest : rest.lookup (Directive.token payload) with
    | none => exact Nat.le_add_right _ _
    | some answer =>
      have hmem := (lookup_eq_some_iff_mem hdistinct).mp hrest
      have hpos : 0 < rest.standing (Directive.token payload) :=
        standing_pos hmem (hne _ hmem) (List.infix_refl _)
      have hbraces := Directive.count_brace_token hopened
      omega

end Replacements

namespace Engine

theorem plain_of_not_mem {t : Text} (hopened : '{' ∉ t) : Plain t :=
  ⟨fun hwithin => hopened (hwithin.subset List.mem_cons_self),
    fun hsuffix => hopened (hsuffix.subset List.mem_cons_self)⟩

/-- Sweeps of which only one puts in opening braces put every text at its places, provided that no
token swept for after that one begins in its text. -/
theorem apply_eq_write_lookup_of_apart {text raw new : Text} {done rest : Replacements}
    (hclear : (Directive.layout text).Clear)
    (hdistinct : ((done ++ (raw, new) :: rest).map Prod.fst).Nodup)
    (htokens : ∀ r ∈ (done ++ (raw, new) :: rest).map Prod.fst,
      ∃ p ∈ Directive.payloads text, r = Directive.token p)
    (hanswers : ∀ item ∈ done ++ rest, '{' ∉ item.2)
    (hapart : ∀ later ∈ rest, ¬ Text.BeginsIn later.1 new) :
    Replacements.apply (done ++ (raw, new) :: rest) text =
      (Directive.layout text).write (Replacements.placed (done ++ (raw, new) :: rest)) := by
  have hsilent : ∀ item ∈ done ++ rest, ∀ later ∈ done ++ (raw, new) :: rest,
      ¬ Text.BeginsIn later.1 item.2 := by
    intro item hitem later hmem
    obtain ⟨p, -, hp⟩ := htokens later.1 (List.mem_map_of_mem hmem)
    rw [hp]
    exact Directive.not_beginsIn_of_plain (plain_of_not_mem (hanswers item hitem)) p
  apply apply_eq_write_lookup hclear hdistinct htokens
  rw [List.pairwise_append, List.pairwise_cons]
  refine ⟨List.pairwise_of_forall_mem_list fun item hitem later hmem => ?_,
    ⟨hapart, List.pairwise_of_forall_mem_list fun item hitem later hmem => ?_⟩,
    fun item hitem later hmem => ?_⟩
  · exact hsilent item (List.mem_append_left _ hitem) later (List.mem_append_left _ hmem)
  · exact hsilent item (List.mem_append_right _ hitem) later
      (List.mem_append_right _ (List.mem_cons_of_mem _ hmem))
  · exact hsilent item (List.mem_append_left _ hitem) later (List.mem_append_right _ hmem)

/-- If one of the tokens that are swept for later stands in a text that was put in, the document
loses braces that it would keep if every token were replaced at its own places only. -/
theorem count_brace_apply_lt {text raw included : Text} {done rest : Replacements}
    (hclear : (Directive.layout text).Clear)
    (hdistinct : ((done ++ (raw, included) :: rest).map Prod.fst).Nodup)
    (htokens : ∀ r ∈ (done ++ (raw, included) :: rest).map Prod.fst,
      ∃ p ∈ Directive.payloads text, r = Directive.token p)
    (hanswers : ∀ item ∈ done ++ rest, '{' ∉ item.2)
    (hstands : ∃ item ∈ rest, item.1 <:+: included) :
    (Replacements.apply (done ++ (raw, included) :: rest) text).count '{' <
      ((Directive.layout text).write
        (Replacements.placed (done ++ (raw, included) :: rest))).count '{' := by
  have hsplit : done ++ (raw, included) :: rest = (done ++ [(raw, included)]) ++ rest := by simp
  rw [hsplit] at hdistinct htokens ⊢
  generalize hfront : done ++ [(raw, included)] = front at hdistinct htokens ⊢
  rw [List.map_append] at hdistinct htokens
  obtain ⟨hdistinctFront, hdistinctRest, -⟩ := List.nodup_append.mp hdistinct
  have hopened : ∀ p ∈ Directive.payloads text, '{' ∉ p := fun p hp =>
    (hclear.payload p (Directive.marks_layout text ▸ hp)).1
  have htokensRest : ∀ r ∈ rest.map Prod.fst, ∃ p, r = Directive.token p ∧ '{' ∉ p ∧ '}' ∉ p := by
    intro r hr
    obtain ⟨p, hp, heq⟩ := htokens r (List.mem_append_right _ hr)
    exact ⟨p, heq, hopened p hp, Directive.not_mem_of_mem_payloads hp⟩
  have hne : ∀ item ∈ rest, item.1 ≠ [] := by
    intro item hitem
    obtain ⟨p, hp, -⟩ := htokensRest item.1 (List.mem_map_of_mem hitem)
    rw [hp]
    exact Directive.token_ne_nil p
  -- the document when the text has just been put in
  have hcurrent : front.apply text = (Directive.layout text).write front.placed := by
    subst hfront
    exact apply_eq_write_lookup_of_apart hclear hdistinctFront
      (fun r hr => htokens r (List.mem_append_left _ hr))
      (fun item hitem => hanswers item
        (List.mem_append_left _ (List.append_nil done ▸ hitem)))
      (fun later hlater => absurd hlater List.not_mem_nil)
  have hle : ∀ p ∈ (Directive.layout text).marks, (front.placed p).count '{' ≤
      ((front ++ rest).placed p).count '{' + 2 * rest.standing (front.placed p) :=
    fun p hp => Replacements.count_placed_le hdistinctRest hne (hclear.payload p hp).1 front
  have hlt : ∃ p ∈ (Directive.layout text).marks, (front.placed p).count '{' <
      ((front ++ rest).placed p).count '{' + 2 * rest.standing (front.placed p) := by
    have hmem : (raw, included) ∈ front := by simp [← hfront]
    obtain ⟨p, hp, hraw⟩ := htokens raw (List.mem_append_left _ (List.mem_map_of_mem hmem))
    have hlookup : front.lookup (Directive.token p) = some included :=
      (Replacements.lookup_eq_some_iff_mem hdistinctFront).mpr (hraw ▸ hmem)
    have hplaced : front.placed p = included := by
      rw [Replacements.placed, hlookup, Option.getD_some]
    obtain ⟨item, hitem, hwithin⟩ := hstands
    have hpos := Replacements.standing_pos hitem (hne item hitem) hwithin
    refine ⟨p, Directive.marks_layout text ▸ hp, ?_⟩
    rw [Replacements.placed_append_of_lookup hlookup, hplaced]
    omega
  have hmarks := List.sum_lt_sum _ _ hle hlt
  rw [List.sum_map_add] at hmarks
  have hstanding := Layout.sum_marks_le_write (fun t => 2 * rest.standing t)
    (fun a b => by
      have hadd := Replacements.standing_add_le hne a b
      omega) front.placed (Directive.layout text)
  have hbound := Directive.count_apply_add_le hdistinctRest htokensRest
    (fun item hitem => hanswers item (List.mem_append_right _ hitem))
    ((Directive.layout text).write front.placed)
  have hcountCurrent := Layout.count_write front.placed (Directive.layout text) '{'
  have hcountMeant := Layout.count_write (front ++ rest).placed (Directive.layout text) '{'
  rw [Replacements.apply_append, hcurrent]
  omega

variable {η ω : Type} [Reads ω] [Offers η] [Handler η ω]

theorem replacements_append (front back : List (Directive × Resolution)) :
    replacements (front ++ back) = replacements front ++ replacements back :=
  List.filterMap_append

/-- A document that includes a file is rendered by putting the text of the file, as it was read, at
the place of the include and the answers to the other directives at theirs, unless a token that is
swept for after the include begins in that text. If such a token stands in it, it is replaced. -/
theorem render_of_include {depth : Nat} {text file method included : Text} {params : ParamSet}
    {before behind : List Directive} {directive : Directive}
    {done rest : List (Directive × Resolution)} {ctx ctx₁ ctx₂ ctx' : Context η ω}
    (hpayload : ∀ payload ∈ (Directive.layout text).marks, '{' ∉ payload)
    (hgap : ∀ gap ∈ (Directive.layout text).gaps, ¬ ['{', '{'] <:+: gap)
    (hscan : Directive.scan text = before ++ directive :: behind)
    (htarget : directive.target = .call includeName method params)
    (hfile : params.get "file" = some file)
    (hbefore : (engine depth).dispatchAll before ctx = some (.ok done, ctx₁))
    (hfree : ctx₁.registry.contains includeName = false)
    (hread : ctx₁.read (includePath ctx₁.baseDir file) = (.ok included, ctx₂))
    (hbehind : (engine depth).dispatchAll behind ctx₂ = some (.ok rest, ctx'))
    (hanswers : ∀ other answer, (other, .replace answer) ∈ done ++ rest → '{' ∉ answer) :
    let resolved := done ++ (directive, .replace included) :: rest
    let swept := (replacements resolved).apply text
    let meant := (Directive.layout text).write (answerTo resolved)
    ctx.render (depth + 1) text = some (.ok (Render.stripEditable swept), ctx') ∧
    (Directive.layout text).write Directive.token = text ∧
    (∃ payload ∈ (Directive.layout text).marks,
      directive.raw = Directive.token payload ∧ answerTo resolved payload = included) ∧
    ((∀ other answer, (other, .replace answer) ∈ rest → ¬ Text.BeginsIn other.raw included) →
      swept = meant) ∧
    ((∃ other answer, (other, .replace answer) ∈ rest ∧ other.raw <:+: included) →
      swept ≠ meant) := by
  intro resolved swept meant
  have hdispatch : (engine depth).dispatchAll (Directive.scan text) ctx =
      some (.ok resolved, ctx') := by
    rw [hscan, dispatchAll_append_eq_ok_iff]
    refine ⟨done, ctx₁, _, hbefore, ?_, rfl⟩
    exact dispatchAll_cons_eq_ok_iff.mpr
      ⟨_, ctx₂, rest, dispatch_include htarget hfile hfree hread, hbehind, rfl⟩
  have hdirectives := map_fst_of_dispatchAll hdispatch
  have hclear : (Directive.layout text).Clear := {
    payload := fun payload hmem => ⟨hpayload payload hmem,
      Directive.not_mem_of_mem_payloads (Directive.marks_layout text ▸ hmem)⟩
    gap := hgap
    before := fun gap hmem => Directive.not_brace_suffix_of_mem_dropLast_gaps hmem }
  have hreplacements : replacements resolved =
      replacements done ++ (directive.raw, included) :: replacements rest :=
    replacements_append done _
  have hdistinct := nodup_map_fst_replacements hdirectives
  have htokens := fun raw => @exists_payload_of_mem_replacements _ _ hdirectives raw
  rw [hreplacements] at hdistinct htokens
  have hopened : ∀ item ∈ replacements done ++ replacements rest, '{' ∉ item.2 := by
    intro item hitem
    rw [← replacements_append] at hitem
    obtain ⟨other, hother, -⟩ := mem_replacements.mp hitem
    exact hanswers other item.2 hother
  have hanswerTo : ∀ p, answerTo resolved p = (replacements resolved).placed p :=
    answerTo_eq_lookup (nodup_map_raw_resolved hdirectives)
  have hmeant : meant = (Directive.layout text).write
      (Replacements.placed
        (replacements done ++ (directive.raw, included) :: replacements rest)) := by
    apply Layout.write_congr
    intro p _
    rw [hanswerTo, hreplacements]
  refine ⟨render_eq_ok_iff.mpr ⟨resolved, hdispatch, rfl⟩, Directive.write_layout text, ?_, ?_, ?_⟩
  · obtain ⟨payload, hmark, hraw⟩ := exists_payload_of_resolved hdirectives
      (List.mem_append_right done List.mem_cons_self)
    refine ⟨payload, Directive.marks_layout text ▸ hmark, hraw, ?_⟩
    have hmem : (Directive.token payload, included) ∈
        replacements done ++ (directive.raw, included) :: replacements rest :=
      List.mem_append_right _ (hraw ▸ List.mem_cons_self)
    rw [hanswerTo, hreplacements, Replacements.placed,
      (Replacements.lookup_eq_some_iff_mem hdistinct).mpr hmem]
    rfl
  · intro happart
    change (replacements resolved).apply text = meant
    rw [hmeant, hreplacements]
    apply apply_eq_write_lookup_of_apart hclear hdistinct htokens hopened
    intro later hlater
    obtain ⟨other, hother, hraw⟩ := mem_replacements.mp hlater
    exact hraw ▸ happart other later.2 hother
  · rintro ⟨other, answer, hother, hwithin⟩ heq
    have hlt := count_brace_apply_lt hclear hdistinct htokens hopened
      ⟨(other.raw, answer), mem_replacements.mpr ⟨other, hother, rfl⟩, hwithin⟩
    rw [← hmeant, ← hreplacements, ← heq] at hlt
    exact Nat.lt_irrefl _ hlt

/-- The token of a directive that was swept for before the include is left in the text of the
file. -/
theorem render_of_include_behind_root :
    let text : Text := "{{root}}{{include.file(file=nav)}}{{x.y}}"
    let included : Text := "<a>{{root}}</a>"
    let files : List (Text × Except ReadError Text) := [("./nav", .ok included)]
    let ctx : Context Empty (Noted Shelf) :=
      Context.new Context.defaultRoot Context.defaultBase [] ⟨⟨files⟩, []⟩
    let ctx' := { ctx with world := ctx.world.add (.read "./nav") }
    (∀ payload ∈ (Directive.layout text).marks, '{' ∉ payload) ∧
    (∀ gap ∈ (Directive.layout text).gaps, ¬ ['{', '{'] <:+: gap) ∧
    ctx.read "./nav" = (.ok included, ctx') ∧
    ctx.render 1 text = some (.ok "/<a>{{root}}</a>{{x.y}}", ctx') := by
  intro text included files ctx ctx'
  have hpayload : ∀ payload ∈ (Directive.layout text).marks, '{' ∉ payload := by decide +kernel
  have hgap : ∀ gap ∈ (Directive.layout text).gaps, ¬ ['{', '{'] <:+: gap := by decide +kernel
  have hread : ctx.read "./nav" = (.ok included, ctx') := by rfl
  let root := Directive.parse "{{root}}" "root"
  let nav := Directive.parse "{{include.file(file=nav)}}" "include.file(file=nav)"
  let unknown := Directive.parse "{{x.y}}" "x.y"
  have hscan : Directive.scan text = [root] ++ nav :: [unknown] := by decide +kernel
  have hbefore : (engine 0).dispatchAll [root] ctx =
      some (.ok [(root, .replace Context.defaultRoot)], ctx) := by rfl
  have hbehind : (engine 0).dispatchAll [unknown] ctx' =
      some (.ok [(unknown, .inert)], ctx') := by rfl
  have hanswers : ∀ other answer, (other, Resolution.replace answer) ∈
      [(root, Resolution.replace Context.defaultRoot)] ++ [(unknown, .inert)] →
        '{' ∉ answer := by
    intro other answer hmem
    rcases List.mem_cons.mp hmem with heq | hmem
    · cases heq
      decide +kernel
    · cases List.mem_singleton.mp hmem
  have htarget : nav.target = .call includeName "file" [("file", .text "nav")] := by
    decide +kernel
  have hfile : ParamSet.get [("file", .text "nav")] "file" = some "nav" := by decide +kernel
  obtain ⟨hrender, -, -, hliteral, -⟩ :=
    render_of_include hpayload hgap hscan htarget hfile hbefore (by rfl) hread hbehind hanswers
  refine ⟨hpayload, hgap, hread, ?_⟩
  rw [hrender, hliteral fun other answer hmem => by cases List.mem_singleton.mp hmem]
  rfl

/-- The same document with the include in front loses the token that stands in the file. -/
theorem render_of_include_ahead_of_root :
    let text : Text := "{{include.file(file=nav.html)}}{{root}}"
    let included : Text := "<nav>{{root}}</nav>"
    let files : List (Text × Except ReadError Text) := [("./nav.html", .ok included)]
    let ctx : Context Empty (Noted Shelf) :=
      Context.new "/site/" Context.defaultBase [] ⟨⟨files⟩, []⟩
    let ctx' := { ctx with world := ctx.world.add (.read "./nav.html") }
    (∀ payload ∈ (Directive.layout text).marks, '{' ∉ payload) ∧
    (∀ gap ∈ (Directive.layout text).gaps, gap = []) ∧
    ctx.registry.contains includeName = false ∧
    ctx.render 1 text = some (.ok "<nav>/site/</nav>/site/", ctx') ∧
    Render.stripEditable (included ++ "/site/") ≠ "<nav>/site/</nav>/site/" := by
  refine ⟨by decide +kernel, by decide +kernel, by rfl, by rfl, by decide +kernel⟩

end Engine

end Stencil
