import Stencil.Proofs.Directive.Distinct
import Stencil.Proofs.Text.Cut

namespace Stencil

namespace Directive

/-- A token that was matched in a text: the number of characters in front of it, and its payload. -/
structure Span where
  start : Nat
  payload : Text
  deriving DecidableEq, Repr

namespace Span

/-- What stands there. -/
def raw (span : Span) : Text :=
  token span.payload

/-- The number of characters in front of what follows the token. -/
def stop (span : Span) : Nat :=
  span.start + span.raw.length

/-- The same token in a text with more characters in front. -/
def shift (n : Nat) (span : Span) : Span :=
  { span with start := n + span.start }

@[simp] theorem payload_shift (n : Nat) (span : Span) : (span.shift n).payload = span.payload := rfl

@[simp] theorem start_shift (n : Nat) (span : Span) : (span.shift n).start = n + span.start := rfl

@[simp] theorem raw_shift (n : Nat) (span : Span) : (span.shift n).raw = span.raw := rfl

@[simp] theorem stop_shift (n : Nat) (span : Span) : (span.shift n).stop = n + span.stop := by
  simp only [stop, start_shift, raw_shift, Nat.add_assoc]

theorem start_lt_stop (span : Span) : span.start < span.stop := by
  rw [stop, raw, length_token]
  omega

end Span

/-- The tokens among what has been read, with `start` characters in front of it. -/
def spansFrom (start : Nat) : List (Text.Piece Text) → List Span
  | [] => []
  | .char _ :: rest => spansFrom (start + 1) rest
  | .found payload :: rest => ⟨start, payload⟩ :: spansFrom (start + (token payload).length) rest

/-- The tokens that are matched in a text, from left to right. -/
def spans (t : Text) : List Span :=
  spansFrom 0 (Text.pieces tokenAt t)

theorem spansFrom_eq_map_shift (start : Nat) (pieces : List (Text.Piece Text)) :
    spansFrom start pieces = (spansFrom 0 pieces).map (Span.shift start) := by
  induction pieces generalizing start with
  | nil => rfl
  | cons piece pieces ih =>
    have hshift : ∀ n, spansFrom (start + n) pieces =
        (spansFrom (0 + n) pieces).map (Span.shift start) := by
      intro n
      rw [ih (start + n), ih (0 + n), List.map_map]
      apply List.map_congr_left
      intro span _
      simp only [Function.comp_apply, Span.shift, Nat.zero_add, Nat.add_assoc]
    cases piece with
    | char c => exact hshift 1
    | found payload =>
      rw [spansFrom, spansFrom, hshift, List.map_cons]
      rfl

theorem spans_cons_of_none {c : Char} {r : Text} (hnone : tokenAt (c :: r) = none) :
    spans (c :: r) = (spans r).map (Span.shift 1) := by
  rw [spans, Text.pieces_cons_of_none hnone, spansFrom, spansFrom_eq_map_shift]
  rfl

theorem spans_token_append {payload : Text} (hclosed : '}' ∉ payload) (rest : Text) :
    spans (token payload ++ rest) =
      ⟨0, payload⟩ :: (spans rest).map (Span.shift (token payload).length) := by
  rw [spans, Text.pieces_append_of_match (length_token payload)
    (tokenAt_token_append hclosed rest), spansFrom, spansFrom_eq_map_shift, Nat.zero_add]
  rfl

theorem map_payload_spans (t : Text) : (spans t).map Span.payload = payloads t := by
  rw [spans, payloads, Text.matchesOf]
  generalize 0 = start
  induction Text.pieces tokenAt t generalizing start with
  | nil => rfl
  | cons piece pieces ih =>
    cases piece with
    | char c => exact ih _
    | found payload => exact congrArg (payload :: ·) (ih _)

theorem not_mem_payload_of_mem_spans {t : Text} {span : Span} (hspan : span ∈ spans t) :
    '}' ∉ span.payload := by
  apply not_mem_of_mem_payloads (t := t)
  rw [← map_payload_spans]
  exact List.mem_map_of_mem hspan

theorem raw_leads_drop_start {t : Text} {span : Span} (hspan : span ∈ spans t) :
    span.raw <+: t.drop span.start := by
  induction t using token_induction generalizing span with
  | nil => cases hspan
  | char c r hnone ih =>
    rw [spans_cons_of_none hnone] at hspan
    obtain ⟨inner, hinner, rfl⟩ := List.mem_map.mp hspan
    rw [Span.start_shift, Nat.add_comm, List.drop_succ_cons]
    exact ih hinner
  | token payload rest hclosed ih =>
    rw [spans_token_append hclosed] at hspan
    rcases List.mem_cons.mp hspan with rfl | hspan
    · exact List.prefix_append _ _
    · obtain ⟨inner, hinner, rfl⟩ := List.mem_map.mp hspan
      rw [Span.start_shift, ← List.drop_drop, List.drop_left]
      exact ih hinner

theorem pairwise_spans (t : Text) : (spans t).Pairwise fun a b => a.stop ≤ b.start := by
  induction t using token_induction with
  | nil => exact List.Pairwise.nil
  | char c r hnone ih =>
    rw [spans_cons_of_none hnone, List.pairwise_map]
    exact ih.imp fun hle => by
      rw [Span.stop_shift, Span.start_shift]
      exact Nat.add_le_add_left hle 1
  | token payload rest hclosed ih =>
    rw [spans_token_append hclosed, List.pairwise_cons]
    refine ⟨fun span hspan => ?_, ?_⟩
    · obtain ⟨inner, -, rfl⟩ := List.mem_map.mp hspan
      rw [Span.start_shift, Span.stop, Span.raw, Nat.zero_add]
      exact Nat.le_add_right _ _
    · rw [List.pairwise_map]
      exact ih.imp fun hle => by
        rw [Span.stop_shift, Span.start_shift]
        exact Nat.add_le_add_left hle _

theorem nodup_map_stop_spans (t : Text) : ((spans t).map Span.stop).Nodup := by
  rw [List.Nodup, List.pairwise_map]
  exact (pairwise_spans t).imp fun {a b} hle heq => by
    have hlt := b.start_lt_stop
    omega

/-- What is written like a token and begins within a token is the end of it. -/
theorem drop_token_eq_of_leads {payload q rest : Text} {i : Nat} (hclosed : '}' ∉ payload)
    (hq : '}' ∉ q) (hi : i < (token payload).length)
    (hleads : token q <+: (token payload ++ rest).drop i) : (token payload).drop i = token q := by
  obtain ⟨behind, hbehind⟩ := hleads
  have hfront : ∀ p : Text, '}' ∉ p → '}' ∉ '{' :: '{' :: p := fun p hp => by simpa using hp
  have htoken : ∀ p : Text, token p = ('{' :: '{' :: p) ++ ['}', '}'] := fun _ => rfl
  rw [htoken, htoken, List.append_assoc, List.append_assoc, List.drop_append] at hbehind
  rw [htoken, List.length_append] at hi
  by_cases hinner : i ≤ ('{' :: '{' :: payload).length
  · rw [Nat.sub_eq_zero_of_le hinner, List.drop_zero] at hbehind
    have hcut : '{' :: '{' :: q = ('{' :: '{' :: payload).drop i :=
      (Text.append_cons_inj (hfront q hq)
        (fun hmem => hfront payload hclosed (List.mem_of_mem_drop hmem)) hbehind).1
    rw [htoken, htoken, List.drop_append_of_le_length hinner, hcut]
  · -- there is only the last brace left, and it does not open a token
    have hlast : i - ('{' :: '{' :: payload).length = 1 := by
      simp only [List.length_cons, List.length_nil] at hi hinner ⊢
      omega
    rw [hlast, List.drop_eq_nil_of_le (Nat.le_of_not_le hinner)] at hbehind
    simp at hbehind

/-- Whatever is written like a token ends where a matched token ends. -/
theorem exists_span_of_leads_drop {t q : Text} {i : Nat} (hq : '}' ∉ q)
    (hleads : token q <+: t.drop i) :
    ∃ span ∈ spans t, token q <:+ span.raw ∧ i + (token q).length = span.stop := by
  induction t using token_induction generalizing i with
  | nil =>
    rw [List.drop_nil, List.prefix_nil] at hleads
    cases hleads
  | char c r hnone ih =>
    rw [spans_cons_of_none hnone]
    cases i with
    | zero =>
      obtain ⟨rest, hrest⟩ := hleads
      rw [List.drop_zero] at hrest
      rw [← hrest, tokenAt_token_append hq] at hnone
      cases hnone
    | succ i =>
      obtain ⟨span, hspan, hsuffix, hstop⟩ := ih hleads
      refine ⟨span.shift 1, List.mem_map_of_mem hspan, hsuffix, ?_⟩
      rw [Span.stop_shift, ← hstop]
      omega
  | token payload rest hclosed ih =>
    rw [spans_token_append hclosed]
    by_cases hi : i < (token payload).length
    · have hdrop := drop_token_eq_of_leads hclosed hq hi hleads
      refine ⟨⟨0, payload⟩, List.mem_cons_self, ?_, ?_⟩
      · rw [← hdrop]
        exact List.drop_suffix i (token payload)
      · change i + (token q).length = 0 + (token payload).length
        rw [← hdrop, List.length_drop]
        omega
    · obtain ⟨j, rfl⟩ := Nat.exists_eq_add_of_le (Nat.le_of_not_lt hi)
      rw [← List.drop_drop, List.drop_left] at hleads
      obtain ⟨span, hspan, hsuffix, hstop⟩ := ih hleads
      refine ⟨span.shift _, List.mem_cons_of_mem _ (List.mem_map_of_mem hspan), hsuffix, ?_⟩
      rw [Span.stop_shift, ← hstop, Nat.add_assoc]

/-- The end of a matched token that is itself written like a token stands in the text. -/
theorem leads_drop_of_suffix_raw {t q : Text} {i : Nat} {span : Span} (hspan : span ∈ spans t)
    (hsuffix : token q <:+ span.raw) (hstop : i + (token q).length = span.stop) :
    '}' ∉ q ∧ token q <+: t.drop i := by
  obtain ⟨front, hfront⟩ := hsuffix
  have hclosed := not_mem_payload_of_mem_spans hspan
  constructor
  · have hsplit : front ++ '{' :: '{' :: q = '{' :: '{' :: span.payload := by
      have hends : (front ++ '{' :: '{' :: q) ++ ['}', '}'] =
          ('{' :: '{' :: span.payload) ++ ['}', '}'] := by
        rw [List.append_assoc]
        exact hfront
      exact List.append_cancel_right hends
    intro hmem
    have hpayload : '}' ∈ '{' :: '{' :: span.payload := by
      rw [← hsplit]
      exact List.mem_append_right _ (by simp [hmem])
    simp [hclosed] at hpayload
  · obtain ⟨rest, hrest⟩ := raw_leads_drop_start hspan
    have hi : i = span.start + front.length := by
      rw [Span.stop, ← hfront, List.length_append] at hstop
      omega
    rw [hi, ← List.drop_drop, ← hrest, ← hfront, List.append_assoc, List.drop_left]
    exact List.prefix_append _ _

/-- The tokens that are matched in a text do not overlap, and each is two opening braces, a payload
without closing braces, and two closing braces. Whatever is written like that anywhere in the text
is the end of exactly one of them. Scanning returns one directive for each distinct token, in the
order in which they are first matched, read from the token and its payload. -/
theorem scan_eq_eraseDups_spans (t : Text) :
    (spans t).Pairwise (fun a b => a.stop ≤ b.start) ∧
    (∀ span ∈ spans t, '}' ∉ span.payload ∧
      ['{', '{'] ++ span.payload ++ ['}', '}'] <+: t.drop span.start) ∧
    (∀ (i : Nat) (q : Text), ('}' ∉ q ∧ ['{', '{'] ++ q ++ ['}', '}'] <+: t.drop i) ↔
      ∃! span, span ∈ spans t ∧ ['{', '{'] ++ q ++ ['}', '}'] <:+ span.raw ∧
        i + (q.length + 4) = span.stop) ∧
    (scan t).map Directive.raw = ((spans t).map Span.raw).eraseDups ∧
    ((scan t).map Directive.raw).Nodup ∧
    scan t = ((spans t).map fun span => parse span.raw span.payload).eraseDups := by
  have hscan : scan t = (((spans t).map Span.payload).eraseDups).map fun payload =>
      parse (token payload) payload := by
    rw [scan, map_payload_spans]
  refine ⟨pairwise_spans t, fun span hspan => ⟨not_mem_payload_of_mem_spans hspan,
    raw_leads_drop_start hspan⟩, fun i q => ?_, ?_, nodup_map_raw_scan t, ?_⟩
  · have hlength : q.length + 4 = (token q).length := (length_token q).symm
    rw [hlength]
    constructor
    · rintro ⟨hq, hleads⟩
      obtain ⟨span, hspan, hsuffix, hstop⟩ := exists_span_of_leads_drop hq hleads
      refine ⟨span, ⟨hspan, hsuffix, hstop⟩, ?_⟩
      rintro other ⟨hother, -, hstop'⟩
      exact List.inj_on_of_nodup_map (nodup_map_stop_spans t) hother hspan (hstop'.symm.trans hstop)
    · rintro ⟨span, ⟨hspan, hsuffix, hstop⟩, -⟩
      exact leads_drop_of_suffix_raw hspan hsuffix hstop
  · rw [map_raw_scan, ← map_payload_spans,
      ← eraseDups_map fun _ _ _ _ htoken => token_injective htoken, List.map_map]
    rfl
  · have hinjective : ∀ a ∈ (spans t).map Span.payload, ∀ b ∈ (spans t).map Span.payload,
        parse (token a) a = parse (token b) b → a = b :=
      fun a _ b _ hparse => token_injective (congrArg Directive.raw hparse)
    rw [hscan, ← eraseDups_map hinjective, List.map_map]
    rfl

/-- A closing brace within spoils the first pair of braces, and a third opening brace belongs to
the payload. -/
example : spans ['{', '{', 'a', '}', 'b', '}', '}', '{', '{', '{', 'r', '}', '}'] =
    [⟨7, ['{', 'r']⟩] := by rfl

end Directive

end Stencil
