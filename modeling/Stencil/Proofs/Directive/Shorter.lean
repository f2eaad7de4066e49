import Stencil.Proofs.Directive.Distinct

namespace Stencil

namespace Text

theorem length_of_cutFirst {c : Char} {t a b : Text} (hcut : cutFirst c t = some (a, b)) :
    a.length + b.length + 1 = t.length := by
  induction t generalizing a with
  | nil => cases hcut
  | cons d t ih =>
    rw [cutFirst] at hcut
    split at hcut
    · cases hcut
      simp
    · obtain ⟨⟨a', b'⟩, hrest, heq⟩ := Option.map_eq_some_iff.mp hcut
      cases heq
      have hlength := ih hrest
      rw [List.length_cons, List.length_cons]
      omega

theorem length_of_cutLast {c : Char} {t a b : Text} (hcut : cutLast c t = some (a, b)) :
    a.length + b.length + 1 = t.length := by
  induction t generalizing a b with
  | nil => cases hcut
  | cons d t ih =>
    rw [cutLast] at hcut
    split at hcut
    · next a' b' hrest =>
      cases hcut
      have hlength := ih hrest
      rw [List.length_cons, List.length_cons]
      omega
    · split at hcut
      · cases hcut
        simp
      · cases hcut

/-- A text does not become longer when every match is replaced by one character at most. -/
theorem length_replaceMatches_le {m : Matcher Text}
    (hshort : ∀ t b more, m t = some (b, more) → b.length ≤ 1) (t : Text) :
    (replaceMatches m t).length ≤ t.length := by
  induction t using pieces_induction m with
  | nil => exact Nat.le_refl 0
  | char c r hnone ih =>
    have hfront : replaceMatches m (c :: r) = c :: replaceMatches m r := by
      rw [replaceMatches, pieces_cons_of_none hnone]
      rfl
    rw [hfront, List.length_cons, List.length_cons]
    omega
  | found c r b more hsome ih =>
    have hone := hshort _ _ _ hsome
    have hfront : replaceMatches m (c :: r) = b ++ replaceMatches m (r.drop more) := by
      rw [replaceMatches, pieces_cons_of_some hsome]
      rfl
    rw [hfront, List.length_append, List.length_cons]
    rw [List.length_drop] at ih
    omega

end Text

namespace Entity

/-- A reference stands for one character. -/
theorem length_of_reference {t b : Text} {more : Nat} (hsome : reference t = some (b, more)) :
    b.length = 1 := by
  unfold reference at hsome
  split at hsome
  · simp only at hsome
    split at hsome
    · obtain ⟨c, -, heq⟩ := Option.map_eq_some_iff.mp hsome
      cases heq
      rfl
    · cases hsome
  · cases hsome

theorem length_decode_le (t : Text) : (decode t).length ≤ t.length :=
  Text.length_replaceMatches_le (fun _ _ _ hsome => (length_of_reference hsome).le) t

end Entity

namespace ParamSet

theorem length_le_of_mem_splitFrom {escaped : Bool} {t piece : Text}
    (hmem : piece ∈ splitFrom escaped t) : piece.length ≤ t.length := by
  induction t generalizing escaped piece with
  | nil =>
    rw [splitFrom, List.mem_singleton] at hmem
    rw [hmem]
  | cons c t ih =>
    have hlonger : ∀ {escaped : Bool} {piece : Text}, piece ∈ splitFrom escaped t →
        piece.length ≤ t.length + 1 := fun hpiece => Nat.le_succ_of_le (ih hpiece)
    rw [splitFrom] at hmem
    rw [List.length_cons]
    split at hmem
    · rcases List.mem_cons.mp hmem with rfl | hmem
      · exact Nat.zero_le _
      · exact hlonger hmem
    · split at hmem
      · rw [List.mem_singleton.mp hmem, List.length_singleton]
        omega
      · next first pieces hsplit =>
        rcases List.mem_cons.mp hmem with rfl | hmem
        · have hfirst : first.length ≤ t.length := ih (hsplit ▸ List.mem_cons_self)
          rw [List.length_cons]
          omega
        · exact hlonger (hsplit ▸ List.mem_cons_of_mem _ hmem)

theorem length_unescape_le (written : Text) : (unescape written).length ≤ written.length := by
  rw [unescape, Text.replaceAll_eq_replaceMatches (by decide)]
  refine Text.length_replaceMatches_le (fun t b more hsome => ?_) written
  obtain ⟨_, _, heq⟩ := Option.map_eq_some_iff.mp hsome
  cases heq
  exact Nat.le_refl 1

theorem length_le_of_entry {written value : Text} (hvalue : (entry written).2 = .text value) :
    value.length ≤ written.length := by
  rw [entry] at hvalue
  split at hvalue
  · next key rest hcut =>
    cases hvalue
    have hrest := length_unescape_le rest
    have hlength := Text.length_of_cutFirst hcut
    omega
  · cases hvalue

/-- A value in a list of parameters was there before, or is the one that was set. -/
theorem of_mem_insert {params : ParamSet} {key : Text} {value : ParamValue}
    {param : Text × ParamValue} (hmem : param ∈ params.insert key value) :
    param ∈ params ∨ param.2 = value := by
  induction params with
  | nil =>
    rw [insert, List.mem_singleton] at hmem
    exact .inr (congrArg Prod.snd hmem)
  | cons first params ih =>
    rw [insert] at hmem
    split at hmem
    · rcases List.mem_cons.mp hmem with rfl | hmem
      · exact .inr rfl
      · exact .inl (List.mem_cons_of_mem _ hmem)
    · rcases List.mem_cons.mp hmem with rfl | hmem
      · exact .inl List.mem_cons_self
      · exact (ih hmem).imp_left (List.mem_cons_of_mem _)

theorem of_mem_insertAll {params entries : ParamSet} {param : Text × ParamValue}
    (hmem : param ∈ params.insertAll entries) :
    param ∈ params ∨ ∃ entry ∈ entries, param.2 = entry.2 := by
  induction entries generalizing params with
  | nil => exact .inl hmem
  | cons first entries ih =>
    rcases ih hmem with hmem | ⟨entry, hentry, heq⟩
    · rcases of_mem_insert hmem with hmem | heq
      · exact .inl hmem
      · exact .inr ⟨first, List.mem_cons_self, heq⟩
    · exact .inr ⟨entry, List.mem_cons_of_mem _ hentry, heq⟩

/-- Whether a text is the value of one of the parameters of a call. -/
def Gives (params? : Option ParamSet) (value : Text) : Prop :=
  ∃ params key, params? = some params ∧ (key, .text value) ∈ params

theorem length_le_of_mem_parse {list key value : Text} (hmem : (key, .text value) ∈ parse list) :
    value.length ≤ list.length := by
  rcases of_mem_insertAll hmem with hmem | ⟨entry, hentry, heq⟩
  · cases hmem
  · obtain ⟨written, hwritten, rfl⟩ := List.mem_map.mp hentry
    exact (length_le_of_entry heq.symm).trans (length_le_of_mem_splitFrom hwritten)

theorem length_le_of_mem_ofCall {method key value : Text}
    (hmem : (key, .text value) ∈ ofCall method) : value.length ≤ method.length := by
  rw [ofCall] at hmem
  split at hmem
  · cases hmem
  · next name rest hfirst =>
    split at hmem
    · cases hmem
    · next list after hlast =>
      have hvalue := length_le_of_mem_parse hmem
      have hrest := Text.length_of_cutFirst hfirst
      have hlist := Text.length_of_cutLast hlast
      omega

end ParamSet

theorem Target.length_le_of_parse {payload plugin method key value : Text} {params : ParamSet}
    (htarget : parse payload = .call plugin method params)
    (hmem : (key, .text value) ∈ params) : value.length ≤ payload.length := by
  rw [parse] at htarget
  split at htarget
  · cases htarget
  · next name rest hcut =>
    have hrest := Text.length_of_cutFirst hcut
    split at htarget
    · cases htarget
      cases hmem
    · cases htarget
      have hvalue := ParamSet.length_le_of_mem_ofCall hmem
      omega

namespace Directive

theorem length_lt_of_mem_payloads {t payload : Text} (hpayload : payload ∈ payloads t) :
    payload.length < t.length := by
  induction t using token_induction with
  | nil => cases hpayload
  | char c r hnone ih =>
    rw [payloads, Text.matchesOf, Text.pieces_cons_of_none hnone] at hpayload
    have hlength := ih hpayload
    rw [List.length_cons]
    omega
  | token payload' rest hclosed ih =>
    rw [payloads, Text.matchesOf_append_of_match (length_token payload')
      (tokenAt_token_append hclosed rest)] at hpayload
    rw [List.length_append, length_token]
    rcases List.mem_cons.mp hpayload with rfl | hrest
    · omega
    · have hlength := ih hrest
      omega

/-- What a parameter gives to the command of a directive is shorter than the text that the directive
stands in. -/
theorem length_lt_of_mem_scan {t : Text} {directive : Directive} (hscan : directive ∈ scan t)
    {plugin method key value : Text} {params : ParamSet}
    (htarget : directive.target = .call plugin method params)
    (hmem : (key, .text value) ∈ params) : value.length < t.length := by
  obtain ⟨payload, hpayload, rfl⟩ := raw_of_mem_scan hscan
  calc value.length ≤ (Entity.decode payload).length := Target.length_le_of_parse htarget hmem
    _ ≤ payload.length := Entity.length_decode_le payload
    _ < t.length := length_lt_of_mem_payloads hpayload

end Directive

end Stencil
