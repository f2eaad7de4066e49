import Mathlib.Data.Finset.Card
import Mathlib.Data.Finset.Dedup
import Mathlib.Data.Finset.SDiff
import Mathlib.Logic.Relation
import Stencil.Text.Basic

namespace Stencil

/-- What is asked for under each name that is on offer; `none` for all other names. -/
abbrev LoadGraph := Text → Option (List Text)

namespace LoadGraph

/-- Whether one name leads to another along requests. -/
def Reaches (graph : LoadGraph) : Text → Text → Prop :=
  Relation.ReflTransGen fun name name' => ∃ requests, graph name = some requests ∧ name' ∈ requests

/-- A walk through a list of requests, from the names met before it to the names met after it, with
the name at which it ended early. It goes depth first: from a name it is sent to, it goes on to what
that name asks for before anything else. -/
inductive Walk (graph : LoadGraph) : List Text → List Text → List Text → Option Text → Prop
  | nil {met : List Text} : Walk graph met [] met none
  /-- a name that was met before is passed by -/
  | again {met met' rest : List Text} {name : Text} {missing? : Option Text} (hmet : name ∈ met)
      (hrest : Walk graph met rest met' missing?) : Walk graph met (name :: rest) met' missing?
  /-- a name that is not on offer ends the walk -/
  | missing {met rest : List Text} {name : Text} (hnew : name ∉ met)
      (hnone : graph name = none) : Walk graph met (name :: rest) met (some name)
  /-- a new name is met, and what it asks for comes before the rest -/
  | visit {met met' met'' requests rest : List Text} {name : Text} {missing? : Option Text}
      (hnew : name ∉ met) (hsome : graph name = some requests)
      (hbelow : Walk graph (met ++ [name]) requests met' none)
      (hrest : Walk graph met' rest met'' missing?) : Walk graph met (name :: rest) met'' missing?
  /-- a new name is met, and the walk ends early below it -/
  | fails {met met' requests rest : List Text} {name missing : Text} (hnew : name ∉ met)
      (hsome : graph name = some requests)
      (hbelow : Walk graph (met ++ [name]) requests met' (some missing)) :
      Walk graph met (name :: rest) met' (some missing)

namespace Walk

variable {graph : LoadGraph} {met met' names : List Text} {missing? : Option Text}

theorem isPrefix (hwalk : Walk graph met names met' missing?) : met <+: met' := by
  induction hwalk with
  | nil => exact List.prefix_rfl
  | again hmet hrest ih => exact ih
  | missing hnew hnone => exact List.prefix_rfl
  | visit hnew hsome hbelow hrest ihbelow ihrest =>
    exact (List.prefix_append _ _).trans (ihbelow.trans ihrest)
  | fails hnew hsome hbelow ih => exact (List.prefix_append _ _).trans ih

theorem nodup (hwalk : Walk graph met names met' missing?) (hmet : met.Nodup) : met'.Nodup := by
  have hsnoc : ∀ {met : List Text} {name : Text}, name ∉ met → met.Nodup →
      (met ++ [name]).Nodup := by
    intro met name hnew hmet
    rw [← List.concat_eq_append]
    exact hmet.concat hnew
  induction hwalk with
  | nil => exact hmet
  | again hagain hrest ih => exact ih hmet
  | missing hnew hnone => exact hmet
  | visit hnew hsome hbelow hrest ihbelow ihrest => exact ihrest (ihbelow (hsnoc hnew hmet))
  | fails hnew hsome hbelow ih => exact ih (hsnoc hnew hmet)

/-- A walk through given requests comes to one end only. -/
theorem unique (hwalk : Walk graph met names met' missing?) {met'' : List Text}
    {missing?' : Option Text} (hother : Walk graph met names met'' missing?') :
    met'' = met' ∧ missing?' = missing? := by
  induction hwalk generalizing met'' missing?' with
  | nil =>
    cases hother
    exact ⟨rfl, rfl⟩
  | again hmet hrest ih =>
    cases hother with
    | again _ hrest' => exact ih hrest'
    | missing hnew => exact absurd hmet hnew
    | visit hnew => exact absurd hmet hnew
    | fails hnew => exact absurd hmet hnew
  | missing hnew hnone =>
    cases hother with
    | again hmet => exact absurd hmet hnew
    | missing => exact ⟨rfl, rfl⟩
    | visit _ hsome => simp [hnone] at hsome
    | fails _ hsome => simp [hnone] at hsome
  | visit hnew hsome hbelow hrest ihbelow ihrest =>
    cases hother with
    | again hmet => exact absurd hmet hnew
    | missing _ hnone => simp [hnone] at hsome
    | visit _ hsome' hbelow' hrest' =>
      obtain rfl := Option.some.inj (hsome.symm.trans hsome')
      obtain ⟨rfl, -⟩ := ihbelow hbelow'
      exact ihrest hrest'
    | fails _ hsome' hbelow' =>
      obtain rfl := Option.some.inj (hsome.symm.trans hsome')
      cases (ihbelow hbelow').2
  | fails hnew hsome hbelow ih =>
    cases hother with
    | again hmet => exact absurd hmet hnew
    | missing _ hnone => simp [hnone] at hsome
    | visit _ hsome' hbelow' =>
      obtain rfl := Option.some.inj (hsome.symm.trans hsome')
      cases (ih hbelow').2
    | fails _ hsome' hbelow' =>
      obtain rfl := Option.some.inj (hsome.symm.trans hsome')
      exact ih hbelow'

/-- Whatever is met is reached from one of the requests. -/
theorem reached (hwalk : Walk graph met names met' missing?) {n : Text} (hmem : n ∈ met') :
    n ∈ met ∨ ∃ name ∈ names, graph.Reaches name n := by
  induction hwalk with
  | nil => exact .inl hmem
  | again hmet hrest ih =>
    rcases ih hmem with hmem | ⟨name, hname, hreaches⟩
    · exact .inl hmem
    · exact .inr ⟨name, List.mem_cons_of_mem _ hname, hreaches⟩
  | missing hnew hnone => exact .inl hmem
  | @visit met met₁ met₂ requests rest name missing? hnew hsome hbelow hrest ihbelow ihrest =>
    rcases ihrest hmem with hmem | ⟨other, hother, hreaches⟩
    · rcases ihbelow hmem with hmem | ⟨request, hrequest, hreaches⟩
      · rcases List.mem_append.mp hmem with hmem | hmem
        · exact .inl hmem
        · rw [List.mem_singleton.mp hmem]
          exact .inr ⟨name, List.mem_cons_self, .refl⟩
      · exact .inr ⟨name, List.mem_cons_self, hreaches.head ⟨requests, hsome, hrequest⟩⟩
    · exact .inr ⟨other, List.mem_cons_of_mem _ hother, hreaches⟩
  | @fails met met₁ requests rest name missing hnew hsome hbelow ih =>
    rcases ih hmem with hmem | ⟨request, hrequest, hreaches⟩
    · rcases List.mem_append.mp hmem with hmem | hmem
      · exact .inl hmem
      · rw [List.mem_singleton.mp hmem]
        exact .inr ⟨name, List.mem_cons_self, .refl⟩
    · exact .inr ⟨name, List.mem_cons_self, hreaches.head ⟨requests, hsome, hrequest⟩⟩

/-- The name at which a walk ends early is reached, and it is not on offer. -/
theorem of_missing (hwalk : Walk graph met names met' missing?) {missing : Text}
    (hmissing : missing? = some missing) :
    graph missing = none ∧ ∃ name ∈ names, graph.Reaches name missing := by
  induction hwalk with
  | nil => cases hmissing
  | again hmet hrest ih =>
    obtain ⟨hnone, name, hname, hreaches⟩ := ih hmissing
    exact ⟨hnone, name, List.mem_cons_of_mem _ hname, hreaches⟩
  | missing hnew hnone =>
    cases hmissing
    exact ⟨hnone, _, List.mem_cons_self, .refl⟩
  | visit hnew hsome hbelow hrest ihbelow ihrest =>
    obtain ⟨hnone, name, hname, hreaches⟩ := ihrest hmissing
    exact ⟨hnone, name, List.mem_cons_of_mem _ hname, hreaches⟩
  | fails hnew hsome hbelow ih =>
    obtain ⟨hnone, request, hrequest, hreaches⟩ := ih hmissing
    exact ⟨hnone, _, List.mem_cons_self, hreaches.head ⟨_, hsome, hrequest⟩⟩

/-- A walk that does not end early meets every request. -/
theorem mem_of_mem (hwalk : Walk graph met names met' missing?) (hnone : missing? = none) {n : Text}
    (hmem : n ∈ names) : n ∈ met' := by
  induction hwalk with
  | nil => cases hmem
  | again hmet hrest ih =>
    rcases List.mem_cons.mp hmem with rfl | hmem
    · exact hrest.isPrefix.mem hmet
    · exact ih hnone hmem
  | missing hnew => cases hnone
  | visit hnew hsome hbelow hrest ihbelow ihrest =>
    rcases List.mem_cons.mp hmem with rfl | hmem
    · exact hrest.isPrefix.mem (hbelow.isPrefix.mem (List.mem_append_right _ List.mem_cons_self))
    · exact ihrest hnone hmem
  | fails hnew => cases hnone

/-- A walk that does not end early meets, with every new name, all that it asks for. -/
theorem closed (hwalk : Walk graph met names met' missing?) (hnone : missing? = none) {n : Text}
    (hmem : n ∈ met') :
    n ∈ met ∨ ∃ requests, graph n = some requests ∧ ∀ request ∈ requests, request ∈ met' := by
  induction hwalk with
  | nil => exact .inl hmem
  | again hmet hrest ih => exact ih hnone hmem
  | missing hnew => cases hnone
  | @visit met met₁ met₂ requests rest name missing? hnew hsome hbelow hrest ihbelow ihrest =>
    rcases ihrest hnone hmem with hmem | hclosed
    · rcases ihbelow rfl hmem with hmem | ⟨requests', hsome', hall⟩
      · rcases List.mem_append.mp hmem with hmem | hmem
        · exact .inl hmem
        · rw [List.mem_singleton.mp hmem]
          refine .inr ⟨requests, hsome, fun request hrequest => ?_⟩
          exact hrest.isPrefix.mem (hbelow.mem_of_mem rfl hrequest)
      · exact .inr ⟨requests', hsome', fun request hrequest =>
          hrest.isPrefix.mem (hall request hrequest)⟩
    · exact .inr hclosed
  | fails hnew => cases hnone

section First

variable {name n : Text}

/-- A walk from one name that does not end early meets just what the name leads to. -/
theorem mem_iff_reaches (hwalk : Walk graph [] [name] met' none) :
    n ∈ met' ↔ graph.Reaches name n := by
  constructor
  · intro hmem
    rcases hwalk.reached hmem with hmem | ⟨name', hname', hreaches⟩
    · cases hmem
    · rw [List.mem_singleton.mp hname'] at hreaches
      exact hreaches
  · intro hreaches
    induction hreaches with
    | refl => exact hwalk.mem_of_mem rfl List.mem_cons_self
    | tail hreaches hedge ih =>
      obtain ⟨requests, hsome, hrequest⟩ := hedge
      rcases hwalk.closed rfl ih with hmem | ⟨requests', hsome', hall⟩
      · cases hmem
      · obtain rfl := Option.some.inj (hsome.symm.trans hsome')
        exact hall _ hrequest

/-- A walk from one name ends early just when the name leads to one that is not on offer. -/
theorem eq_none_iff (hwalk : Walk graph [] [name] met' missing?) :
    missing? = none ↔ ∀ n, graph.Reaches name n → (graph n).isSome := by
  constructor
  · rintro rfl n hreaches
    rcases hwalk.closed rfl (hwalk.mem_iff_reaches.mpr hreaches) with hmem | ⟨requests, hsome, -⟩
    · cases hmem
    · rw [hsome]
      rfl
  · intro hall
    cases missing? with
    | none => rfl
    | some missing =>
      obtain ⟨hnone, name', hname', hreaches⟩ := hwalk.of_missing rfl
      rw [List.mem_singleton.mp hname'] at hreaches
      have hsome := hall missing hreaches
      rw [hnone] at hsome
      cases hsome

end First

end Walk

/-- Where finitely many names are on offer, every walk comes to an end: each new name leaves fewer
that have not been met. -/
theorem exists_walk {graph : LoadGraph} {offered : List Text}
    (hoffered : ∀ name, (graph name).isSome → name ∈ offered) (met names : List Text) :
    ∃ met' missing?, Walk graph met names met' missing? := by
  induction hcount : (offered.toFinset \ met.toFinset).card using Nat.strong_induction_on
    generalizing met names with
  | _ count ih =>
    induction names with
    | nil => exact ⟨met, none, .nil⟩
    | cons name rest ihrest =>
      by_cases hmet : name ∈ met
      · obtain ⟨met', missing?, hrest⟩ := ihrest
        exact ⟨met', missing?, .again hmet hrest⟩
      cases hgraph : graph name with
      | none => exact ⟨met, some name, .missing hmet hgraph⟩
      | some requests =>
        have hfewer : ∀ met₁, met ++ [name] <+: met₁ →
            (offered.toFinset \ met₁.toFinset).card < count := by
          intro met₁ hlater
          have hname : name ∈ offered := hoffered name (by rw [hgraph]; rfl)
          have hsubset : met ⊆ met₁ := fun n hmem => hlater.mem (List.mem_append_left _ hmem)
          have hmem : name ∈ met₁ := hlater.mem (List.mem_append_right _ List.mem_cons_self)
          rw [← hcount]
          apply Finset.card_lt_card
          refine Finset.ssubset_iff_of_subset ?_ |>.mpr ⟨name, ?_, ?_⟩
          · refine Finset.sdiff_subset_sdiff (Finset.Subset.refl _) fun n hn => ?_
            exact List.mem_toFinset.mpr (hsubset (List.mem_toFinset.mp hn))
          · simp [hname, hmet]
          · simp [hmem]
        obtain ⟨met₁, below?, hbelow⟩ := ih _ (hfewer _ List.prefix_rfl) _ requests rfl
        cases below? with
        | some missing => exact ⟨met₁, some missing, .fails hmet hgraph hbelow⟩
        | none =>
          obtain ⟨met', missing?, hrest⟩ := ih _ (hfewer _ hbelow.isPrefix) met₁ rest rfl
          exact ⟨met', missing?, .visit hmet hgraph hbelow hrest⟩

end LoadGraph

end Stencil
