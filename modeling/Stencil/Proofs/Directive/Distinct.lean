import Mathlib.Data.List.Nodup
import Stencil.Proofs.Directive.Layout

namespace Stencil.Directive

variable {α β : Type} [BEq α] [LawfulBEq α] [BEq β] [LawfulBEq β]

omit [LawfulBEq α] in
theorem length_filter_ne_lt (a : α) (list : List α) :
    (list.filter fun b => !b == a).length < (a :: list).length :=
  Nat.lt_succ_of_le (List.length_filter_le _ list)

theorem nodup_eraseDups (list : List α) : list.eraseDups.Nodup := by
  induction hlength : list.length using Nat.strongRecOn generalizing list with
  | _ length ih =>
    cases list with
    | nil => exact List.nodup_nil
    | cons a list =>
      rw [List.eraseDups_cons]
      refine List.nodup_cons.mpr ⟨?_, ih _ (hlength ▸ length_filter_ne_lt a list) _ rfl⟩
      simp

/-- Repetitions are left out of distinct images as they are left out of what is mapped. -/
theorem eraseDups_map {f : α → β} {list : List α}
    (hinjective : ∀ a ∈ list, ∀ b ∈ list, f a = f b → a = b) :
    (list.map f).eraseDups = list.eraseDups.map f := by
  induction hlength : list.length using Nat.strongRecOn generalizing list with
  | _ length ih =>
    cases list with
    | nil => rfl
    | cons a list =>
      have hfilter : (list.map f).filter (fun b => !b == f a) =
          (list.filter fun b => !b == a).map f := by
        rw [List.filter_map]
        congr 1
        apply List.filter_congr
        intro b hb
        have hiff : f b = f a ↔ b = a :=
          ⟨hinjective b (List.mem_cons_of_mem _ hb) a List.mem_cons_self, congrArg f⟩
        by_cases hba : b = a
        · simp [hba]
        · simp [hba, mt hiff.mp hba]
      have hmem : ∀ b ∈ list.filter (fun b => !b == a), b ∈ a :: list := fun b hb =>
        List.mem_cons_of_mem _ (List.mem_of_mem_filter hb)
      rw [List.map_cons, List.eraseDups_cons, List.eraseDups_cons, List.map_cons, hfilter,
        ih _ (hlength ▸ length_filter_ne_lt a list)
          (fun b hb c hc => hinjective b (hmem b hb) c (hmem c hc)) rfl]

theorem token_injective {payload payload' : Text} (htoken : token payload = token payload') :
    payload = payload' := by
  simpa [token] using htoken

theorem map_raw_scan (t : Text) :
    (scan t).map Directive.raw = (payloads t).eraseDups.map token := by
  simp only [scan, List.map_map]
  rfl

/-- No two directives of a text have the same token. -/
theorem nodup_map_raw_scan (t : Text) : ((scan t).map Directive.raw).Nodup := by
  rw [map_raw_scan]
  exact (nodup_eraseDups _).map fun _ _ => token_injective

theorem raw_of_mem_scan {t : Text} {directive : Directive} (hscan : directive ∈ scan t) :
    ∃ payload ∈ payloads t, directive = parse (token payload) payload := by
  obtain ⟨payload, hpayload, rfl⟩ := List.mem_map.mp hscan
  exact ⟨payload, List.mem_eraseDups.mp hpayload, rfl⟩

end Stencil.Directive
