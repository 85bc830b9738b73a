import SearchWire.Proofs.Precedence

/-!
# Merged parameters

A merge overwrites values in their places and appends the rest, in parameters as in
the members they are compiled to. So parameters that compile may be merged before or
after that. A parameter that is overridden is not compiled, and so it may be at fault
as long as no other is.
-/

namespace SearchWire

open Entries (Distinct Aligned)

-- ---------------------------------------------------------------------------
-- Compilation
-- ---------------------------------------------------------------------------

section
variable {c : Compiler} {depth : Nat} {params later : Entries Expr} {compiled added : Entries Json}

theorem CompiledParams.compileParams_eq (given : CompiledParams c depth params compiled) :
    compileParams c params depth = .ok compiled := by
  induction given with
  | nil => rfl
  | @cons entry member _ _ same _ ih =>
    obtain ⟨key, value⟩ := entry
    obtain ⟨_, json⟩ := member
    obtain ⟨rfl, compiles⟩ := same
    rw [compileParams, compiles, ih]
    rfl

theorem exists_compileParams_iff : (∃ compiled, compileParams c params depth = .ok compiled) ↔
    ∀ key value, (key, value) ∈ params → ∃ json, value.compileAt c depth = .ok json := by
  rw [compileParams_eq_compileEach, Entries.compileEach_eq_ok_iff, Prod.forall]

theorem exists_compileParams_merge_iff (params : Params) (compiles : compileParams c later depth = .ok added) :
    (∃ merged, compileParams c (Entries.merge params.entries later) depth = .ok merged) ↔
      ∀ key value, (key, value) ∈ params.entries → key ∉ Entries.keys later →
        ∃ json, value.compileAt c depth = .ok json := by
  have each := exists_compileParams_iff.mp ⟨added, compiles⟩
  rw [exists_compileParams_iff]
  constructor
  · intro all key value mem kept
    exact all key value ((Entries.mem_merge_iff params.distinct).mpr (.inr ⟨mem, kept⟩))
  · intro all key value mem
    rcases (Entries.mem_merge_iff params.distinct).mp mem with last | ⟨mem, kept⟩
    · exact each key value (List.mem_reverse.mp (Entries.mem_of_get? last))
    · exact all key value mem kept

end

/-- Parameters that compile may be merged before or after they are compiled. With others
that compile, they compile exactly if each of them that fails is overridden. -/
theorem merged_params_compile (c : Compiler) (depth : Nat) (params : Params) {later : Entries Expr}
    {added : Entries Json} (compiles : compileParams c later depth = .ok added) :
    (∀ compiled, compileParams c params.entries depth = .ok compiled →
      compileParams c (Entries.merge params.entries later) depth = .ok (Entries.merge compiled added)) ∧
    ((∃ merged, compileParams c (Entries.merge params.entries later) depth = .ok merged) ↔
      ∀ key value, (key, value) ∈ params.entries → (∃ error, value.compileAt c depth = .error error) →
        key ∈ Entries.keys later) := by
  constructor
  · intro compiled given
    have aligned := compiledParams_of_compileParams given
    exact CompiledParams.compileParams_eq (aligned.merge (compiledParams_of_compileParams compiles))
  · rw [exists_compileParams_merge_iff params compiles]
    refine forall₃_congr fun key value _ => ?_
    cases value.compileAt c depth <;> simp

/-- A boost that is not finite is harmless where a later one takes its place; an analyzer
that finds no room is not, since no later one does. -/
theorem merged_params_compile_boosted :
    let c : Compiler := ⟨.query, 0⟩
    let given (boost analyzer : Expr) : Params := .ofPairs [("boost", boost), ("analyzer", analyzer)]
    let later : Entries Expr := [("fuzziness", .int 2), ("boost", .int 1)]
    let merged (boost analyzer : Expr) := compileParams c (Entries.merge (given boost analyzer).entries later) 0
    merged (.int 3) (.string "english") =
        .ok [("boost", .int 1), ("analyzer", .string "english"), ("fuzziness", .int 2)] ∧
      (∃ members, merged (.float .nan) (.string "english") = .ok members) ∧
      ¬∃ members, merged (.float .nan) (.list []) = .ok members := by
  intro c given later merged
  have compiles : compileParams c later 0 = .ok [("fuzziness", .int 2), ("boost", .int 1)] := rfl
  obtain ⟨whole, -⟩ := merged_params_compile c 0 (given (.int 3) (.string "english")) compiles
  obtain ⟨-, masked⟩ := merged_params_compile c 0 (given (.float .nan) (.string "english")) compiles
  obtain ⟨-, listed⟩ := merged_params_compile c 0 (given (.float .nan) (.list [])) compiles
  refine ⟨whole _ rfl, masked.mpr fun key value mem fails => ?_, fun merged => ?_⟩
  · rcases List.mem_cons.mp mem with same | mem
    · cases same
      decide
    · cases List.mem_singleton.mp mem
      obtain ⟨_, ⟨⟩⟩ := fails
  · have overridden := listed.mp merged "analyzer" (.list []) (List.mem_cons_of_mem _ List.mem_cons_self) ⟨_, rfl⟩
    exact absurd overridden (by decide)

end SearchWire
