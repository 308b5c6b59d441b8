import FunctionObjects.Proofs.Evaluation.Runs

/-!
# Generators in strict scripts

A generator treats `this` as strict code does if the code around it is strict. In a strict script
one expects this of all generators. At the top level and in blocks it is so, however deep they are
nested, because a block takes over the strictness of the running context. But the body of a function
runs under the strictness of the function alone. So a generator that is made by the body of a sloppy
function is sloppy unless its own code is strict.
-/

namespace FunctionObjects.Agent

open Store Evaluation Command

variable {a : Agent} {settings : Settings}

/-- Outside of bodies, code is as strict as the script. -/
theorem strict_of_running (hstart : start settings = .ok a) (cmds : List Command) {c : Context}
    (hc : (performAll a cmds).running? = some c) : c.strict = settings.scriptStrict := by
  obtain ⟨c₀, hc₀, e, rfl⟩ := contexts_performAll cmds (sound_of_start hstart) c
    (List.mem_of_mem_head? hc)
  rw [start_eq] at hstart
  cases hstart
  rw [List.mem_singleton.1 hc₀]
  rfl

/-- In a strict script, the functions of a command are made in strict code if and only if the
command is not to run the body of a sloppy function. -/
theorem strict_of_context? (hstart : start settings = .ok a) (hs : settings.scriptStrict = true)
    {cmds : List Command} {cmd : Command} {c : Context}
    (hc : cmd.context? (performAll a cmds) = some c) :
    c.strict = true ↔ ∀ fn g, cmd = .body fn →
      (performAll a cmds).store.function? fn.slots = some g → g.strict = true := by
  have houtside : (∀ fn, cmd ≠ .body fn) → (performAll a cmds).running? = some c →
      (c.strict = true ↔ ∀ fn g, cmd = .body fn →
        (performAll a cmds).store.function? fn.slots = some g → g.strict = true) := by
    intro hcmd hrunning
    rw [strict_of_running hstart cmds hrunning]
    exact ⟨fun _ fn g hfn => absurd hfn (hcmd fn), fun _ => hs⟩
  cases cmd with
  | body fn =>
    obtain ⟨g, hg, rfl⟩ := Option.map_eq_some_iff.1 hc
    constructor
    · intro hstrict fn' g' hfn hg'
      cases hfn
      rw [hg] at hg'
      cases hg'
      exact hstrict
    · intro h
      exact h fn g rfl hg
  | expression | statements | instantiate | enterBlock | leaveBlock =>
    exact houtside (fun fn h => by cases h) hc

/-- **When a generator in a strict script is strict.** Every generator of a run was made by one of
its commands. It is strict if its own code is or if the command was not to run the body of a sloppy
function, and only then. -/
theorem generator_thisMode_iff (hstart : start settings = .ok a)
    (hs : settings.scriptStrict = true) {cmds : List Command} {r : ObjectRef} {f : FunctionSlots}
    (hf : (performAll a cmds).store.slots? r = some f) (hg : f.species = .generator) :
    ∃ before cmd after, cmds = before ++ cmd :: after ∧
      ¬ (performAll a before).store.Live r ∧
      (cmd.perform (performAll a before)).store.Live r ∧
      (f.thisMode = .strict ↔ f.strict = true ∨ ∀ fn g, cmd = .body fn →
        (performAll a before).store.function? fn.slots = some g → g.strict = true) := by
  rcases exists_command_of_slots? (sound_of_start hstart) hf with
    ⟨g, hnone, -⟩ | ⟨before, cmd, after, hcmds, hr, hr', g, ⟨c, hc, hmade⟩, hgf⟩
  · rw [slots?_of_start hstart] at hnone
    cases hnone
  · refine ⟨before, cmd, after, hcmds, hr, hr', ?_⟩
    -- the mode is part of the origin, so it is still the one of the creation
    have hmode : f.thisMode = thisModeFor f.definition c := by
      have hmode : g.origin.thisMode = thisModeFor g.origin.definition c := hmade.thisMode
      rwa [← hgf.origin] at hmode
    have hspecies : f.definition.species = .generator := hg
    rw [hmode, thisModeFor_eq_strict_iff, hspecies, strict_of_context? hstart hs hc]
    simp [FunctionSlots.strict]

/-! ### A generator made by a sloppy function -/

/-- A function that returns a generator function. -/
def generatorMaker : FunctionDefinition :=
  .ofParts 0 none [] [.return (some (.function (.ofParts 1 none [] [] .generator)))] .ordinary

/-- The function is made at the top level, and its body is run. -/
def makeGenerator : List Command := [.instantiate generatorMaker, .body ⟨7, .allocated 0 7, ⟨0⟩⟩]

/-- The agent of a strict script, at the beginning. -/
def strictStart : Agent where
  store := startStore
  heap := 0
  realm := Realm.next (pushHeap {}) 0
  contexts := [.forScript (Realm.next (pushHeap {}) 0) true]

theorem start_strict : start { scriptStrict := true } = .ok strictStart := start_eq _

theorem slots?_makeGenerator :
    ∃ f, (performAll strictStart makeGenerator).store.slots? (.allocated 0 9) = some f ∧
      f.species = .generator ∧ f.thisMode = .global := by
  have hread : ((performAll strictStart makeGenerator).store.slots? (.allocated 0 9)).map
      (fun f => (f.species, f.thisMode)) = some (.generator, .global) := by
    decide +kernel
  obtain ⟨f, hf, hfields⟩ := Option.map_eq_some_iff.1 hread
  exact ⟨f, hf, congrArg Prod.fst hfields, congrArg Prod.snd hfields⟩

/-- Not all generators of a strict script are strict. -/
theorem not_all_generators_strict :
    ¬ ∀ (a : Agent) (cmds : List Command) (r : ObjectRef) (f : FunctionSlots),
      start { scriptStrict := true } = .ok a → FitAll a cmds →
      (performAll a cmds).store.slots? r = some f → f.species = .generator →
      f.thisMode = .strict := by
  intro h
  obtain ⟨f, hf, hspecies, hmode⟩ := slots?_makeGenerator
  have hstrict := h strictStart makeGenerator (.allocated 0 9) f start_strict
    (by decide +kernel) hf hspecies
  rw [hmode] at hstrict
  cases hstrict

/-- The sloppy generator was made by one of the two commands, and its maker is sloppy. -/
theorem generator_thisMode_iff_makeGenerator :
    start { scriptStrict := true } = .ok strictStart ∧
      ∃ before cmd after, makeGenerator = before ++ cmd :: after ∧
        ¬ ∀ fn g, cmd = .body fn →
          (performAll strictStart before).store.function? fn.slots = some g → g.strict = true := by
  obtain ⟨f, hf, hspecies, hmode⟩ := slots?_makeGenerator
  obtain ⟨before, cmd, after, hcmds, -, -, hiff⟩ :=
    generator_thisMode_iff start_strict rfl hf hspecies
  refine ⟨start_strict, before, cmd, after, hcmds, fun hall => ?_⟩
  have hstrict := hiff.2 (.inr hall)
  rw [hmode] at hstrict
  cases hstrict

end FunctionObjects.Agent
