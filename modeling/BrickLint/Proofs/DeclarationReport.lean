import BrickLint.Declaration.Report

/-!
# Where findings about declarations come from

The report on a source is put together from five parts, in this order: the function table, the walk,
the calls, the indexed initializers, and the variables that are never used.
-/

namespace BrickLint

open Text

/-- What is known of a scrubbed source before its code is walked. -/
def environmentOf (catalog : Catalog) (config : Config) (text : List Char) : Environment :=
  let types := collectTypeNames catalog (codeRows text)
  let parts := layout (codeRows text)
  ⟨catalog, config, types.types, types.enumConstants,
    collectFunctions catalog config types.types parts.code, parts.defined⟩

/-- A finding that a variable hides a predefined name is about the place of the variable. -/
theorem Walk.shadowing?_cases (catalog : Catalog) (config : Config) (v : Variable) :
    shadowing? catalog config v = none ∨
      ∃ cause, (cause = .variableShadowsFunction v.name ∨ cause = .variableShadowsConstant v.name) ∧
        shadowing? catalog config v = some ⟨cause, v.line, v.column, v.name.length⟩ := by
  unfold shadowing?
  split
  · exact Or.inl rfl
  split
  · exact Or.inr ⟨_, Or.inl rfl, rfl⟩
  split
  · exact Or.inr ⟨_, Or.inr rfl, rfl⟩
  · exact Or.inl rfl

/-- A finding about a call proposes another name for the called one, which is no function. -/
theorem eq_of_callFinding? {env : Environment} {call : Call} {f : Finding}
    (h : callFinding? env call = some f) :
    env.functions.contains call.name = false ∧ ∃ best,
      f = ⟨.unknownCall call.name best, call.line, call.column, call.name.length⟩ := by
  unfold callFinding? at h
  split at h
  · cases h
  case isFalse hunknown =>
    split at h
    · cases h
    · obtain ⟨best, _, rfl⟩ := Option.map_eq_some_iff.mp h
      simp only [Bool.or_eq_true, not_or, Bool.not_eq_true] at hunknown
      exact ⟨hunknown.1.1.1.1, best, rfl⟩

/-- A finding about an initializer that is indexed says so. -/
theorem cause_of_mem_initializerFindings {p : Position} {cs : List Char} {f : Finding}
    (h : f ∈ initializerFindings p cs) : f.cause = .indexedInitializer := by
  induction cs generalizing p with
  | nil => simp [initializerFindings] at h
  | cons c cs ih =>
    unfold initializerFindings at h
    dsimp only at h
    split at h
    · rcases List.mem_cons.mp h with rfl | hlater
      · rfl
      · exact ih hlater
    · exact ih h

/-- The part of a report that a finding comes from. -/
inductive Finding.Origin (catalog : Catalog) (config : Config) (text : List Char) (f : Finding) :
    Prop
  /-- It is about the header of a function. -/
  | function (h : f ∈ (environmentOf catalog config text).functions.findings)
  /-- It was made during the walk. -/
  | walk (h : f ∈ (checkDeclarations catalog config text).walk.findings)
  /-- It is about a call of an unknown function. -/
  | call (call : Call) (best : String)
      (hcall : call ∈ (checkDeclarations catalog config text).walk.calls)
      (hunknown : (environmentOf catalog config text).functions.contains call.name = false)
      (hf : f = ⟨.unknownCall call.name best, call.line, call.column, call.name.length⟩)
  /-- It is about an indexed initializer. -/
  | initializer (h : f ∈ initializerFindings .start text)
  /-- It is about a variable that is never used. -/
  | unused (v : Variable) (hv : v ∈ (checkDeclarations catalog config text).unused)
      (hf : f = unusedFinding v)

/-- Every finding of a report comes from one of its parts. -/
theorem origin_of_mem_checkDeclarations {catalog : Catalog} {config : Config} {text : List Char}
    {f : Finding} (h : f ∈ (checkDeclarations catalog config text).findings) :
    f.Origin catalog config text := by
  simp only [checkDeclarations, List.mem_append] at h
  rcases h with (((hfunction | hwalk) | hcall) | hinitializer) | hunused
  · exact .function hfunction
  · exact .walk hwalk
  · obtain ⟨call, hcall, hfinding⟩ := List.mem_filterMap.mp hcall
    obtain ⟨hunknown, best, hf⟩ := eq_of_callFinding? hfinding
    exact .call call best hcall hunknown hf
  · exact .initializer hinitializer
  · obtain ⟨_, hunused⟩ := List.mem_ite_nil_right.mp hunused
    obtain ⟨v, hv, hf⟩ := List.mem_map.mp hunused
    exact .unused v hv hf.symm

end BrickLint
