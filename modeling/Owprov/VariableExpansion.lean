import Owprov.Lib.SettledResults
import Owprov.ConfigurationMerge

/-!
# The expansion of variables

More fuel changes nothing but an expansion that ran out of it, and an expansion in which every
block and endpoint is found is the same as one that passes over those that are missing.
-/

namespace Owprov

open JsonValues SettledResults

section Settling

variable {settled : Halt → Prop} {env : RenderEnv}
  {array array' : List Value → Except Halt (List Value)}
  {object object' : Members → Except Halt Members}
  {nested nested' : String → Members → Except Halt Members}

theorem replaceMember_settles (arrays : ∀ items, Settles settled (array items) (array' items))
    (objects : ∀ members, Settles settled (object members) (object' members))
    (result : Members) (member : String × Value) :
    Settles settled (replaceMember array object result member)
      (replaceMember array' object' result member) := by
  unfold replaceMember
  split
  · exact Settles.refl _
  · exact (arrays _).bind fun _ => Settles.refl _
  · exact (objects _).bind fun _ => Settles.refl _
  · exact Settles.refl _

theorem replaceElement_settles (arrays : ∀ items, Settles settled (array items) (array' items))
    (objects : ∀ members, Settles settled (object members) (object' members))
    (result : List Value) (element : Value) :
    Settles settled (replaceElement array object result element)
      (replaceElement array' object' result element) := by
  unfold replaceElement
  split
  · exact Settles.refl _
  · exact (arrays _).bind fun _ => Settles.refl _
  · exact (objects _).bind fun _ => Settles.refl _
  · exact Settles.refl _
  · exact Settles.refl _

theorem replaceVariable_settles (arrays : ∀ items, Settles settled (array items) (array' items))
    (objects : ∀ members, Settles settled (object members) (object' members))
    (result : Members) (value : String) :
    Settles settled (replaceVariable env array object result value)
      (replaceVariable env array' object' result value) := by
  unfold replaceVariable
  split
  · exact Settles.foldlM _ _ fun s member _ => replaceMember_settles arrays objects s member
  · exact Settles.refl _

theorem replaceBlocks_settles
    (blocks : ∀ uuid result, Settles settled (nested uuid result) (nested' uuid result))
    (result : Members) (value : Value) :
    Settles settled (replaceBlocks env nested result value)
      (replaceBlocks env nested' result value) := by
  unfold replaceBlocks
  split
  · refine Settles.foldlM _ _ fun s element _ => ?_
    exact (Settles.refl _).bind fun uuid => blocks uuid s
  · exact (Settles.refl _).bind fun uuid => blocks uuid result

variable {strict strict' : Bool}

/-- Besides its parts, a member gives the same but for an endpoint that is not stored. -/
theorem replaceObjectMember_settles (lax : strict' = strict ∨ strict = true ∧ ¬settled .thrown)
    (blocks : ∀ uuid result, Settles settled (nested uuid result) (nested' uuid result))
    (arrays : ∀ items, Settles settled (array items) (array' items))
    (objects : ∀ members, Settles settled (object members) (object' members))
    (state : Members × Bool) (member : String × Value) :
    Settles settled (replaceObjectMember env strict nested array object state member)
      (replaceObjectMember env strict' nested' array' object' state member) := by
  unfold replaceObjectMember
  split
  · exact Settles.refl _
  · split
    · exact (replaceBlocks_settles blocks state.1 member.2).bind fun _ => Settles.refl _
    · split
      · refine (Settles.refl (env.toText member.2)).bind fun id => ?_
        cases env.endpoint id with
        | some render => exact Settles.refl _
        | none =>
            rcases lax with rfl | ⟨rfl, unsettled⟩
            · exact Settles.refl _
            · exact settles_of_unsettled unsettled _
      · exact (replaceMember_settles arrays objects state.1 member).bind fun _ => Settles.refl _

/-- The three functions of the expansion with less fuel and at least as strict. -/
theorem replace_settles (lax : strict' = strict ∨ strict = true ∧ ¬settled .thrown)
    (unsettled : ¬settled .exhausted) {fuel fuel' : ℕ} (more : fuel ≤ fuel') :
    (∀ uuid result, Settles settled (replaceNestedVariables env strict fuel uuid result)
      (replaceNestedVariables env strict' fuel' uuid result)) ∧
    (∀ members, Settles settled (replaceVariablesInObject env strict fuel members)
      (replaceVariablesInObject env strict' fuel' members)) ∧
    ∀ items, Settles settled (replaceVariablesInArray env strict fuel items)
      (replaceVariablesInArray env strict' fuel' items) := by
  induction fuel generalizing fuel' with
  | zero =>
      refine ⟨fun uuid result => ?_, fun members => ?_, fun items => ?_⟩
      · rw [replaceNestedVariables]
        exact settles_of_unsettled unsettled _
      · rw [replaceVariablesInObject]
        exact settles_of_unsettled unsettled _
      · rw [replaceVariablesInArray]
        exact settles_of_unsettled unsettled _
  | succ fuel ih =>
      obtain ⟨fuel', rfl⟩ : ∃ rest, fuel' = rest + 1 := ⟨fuel' - 1, by omega⟩
      have less : fuel ≤ fuel' := by omega
      obtain ⟨blocks, objects, arrays⟩ := ih less
      refine ⟨fun uuid result => ?_, fun members => ?_, fun items => ?_⟩
      · rw [replaceNestedVariables, replaceNestedVariables]
        cases env.block uuid with
        | some values =>
            exact Settles.foldlM _ _ fun s value _ =>
              replaceVariable_settles arrays objects s value
        | none =>
            rcases lax with rfl | ⟨rfl, thrown⟩
            · exact Settles.refl _
            · exact settles_of_unsettled thrown _
      · rw [replaceVariablesInObject, replaceVariablesInObject]
        refine (Settles.foldlM _ _ fun s member _ => ?_).bind fun _ => Settles.refl _
        exact replaceObjectMember_settles lax blocks arrays objects s member
      · rw [replaceVariablesInArray, replaceVariablesInArray]
        exact Settles.foldlM _ _ fun s element _ =>
          replaceElement_settles arrays objects s element

theorem replaceSection_settles (lax : strict' = strict ∨ strict = true ∧ ¬settled .thrown)
    (unsettled : ¬settled .exhausted) {fuel fuel' : ℕ} (more : fuel ≤ fuel') (value : Value) :
    Settles settled (replaceSection env strict fuel value)
      (replaceSection env strict' fuel' value) := by
  obtain ⟨-, objects, arrays⟩ :=
    @replace_settles settled env strict strict' lax unsettled fuel fuel' more
  unfold replaceSection
  split
  · exact (arrays _).bind fun _ => Settles.refl _
  · exact (objects _).bind fun _ => Settles.refl _
  · exact Settles.refl _

end Settling

/-- A section in which nothing is missing expands as Get expands it. -/
theorem replaceSection_of_strict {env : RenderEnv} {fuel : ℕ} {value expanded : Value}
    (expands : replaceSection env true fuel value = .ok expanded) :
    replaceSection env false fuel value = .ok expanded := by
  have settles : Settles (fun _ => False) (replaceSection env true fuel value)
      (replaceSection env false fuel value) :=
    replaceSection_settles (.inr ⟨rfl, id⟩) id le_rfl value
  exact settles.eq_ok expands

end Owprov
