/-!
# What has held since when

A past is a list of states, each with the reading of the clock when it was reached, the
latest last. A property is held since a reading when the state of that reading and all
later ones have it.
-/

section

variable {Time State : Type}

/-- The property holds in every state from one that was reached at the reading on. -/
def HeldSince (past : List (Time × State)) (since : Time) (holds : State → Prop) : Prop :=
  ∃ earlier state recent, past = earlier ++ (since, state) :: recent ∧
    holds state ∧ ∀ moment ∈ recent, holds moment.2

variable {past : List (Time × State)} {since now : Time} {holds : State → Prop} {state : State}

/-- What the last state has is held since its reading. -/
theorem HeldSince.last (here : holds state) : HeldSince (past ++ [(now, state)]) now holds :=
  ⟨past, state, [], rfl, here, fun _ listed => absurd listed List.not_mem_nil⟩

/-- What is held goes on being held. -/
theorem HeldSince.extend (held : HeldSince past since holds) (here : holds state) :
    HeldSince (past ++ [(now, state)]) since holds := by
  obtain ⟨earlier, first, recent, rfl, start, after⟩ := held
  refine ⟨earlier, first, recent ++ [(now, state)], ?_, start, ?_⟩
  · rw [List.append_assoc, List.cons_append]
  · intro moment listed
    rcases List.mem_append.mp listed with listed | listed
    · exact after moment listed
    · rw [List.mem_singleton.mp listed]
      exact here

/-- What is held since a reading was so in a state of that reading. -/
theorem HeldSince.exists_mem (held : HeldSince past since holds) :
    ∃ state, (since, state) ∈ past ∧ holds state := by
  obtain ⟨earlier, state, recent, rfl, start, _⟩ := held
  exact ⟨state, List.mem_append_right earlier List.mem_cons_self, start⟩

end
