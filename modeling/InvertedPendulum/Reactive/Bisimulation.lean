import Mathlib.Init

namespace Reactive

section Responses
variable {State Other Input Output : Type*}

/-- A responder answers its inputs in order. -/
def responses (respond : State → Input → Output × State) : State → List Input → List Output
  | _, [] => []
  | state, input :: rest =>
      (respond state input).1 :: responses respond (respond state input).2 rest

@[simp] theorem responses_nil (respond : State → Input → Output × State) (state : State) :
    responses respond state [] = [] := rfl

theorem responses_cons (respond : State → Input → Output × State) (state : State) (input : Input)
    (rest : List Input) :
    responses respond state (input :: rest) =
      (respond state input).1 :: responses respond (respond state input).2 rest := rfl

/-- Related states give the same answer and stay related. -/
structure Bisimulation (respond : State → Input → Output × State)
    (answer : Other → Input → Output × Other) (alike : State → Other → Prop) : Prop where
  same {state : State} {other : Other} (related : alike state other) (input : Input) :
    (respond state input).1 = (answer other input).1
  kept {state : State} {other : Other} (related : alike state other) (input : Input) :
    alike (respond state input).2 (answer other input).2

/-- Related states answer every list of inputs in the same way. -/
theorem Bisimulation.responses_eq {respond : State → Input → Output × State}
    {answer : Other → Input → Output × Other} {alike : State → Other → Prop}
    (bisimulation : Bisimulation respond answer alike) {state : State} {other : Other}
    (related : alike state other) (inputs : List Input) :
    responses respond state inputs = responses answer other inputs := by
  induction inputs generalizing state other with
  | nil => rfl
  | cons input rest ih =>
      have tail := ih (bisimulation.kept related input)
      rw [responses_cons, responses_cons, bisimulation.same related input, tail]

end Responses
end Reactive
