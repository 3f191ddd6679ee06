import EyesFree.Capture.ParametersRun
import EyesFree.Proofs.Provenance
import EyesFree.Proofs.Run

namespace EyesFree

/-! What is stored after any history of partial requests and clearings: for each published
key the last value it was given since it was cleared, in the order of the keys. -/

/-! ## The order of keys -/

namespace Enumeration

variable {α : Type} [Enumeration α] [DecidableEq α]

private theorem pairwise_ordinal : (values : List α).Pairwise fun left right =>
    ordinal left < ordinal right := by
  rw [List.pairwise_iff_getElem]
  intro first second firstInside secondInside earlier
  rw [ordinal, ordinal, nodup.idxOf_getElem, nodup.idxOf_getElem]
  exact earlier

end Enumeration

private theorem Metadata.pairwise_entries {κ : Type} [Enumeration κ] [DecidableEq κ]
    (metadata : Metadata κ) :
    (metadata.entries.map (·.1)).Pairwise fun left right =>
      Enumeration.ordinal left < Enumeration.ordinal right := by
  rw [entries_keys, keys]
  exact Enumeration.pairwise_ordinal.sublist List.filter_sublist

/-! ## Histories -/

def ParametersStep.Replaces (key : RequestKey) : ParametersStep → Prop
  | .set request => request.contains key
  | .clear => True

/-- The value that a key was given last, if it was not cleared since. -/
def LastGiven (steps : List ParametersStep) (key : RequestKey) (value : Value) : Prop :=
  ∃ before request after, steps = before ++ .set request :: after ∧
    request.get key = some value ∧ ∀ step ∈ after, ¬step.Replaces key

namespace LastGiven

variable {steps : List ParametersStep} {step : ParametersStep} {key : RequestKey} {value : Value}

private theorem not_nil : ¬LastGiven [] key value := by
  rintro ⟨before, request, after, split, _⟩
  simp at split

private theorem concat_iff : LastGiven (steps ++ [step]) key value ↔
    (∃ request, step = .set request ∧ request.get key = some value) ∨
      ¬step.Replaces key ∧ LastGiven steps key value := by
  constructor
  · rintro ⟨before, request, after, split, given, kept⟩
    rcases List.eq_nil_or_concat after with rfl | ⟨middle, last, rfl⟩
    · obtain ⟨rfl, same⟩ := List.append_inj' split rfl
      exact .inl ⟨request, List.singleton_inj.mp same, given⟩
    · rw [List.concat_eq_append, ← List.cons_append, ← List.append_assoc] at split
      obtain ⟨rfl, same⟩ := List.append_inj' split rfl
      obtain rfl := List.singleton_inj.mp same
      exact .inr ⟨kept step (by simp), before, request, middle, rfl, given,
        fun other member => kept other (by simp [member])⟩
  · rintro (⟨request, rfl, given⟩ | ⟨keeps, before, request, after, rfl, given, kept⟩)
    · exact ⟨steps, request, [], rfl, given, by simp⟩
    · refine ⟨before, request, after ++ [step], by simp, given, ?_⟩
      intro other member
      rcases List.mem_append.mp member with earlier | last
      · exact kept other earlier
      · exact List.mem_singleton.mp last ▸ keeps

end LastGiven

/-! ## Steps -/

namespace Parameters

variable {ε : Type} {capabilities : Capabilities} {parameters : Parameters}

private theorem perform_set (request : CaptureRequest) :
    (perform capabilities (.set request) : Activity Parameters ε _) parameters =
      ⟨(parameters.set capabilities request).2, [],
        .ok (.stored (parameters.set capabilities request).1)⟩ := rfl

theorem perform_clear :
    (perform capabilities .clear : Activity Parameters ε _) parameters = ⟨.empty, [], .ok .done⟩ :=
  rfl

private theorem applied_set (request : CaptureRequest) :
    (parameters.set capabilities request).1 =
      request.entries.countP fun entry => capabilities.requestKeys.contains entry.1 := by
  rw [set, ← Nat.zero_add (List.countP _ _)]
  generalize request.entries = entries, 0 = applied
  induction entries generalizing applied parameters with
  | nil => rfl
  | cons entry rest induction =>
      rw [List.foldl_cons, List.countP_cons, induction]
      by_cases published : capabilities.requestKeys.contains entry.1
      · rw [if_pos published, if_pos published, Nat.add_right_comm, Nat.add_assoc]
      · rw [if_neg published, if_neg published, Nat.add_zero]

section

variable (capabilities : Capabilities)

def after (steps : List ParametersStep) : Parameters :=
  stateAfter (ε := Empty) (perform capabilities) empty steps

private theorem after_concat (steps : List ParametersStep) (step : ParametersStep) :
    after capabilities (steps ++ [step]) =
      ((perform capabilities step : Activity Parameters Empty _)
        (after capabilities steps)).state :=
  stateAfter_concat _ _ _ _

private theorem get_after (steps : List ParametersStep) (key : RequestKey) (value : Value) :
    (after capabilities steps).entries.get key = some value ↔
      capabilities.requestKeys.contains key ∧ LastGiven steps key value := by
  induction steps using List.reverseRecOn with
  | nil => simp [after, empty, LastGiven.not_nil]
  | append_singleton steps step induction =>
      rw [after_concat, LastGiven.concat_iff]
      cases step with
      | clear => simp [perform_clear, empty, ParametersStep.Replaces]
      | set request =>
          rw [perform_set, get_set, Option.or_eq_some_iff, induction, Metadata.get_restrict]
          cases capabilities.requestKeys.contains key with
          | false => simp
          | true => simp [ParametersStep.Replaces, Metadata.contains]

end

end Parameters

/-! ## What is listed -/

/-- After any history, the parameters list each published key with the value that it was
given last, in the order of the keys. Storing a request counts its published entries. A
trigger is made of what storing its request alone would leave. -/
theorem parameters_history (capabilities : Capabilities) (steps : List ParametersStep) :
    let stored := Parameters.after capabilities steps
    (stored.snapshot.keys.Pairwise fun left right =>
        Enumeration.ordinal left < Enumeration.ordinal right) ∧
      (∀ key value, (key, value) ∈ stored.snapshot.entries ↔
        capabilities.requestKeys.contains key ∧ LastGiven steps key value) ∧
      stored.size = stored.snapshot.entries.length ∧
      (stored.isEmpty = true ↔ stored.snapshot.entries = []) ∧
      (∀ request, ((Parameters.perform capabilities (.set request) :
          Activity Parameters Empty _) stored).outcome =
        .ok (.stored (request.entries.countP fun entry =>
          capabilities.requestKeys.contains entry.1))) ∧
      ∀ request : CaptureRequest, request.supported capabilities =
        (Parameters.after capabilities [.set request]).snapshot := by
  intro stored
  refine ⟨stored.entries.pairwise_entries, ?_, rfl, List.isEmpty_iff, ?_, ?_⟩
  · intro key value
    exact Metadata.mem_entries.trans (Parameters.get_after capabilities steps key value)
  · intro request
    rw [Parameters.perform_set, Parameters.applied_set]
  · intro request
    have stands : (Parameters.after capabilities [.set request]).entries =
        request.restrict capabilities.requestKeys :=
      Parameters.entries_set_empty capabilities request
    rw [Parameters.snapshot, stands, Metadata.entries_restrict, CaptureRequest.supported]

end EyesFree
