import EyesFree.Capture.ReplayRun
import Mathlib.Tactic.Simps.Basic

namespace EyesFree

/-! What the operations of the replaying channel do, each in one equation, as long as no
report can fail. What ends requests reports their ends only, so that nothing else has to be
told there. The equations are all that later modules use of the channel. -/

theorem Activity.forM_cons {σ ε α : Type} (activity : α → Activity σ ε Unit) (item : α)
    (rest : List α) (state : σ) :
    (item :: rest).forM activity state = (activity item >>= fun _ => rest.forM activity) state :=
  rfl

/-! ## Reports that cannot fail -/

namespace Hearing

variable {κ ε : Type}

def told (hear : Hearing κ ε) (client : κ) (request : Request) (report : Report) : List ε :=
  match hear client request report with
  | .ok events => events
  | .error _ => []

def IsTotal (hear : Hearing κ ε) : Prop :=
  ∀ client request report, ∃ events, hear client request report = .ok events

/-- Something comes of every report on the end of a request. -/
def TellsEnds (hear : Hearing κ ε) : Prop :=
  ∀ client request channelSequence,
    (∀ frame, ∃ events,
      hear client request (.sequenceCompleted channelSequence frame) = .ok events) ∧
      ∃ events, hear client request (.sequenceAborted channelSequence) = .ok events

theorem IsTotal.tellsEnds {hear : Hearing κ ε} (total : hear.IsTotal) : hear.TellsEnds :=
  fun client request _ => ⟨fun _ => total client request _, total client request _⟩

end Hearing

def Flight.told {κ ε : Type} (hear : Hearing κ ε) (flight : Flight κ) (report : Report) : List ε :=
  hear.told flight.client flight.request report

namespace ReplayChannel

variable {κ ε : Type} {hear : Hearing κ ε}

def toldFrame (hear : Hearing κ ε) (flight : Flight κ) (reports : List Report) : List ε :=
  reports.flatMap (flight.told hear)

/-- What comes of draining requests: for each its frame, under the next number, and its end. -/
def toldDrain (hear : Hearing κ ε) (reports : Flight κ → Nat → List Report) (frame : Nat)
    (flights : List (Flight κ)) : List ε :=
  (flights.zipIdx frame).flatMap fun (flight, frame) =>
    toldFrame hear flight
      (reports flight frame ++ [.sequenceCompleted flight.channelSequence frame])

def toldEnd (hear : Hearing κ ε) (frame : Nat) (flight : Flight κ) : List ε :=
  flight.told hear (.sequenceCompleted flight.channelSequence frame)

def toldAbort (hear : Hearing κ ε) (flight : Flight κ) : List ε :=
  flight.told hear (.sequenceAborted flight.channelSequence)

/-! ## Reporting -/

private theorem report_eq_of_heard {flight : Flight κ} {about : Report}
    (heard : ∃ events, hear flight.client flight.request about = .ok events)
    (channel : ReplayChannel κ) :
    report hear flight about channel = ⟨channel, flight.told hear about, .ok ()⟩ := by
  obtain ⟨events, equal⟩ := heard
  simp [report, Flight.told, Hearing.told, Activity.bind_apply, equal]

private theorem report_eq (total : hear.IsTotal) (flight : Flight κ) (about : Report)
    (channel : ReplayChannel κ) :
    report hear flight about channel = ⟨channel, flight.told hear about, .ok ()⟩ :=
  report_eq_of_heard (total flight.client flight.request about) channel

private theorem forM_report_eq (total : hear.IsTotal) (flight : Flight κ) (reports : List Report)
    (channel : ReplayChannel κ) :
    reports.forM (report hear flight) channel =
      ⟨channel, toldFrame hear flight reports, .ok ()⟩ := by
  induction reports with
  | nil => rfl
  | cons about rest induction =>
      rw [Activity.forM_cons, Activity.bind_of_ok (report_eq total flight about channel), induction]
      rfl

private theorem reportCompleted_eq (ends : hear.TellsEnds) (flight : Flight κ)
    (channel : ReplayChannel κ) :
    reportCompleted hear flight channel =
      ⟨{ channel with nextFrame := channel.nextFrame + 1 },
        toldEnd hear channel.nextFrame flight, .ok ()⟩ := by
  have heard := (ends flight.client flight.request flight.channelSequence).1 channel.nextFrame
  simp [reportCompleted, takeFrame, toldEnd, Activity.bind_apply, report_eq_of_heard heard]

/-! ## The channel after an operation -/

@[simps pending repeating]
def taken (channel : ReplayChannel κ) (request : Request) : ReplayChannel κ :=
  { channel with
    submitted := channel.submitted ++ [request]
    nextSequence := channel.nextSequence + 1 }

@[simps pending repeating]
def enqueued (channel : ReplayChannel κ) (flight : Flight κ) : ReplayChannel κ :=
  { channel.taken flight.request with pending := channel.pending ++ [flight] }

/-- What is in the slot was ended, which took a frame number. -/
@[simps pending repeating]
def vacated (channel : ReplayChannel κ) : ReplayChannel κ :=
  { channel with
    repeating := none
    nextFrame := channel.nextFrame + channel.repeating.toList.length }

/-- A repeating request was taken, in place of the one in the slot. -/
@[simps pending repeating]
def renewed (channel : ReplayChannel κ) (flight : Flight κ) : ReplayChannel κ :=
  { channel.vacated.taken flight.request with repeating := some flight }

@[simps pending repeating]
def stopped (channel : ReplayChannel κ) : ReplayChannel κ :=
  { channel.vacated with stops := channel.stops + 1 }

@[simps pending repeating]
def aborted (channel : ReplayChannel κ) : ReplayChannel κ :=
  { channel with aborts := channel.aborts + 1, repeating := none, pending := [] }

@[simps pending repeating nextFrame]
def framed (channel : ReplayChannel κ) : ReplayChannel κ :=
  { channel with nextFrame := channel.nextFrame + 1 }

@[simps pending repeating]
def drained (channel : ReplayChannel κ) : ReplayChannel κ :=
  { channel with pending := [], nextFrame := channel.nextFrame + channel.pending.length }

/-! ## Submission -/

def rejection : Error := .submissionRejected "loopback channel is rejecting requests"

private theorem accept_eq_of_rejecting {channel : ReplayChannel κ}
    (rejecting : channel.rejecting = true) (client : κ) (request : Request) :
    accept client request channel = (.error rejection, channel) := by
  simp [accept, rejecting, rejection]

private theorem accept_eq {channel : ReplayChannel κ} (accepting : channel.rejecting = false)
    (client : κ) (request : Request) :
    accept client request channel =
      (.ok ⟨channel.nextSequence, request, client⟩, channel.taken request) := by
  simp [accept, accepting, taken]

theorem submit_eq_of_rejecting {channel : ReplayChannel κ} (rejecting : channel.rejecting = true)
    (client : κ) (request : Request) :
    (submit client request : Activity (ReplayChannel κ) ε _) channel =
      ⟨channel, [], .ok (.error rejection)⟩ := by
  simp [submit, accept_eq_of_rejecting rejecting, Activity.bind_apply]

theorem submit_eq {channel : ReplayChannel κ} (accepting : channel.rejecting = false) (client : κ)
    (request : Request) :
    (submit client request : Activity (ReplayChannel κ) ε _) channel =
      ⟨channel.enqueued ⟨channel.nextSequence, request, client⟩, [],
        .ok (.ok channel.nextSequence)⟩ := by
  simp only [submit, accept_eq accepting, Activity.bind_apply, Activity.step_apply,
    Activity.modify_apply, Activity.pure_apply]
  rfl

private theorem forM_reportCompleted_eq (ends : hear.TellsEnds) (flight : Option (Flight κ))
    (channel : ReplayChannel κ) :
    flight.forM (reportCompleted hear) channel =
      ⟨{ channel with nextFrame := channel.nextFrame + flight.toList.length },
        flight.toList.flatMap (toldEnd hear channel.nextFrame), .ok ()⟩ := by
  cases flight with
  | none => rfl
  | some flight =>
      change reportCompleted hear flight channel = _
      rw [reportCompleted_eq ends]
      simp

theorem setRepeating_eq_of_rejecting {channel : ReplayChannel κ}
    (rejecting : channel.rejecting = true) (client : κ) (request : Request) :
    setRepeating hear client request channel = ⟨channel, [], .ok (.error rejection)⟩ := by
  simp [setRepeating, accept_eq_of_rejecting rejecting, Activity.bind_apply]

theorem setRepeating_eq (ends : hear.TellsEnds) {channel : ReplayChannel κ}
    (accepting : channel.rejecting = false) (client : κ) (request : Request) :
    setRepeating hear client request channel =
      ⟨channel.renewed ⟨channel.nextSequence, request, client⟩,
        channel.repeating.toList.flatMap (toldEnd hear channel.nextFrame),
        .ok (.ok channel.nextSequence)⟩ := by
  simp only [setRepeating, accept_eq accepting, takeRepeating, Activity.bind_apply,
    Activity.step_apply, Activity.modify_apply, Activity.pure_apply,
    forM_reportCompleted_eq ends]
  simp [renewed, vacated, taken]

theorem stopRepeating_eq (ends : hear.TellsEnds) (channel : ReplayChannel κ) :
    stopRepeating hear channel =
      ⟨channel.stopped, channel.repeating.toList.flatMap (toldEnd hear channel.nextFrame),
        .ok ()⟩ := by
  simp only [stopRepeating, takeRepeating, Activity.bind_apply, Activity.step_apply,
    Activity.modify_apply, forM_reportCompleted_eq ends]
  rfl

private theorem forM_abort_eq (ends : hear.TellsEnds) (flights : List (Flight κ))
    (channel : ReplayChannel κ) :
    (flights.forM fun flight => report hear flight (.sequenceAborted flight.channelSequence))
        channel =
      ⟨channel, flights.flatMap (toldAbort hear), .ok ()⟩ := by
  induction flights with
  | nil => rfl
  | cons flight rest induction =>
      have heard := (ends flight.client flight.request flight.channelSequence).2
      rw [Activity.forM_cons, Activity.bind_of_ok (report_eq_of_heard heard channel), induction]
      rfl

theorem abortCaptures_eq (ends : hear.TellsEnds) (channel : ReplayChannel κ) :
    abortCaptures hear channel =
      ⟨channel.aborted,
        (channel.repeating.toList ++ channel.pending).flatMap (toldAbort hear), .ok ()⟩ := by
  simp only [abortCaptures, takeRepeating, takePending, Activity.bind_apply, Activity.step_apply,
    Activity.modify_apply, forM_abort_eq ends]
  rfl

/-! ## Replay -/

private theorem replayRepeating_eq_of_none {channel : ReplayChannel κ}
    (idle : channel.repeating = none) (reports : Nat → List Report) :
    replayRepeating hear reports channel = ⟨channel, [], .ok false⟩ := by
  simp [replayRepeating, idle, Activity.bind_apply]

theorem replayRepeating_apply {channel : ReplayChannel κ} {flight : Flight κ}
    (running : channel.repeating = some flight) (reports : Nat → List Report) :
    replayRepeating hear reports channel =
      ((reports channel.nextFrame).forM (report hear flight) >>= fun _ => pure true)
        channel.framed := by
  simp only [replayRepeating, Activity.bind_apply, Activity.read_apply, running, takeFrame,
    Activity.step_apply, List.nil_append, framed]

theorem replayRepeating_eq_of_some (total : hear.IsTotal) {channel : ReplayChannel κ}
    {flight : Flight κ} (running : channel.repeating = some flight)
    (reports : Nat → List Report) :
    replayRepeating hear reports channel =
      ⟨channel.framed, toldFrame hear flight (reports channel.nextFrame), .ok true⟩ := by
  rw [replayRepeating_apply running, Activity.bind_of_ok (forM_report_eq total flight _ _)]
  simp

/-- What draining does about each request: report on its frame, then its end. -/
def conclude (hear : Hearing κ ε) (reports : Flight κ → Nat → List Report) (flight : Flight κ) :
    Activity (ReplayChannel κ) ε Unit := do
  let frame ← takeFrame
  (reports flight frame).forM (report hear flight)
  report hear flight (.sequenceCompleted flight.channelSequence frame)

theorem conclude_apply (reports : Flight κ → Nat → List Report) (flight : Flight κ)
    (channel : ReplayChannel κ) :
    conclude hear reports flight channel =
      (reports flight channel.nextFrame ++
        [Report.sequenceCompleted flight.channelSequence channel.nextFrame]).forM
          (report hear flight) channel.framed := by
  have joined (about : List Report) (last : Report) :
      (about ++ [last]).forM (report hear flight) =
        (about.forM (report hear flight) >>= fun _ => report hear flight last) := by
    simp [List.forM_append]
  rw [joined]
  rfl

private theorem forM_conclude_eq (total : hear.IsTotal) (reports : Flight κ → Nat → List Report)
    (flights : List (Flight κ)) (channel : ReplayChannel κ) :
    flights.forM (conclude hear reports) channel =
      ⟨{ channel with nextFrame := channel.nextFrame + flights.length },
        toldDrain hear reports channel.nextFrame flights, .ok ()⟩ := by
  induction flights generalizing channel with
  | nil => rfl
  | cons flight rest induction =>
      -- Each request takes a frame number, which is why the channel is general here.
      have first := @conclude_apply κ ε hear reports flight channel
      rw [forM_report_eq total] at first
      rw [Activity.forM_cons, Activity.bind_of_ok first, induction]
      simp [framed, toldDrain, Nat.add_assoc, Nat.add_comm 1]

theorem drain_def (reports : Flight κ → Nat → List Report) :
    drain hear reports = (do
      let pending ← takePending
      pending.forM (conclude hear reports)
      return pending.length) := rfl

theorem drain_eq (total : hear.IsTotal) (reports : Flight κ → Nat → List Report)
    (channel : ReplayChannel κ) :
    drain hear reports channel =
      ⟨channel.drained, toldDrain hear reports channel.nextFrame channel.pending,
        .ok channel.pending.length⟩ := by
  simp only [drain_def, takePending, Activity.bind_apply, Activity.step_apply,
    Activity.pure_apply, forM_conclude_eq total]
  simp [drained]

end ReplayChannel

/-! ## Steps of the channel

A step that reports is about a frame of the repeating request or about all pending requests. -/

namespace ChannelStep

variable {κ ε : Type} {hear : Hearing κ ε}

def repeatingReports? : ChannelStep → Option (Nat → List Report)
  | .fireRepeating timestamp =>
      some fun frame => [.started frame timestamp, .completed (sampleResult timestamp)]
  | .failRepeating reason => some fun frame => [.failed frame reason]
  | _ => none

def pendingReports? : ChannelStep → Option (Flight κ → Nat → List Report)
  | .completePending timestamp =>
      some fun _ frame => [.started frame timestamp, .completed (sampleResult timestamp)]
  | .completePendingWith result =>
      some fun _ frame => [.started frame (result.sensorTimestamp.getD 0), .completed result]
  | .failPending reason => some fun _ frame => [.failed frame reason]
  | .losePending =>
      some fun flight frame => [.bufferLost frame (flight.request.outputs.head?.getD .preview)]
  | _ => none

theorem perform_of_repeatingReports {step : ChannelStep} {reports : Nat → List Report}
    (about : step.repeatingReports? = some reports) :
    (step.perform hear : Activity (ReplayChannel κ) ε ChannelReply) = do
      return .flag (← ReplayChannel.replayRepeating hear reports) := by
  cases step <;> cases about <;> rfl

theorem perform_of_pendingReports {step : ChannelStep}
    {reports : Flight κ → Nat → List Report} (about : step.pendingReports? = some reports) :
    (step.perform hear : Activity (ReplayChannel κ) ε ChannelReply) = do
      return .count (← ReplayChannel.drain hear reports) := by
  cases step <;> cases about <;> rfl

theorem perform_eq_of_idle {step : ChannelStep} {reports : Nat → List Report}
    (about : step.repeatingReports? = some reports) {channel : ReplayChannel κ}
    (idle : channel.repeating = none) :
    step.perform hear channel = ⟨channel, [], .ok (.flag false)⟩ := by
  rw [perform_of_repeatingReports about,
    Activity.bind_of_ok (ReplayChannel.replayRepeating_eq_of_none idle reports)]
  rfl

theorem perform_eq_of_running (total : hear.IsTotal) {step : ChannelStep}
    {reports : Nat → List Report} (about : step.repeatingReports? = some reports)
    {channel : ReplayChannel κ} {flight : Flight κ} (running : channel.repeating = some flight) :
    step.perform hear channel =
      ⟨channel.framed, ReplayChannel.toldFrame hear flight (reports channel.nextFrame),
        .ok (.flag true)⟩ := by
  rw [perform_of_repeatingReports about,
    Activity.bind_of_ok (ReplayChannel.replayRepeating_eq_of_some total running reports)]
  simp

theorem perform_eq_of_drain (total : hear.IsTotal) {step : ChannelStep}
    {reports : Flight κ → Nat → List Report} (about : step.pendingReports? = some reports)
    (channel : ReplayChannel κ) :
    step.perform hear channel =
      ⟨channel.drained, ReplayChannel.toldDrain hear reports channel.nextFrame channel.pending,
        .ok (.count channel.pending.length)⟩ := by
  rw [perform_of_pendingReports about,
    Activity.bind_of_ok (ReplayChannel.drain_eq total reports channel)]
  simp

/-- There are no steps but these. -/
theorem cases_reports (step : ChannelStep) :
    (∃ rejecting, step = .reject rejecting) ∨
      (∃ reports, step.repeatingReports? = some reports) ∨
        ∃ reports : Flight κ → Nat → List Report, step.pendingReports? = some reports := by
  cases step with
  | reject rejecting => exact .inl ⟨rejecting, rfl⟩
  | fireRepeating timestamp => exact .inr (.inl ⟨_, rfl⟩)
  | failRepeating reason => exact .inr (.inl ⟨_, rfl⟩)
  | completePending timestamp => exact .inr (.inr ⟨_, rfl⟩)
  | completePendingWith result => exact .inr (.inr ⟨_, rfl⟩)
  | failPending reason => exact .inr (.inr ⟨_, rfl⟩)
  | losePending => exact .inr (.inr ⟨_, rfl⟩)

end ChannelStep

end EyesFree
