import Ros2Dispatcher.GisHealth.Node

/-!
# What a health node has sent

From a configuration to the stop of its producer a node makes reports in rounds: an activation
registers every robot and then says that it is there, and each firing of the timer says of every
robot that it is there (`Rounds`). `Producer.Session` is the producer's side: the calls of `send`
carry these reports, one record each, whatever its poll thread does in between.

The specifications of the callbacks follow: `wp_sendFor`, and from it `wp_greet` and
`wp_onHealthTimer` by the loop rule.
-/

namespace Ros2Dispatcher.GisHealth

open Json KafkaClient Procedure

variable {F : Type}

/-! ### Rounds of reports -/

/-- A report, by its kind and its robot. -/
inductive Beat
  | registration (robotId : Text)
  | ping (robotId : Text)
deriving DecidableEq, Repr

/-- What an activation reports. -/
def greeting (robots : List Text) : List Beat :=
  robots.flatMap fun robotId => [.registration robotId, .ping robotId]

/-- What the timer reports. -/
def pings (robots : List Text) : List Beat :=
  robots.map .ping

/-- The reports of activations and of firings of the timer, which come after an activation. -/
inductive Rounds (robots : List Text) : List Beat → Prop
  | configured : Rounds robots []
  | activated {beats : List Beat} (before : Rounds robots beats) :
    Rounds robots (beats ++ greeting robots)
  | ticked {beats : List Beat} (before : Rounds robots beats) (active : beats ≠ []) :
    Rounds robots (beats ++ pings robots)

namespace Beat

def robotId : Beat → Text
  | registration robotId => robotId
  | ping robotId => robotId

def topic (parameters : Parameters F) : Beat → String
  | registration _ => parameters.registrationTopic
  | ping _ => parameters.healthTopic

/-- The report, made at a time. -/
def report (parameters : Parameters F) : Beat → Int64 → Option Report
  | registration robotId, nowMs => registrationReport parameters robotId nowMs
  | ping robotId, nowMs => pingReport robotId nowMs

/-- A record that says what the beat is about: it goes to the topic of its kind under the robot's
key, and the fleet manager reads it as a report that was due. -/
structure CarriedBy (codec : Codec) (parameters : Parameters F) (beat : Beat)
    (record : QueuedRecord) : Prop where
  topic : record.topic = beat.topic parameters
  key : record.key = beat.robotId
  value : ∃ nowMs report, beat.report parameters nowMs = some report ∧
    Report.ofText codec record.value = some report

end Beat

/-- Before a robot is reported as there, it is reported as registered. -/
def Announced (beats : List Beat) : Prop :=
  ∀ before robotId after, beats = before ++ .ping robotId :: after →
    .registration robotId ∈ before

theorem Announced.append {xs ys : List Beat} (h : Announced xs)
    (hys : ∀ before robotId after, ys = before ++ .ping robotId :: after →
      .registration robotId ∈ xs ++ before) : Announced (xs ++ ys) := by
  intro before robotId after hsplit
  rcases List.append_eq_append_iff.mp hsplit with ⟨before', rfl, hys'⟩ | ⟨rest, hxs, hrest⟩
  · exact hys before' robotId after hys'
  · cases rest with
    | nil =>
      rw [List.append_nil] at hxs
      rw [List.nil_append] at hrest
      simpa [hxs] using hys [] robotId after hrest.symm
    | cons beat rest =>
      obtain ⟨rfl, -⟩ := List.cons.inj hrest
      exact h before robotId rest hxs

/-- What was announced stays so in what came first. -/
theorem Announced.of_append {xs ys : List Beat} (h : Announced (xs ++ ys)) : Announced xs := by
  rintro before robotId after rfl
  exact h before robotId (after ++ ys) (by simp)

theorem announced_greeting (robots : List Text) : Announced (greeting robots) := by
  induction robots with
  | nil =>
    intro before robotId after h
    simp [greeting] at h
  | cons robotId robots ih =>
    have hpair : Announced [.registration robotId, .ping robotId] := by
      intro before other after h
      rcases before with - | ⟨first, before⟩
      · cases (List.cons.inj h).1
      · obtain ⟨rfl, hrest⟩ := List.cons.inj h
        rcases before with - | ⟨second, before⟩
        · have hrobot : robotId = other := Beat.ping.inj (List.cons.inj hrest).1
          rw [hrobot]
          exact .head _
        · simp at hrest
    refine hpair.append fun before other after h => ?_
    exact List.mem_append_right _ (ih before other after h)

/-- After the first round every robot is registered. -/
theorem Rounds.registered {robots : List Text} {beats : List Beat} (h : Rounds robots beats)
    (hactive : beats ≠ []) : ∀ robotId ∈ robots, .registration robotId ∈ beats := by
  intro robotId hrobot
  induction h with
  | configured => exact absurd rfl hactive
  | activated before =>
    exact List.mem_append_right _ (List.mem_flatMap.mpr ⟨robotId, hrobot, .head _⟩)
  | ticked before active ih => exact List.mem_append_left _ (ih active)

theorem Rounds.announced {robots : List Text} {beats : List Beat} (h : Rounds robots beats) :
    Announced beats := by
  induction h with
  | configured =>
    intro before robotId after h
    simp at h
  | activated before ih =>
    refine ih.append fun before robotId after h => ?_
    exact List.mem_append_right _ (announced_greeting robots before robotId after h)
  | ticked hbefore active ih =>
    refine ih.append fun before robotId after h => List.mem_append_left _ ?_
    have hmem : .ping robotId ∈ pings robots := by
      rw [h]
      exact List.mem_append_right _ (.head _)
    obtain ⟨other, hother, hbeat⟩ := List.mem_map.mp hmem
    cases hbeat
    exact hbefore.registered active robotId hother

/-! ### The calls of a producer -/

variable {codec : Codec} {period : Period F} {base node : Node F} {producer : Producer F}
variable {beats : List Beat}

/-- What was sent to a producer are the beats, one record each. -/
def Producer.Carries (codec : Codec) (producer : Producer F) (beats : List Beat) : Prop :=
  List.Forall₂ (fun beat sent => beat.CarriedBy codec producer.parameters sent.record) beats
    producer.machine.producer.sent

/-- A producer at work that was sent the beats. -/
structure Producer.Session (codec : Codec) (producer : Producer F) (beats : List Beat) :
    Prop where
  serves : producer.machine.Serves producer.config
  carries : producer.Carries codec beats

namespace Producer.Session

theorem poll {step : PollStep} (h : producer.Session codec beats) :
    (producer.poll step).Session codec beats := by
  refine ⟨h.serves.poll rfl, ?_⟩
  have hsent : (producer.poll step).machine.producer.sent = producer.machine.producer.sent :=
    congrArg (List.map Prod.fst) Machine.poll_returned
  rw [Carries, hsent]
  exact h.carries

theorem polls (h : producer.Session codec beats) (steps : List PollStep) :
    (steps.foldl Producer.poll producer).Session codec beats ∧
      (steps.foldl Producer.poll producer).parameters = producer.parameters := by
  induction steps generalizing producer with
  | nil => exact ⟨h, rfl⟩
  | cons step steps ih => exact ih h.poll

/-- A record for another beat. -/
theorem send {rdkafka : RdKafka} {beat : Beat} {record : QueuedRecord}
    (h : producer.Session codec beats) (hbeat : beat.CarriedBy codec producer.parameters record) :
    (producer.send rdkafka record).Session codec (beats ++ [beat]) := by
  refine ⟨h.serves.send rfl, ?_⟩
  have hsent : (producer.send rdkafka record).machine.producer.sent =
      producer.machine.producer.sent ++ [⟨producer.machine.producer.returned.length, record⟩] :=
    send_sent h.serves.running
  rw [Carries, hsent]
  exact List.rel_append h.carries (.cons hbeat .nil)

end Producer.Session

/-! ### The callbacks -/

/-- A node that is `base` but for its producer, which was made for the node's parameters and was
sent the beats. -/
def Node.Serving (codec : Codec) (base : Node F) (beats : List Beat) (node : Node F) : Prop :=
  ∃ producer, node = { base with producer := some producer } ∧
    producer.parameters = base.parameters ∧ producer.Session codec beats

/-- A call for a robot sends one more beat, unless its payload cannot be built. -/
theorem wp_sendFor {topic : Parameters F → String}
    {payload : Parameters F → Text → Int64 → Option Text} {outside : SendOutside}
    {robotId : Text} {beat : Beat} (h : base.Serving codec beats node)
    (hbeat : ∀ value, payload base.parameters robotId outside.payloadMs = some value →
      beat.CarriedBy codec base.parameters
        (reportRecord (topic base.parameters) robotId value outside.nowMs)) :
    wp (sendFor topic payload outside robotId)
      (fun _ node' => base.Serving codec (beats ++ [beat]) node' ∧
        (payload base.parameters robotId outside.payloadMs).isSome = true)
      (fun _ node' => base.Serving codec beats node' ∧
        payload base.parameters robotId outside.payloadMs = none) node := by
  obtain ⟨producer, rfl, hparameters, hsession⟩ := h
  obtain ⟨hpolled, hsame⟩ := hsession.polls outside.polls
  rw [sendFor, wp_bind, wp_get]
  dsimp only
  rw [wp_bind, wp_set]
  cases hpayload : payload base.parameters robotId outside.payloadMs with
  | none => exact ⟨⟨_, rfl, hsame.trans hparameters, hpolled⟩, rfl⟩
  | some value =>
    have hcarried : beat.CarriedBy codec (outside.polls.foldl Producer.poll producer).parameters
        (reportRecord (topic base.parameters) robotId value outside.nowMs) := by
      rw [hsame.trans hparameters]
      exact hbeat value hpayload
    exact ⟨⟨_, rfl, hsame.trans hparameters, hpolled.send hcarried⟩, rfl⟩

/-- A registration can be built for the robot. -/
structure Registrable (parameters : Parameters F) (robotId : Text) : Prop where
  robotId : (utf8? robotId).isSome = true
  odomKafkaTopic : (utf8? parameters.odomKafkaTopic).isSome = true
  gpsKafkaTopic : (utf8? parameters.gpsKafkaTopic).isSome = true

theorem buildRegistrationPayload_isSome_iff_registrable {parameters : Parameters F}
    {robotId : Text} {nowMs : Int64} :
    (buildRegistrationPayload codec parameters robotId nowMs).isSome = true ↔
      Registrable parameters robotId := by
  rw [buildRegistrationPayload_isSome_iff, registrationReport]
  constructor
  · intro h
    obtain ⟨report, h⟩ := Option.isSome_iff_exists.mp h
    simp only [bind, Option.bind_eq_some_iff] at h
    obtain ⟨serialNumber, hserial, odom, hodom, gps, hgps, -⟩ := h
    exact ⟨by rw [hserial]; rfl, by rw [hodom]; rfl, by rw [hgps]; rfl⟩
  · rintro ⟨hserial, hodom, hgps⟩
    obtain ⟨serialNumber, hserial⟩ := Option.isSome_iff_exists.mp hserial
    obtain ⟨odom, hodom⟩ := Option.isSome_iff_exists.mp hodom
    obtain ⟨gps, hgps⟩ := Option.isSome_iff_exists.mp hgps
    simp [hserial, hodom, hgps]

theorem buildPingPayload_isSome_iff_utf8 {robotId : Text} {nowMs : Int64} :
    (buildPingPayload codec robotId nowMs).isSome = true ↔ (utf8? robotId).isSome = true := by
  rw [buildPingPayload_isSome_iff, pingReport, Option.isSome_map]

theorem wp_sendRegistrationFor (hcodec : codec.Lawful) {outside : SendOutside} {robotId : Text}
    (h : base.Serving codec beats node) :
    wp (sendRegistrationFor codec outside robotId)
      (fun _ node' => base.Serving codec (beats ++ [.registration robotId]) node' ∧
        Registrable base.parameters robotId)
      (fun _ node' => base.Serving codec beats node' ∧
        ¬Registrable base.parameters robotId) node := by
  have hbeat : ∀ value,
      buildRegistrationPayload codec base.parameters robotId outside.payloadMs = some value →
      (Beat.registration robotId).CarriedBy codec base.parameters
        (reportRecord base.parameters.registrationTopic robotId value outside.nowMs) := by
    intro value hvalue
    obtain ⟨report, hreport, hread⟩ := ofText_registration hcodec hvalue
    exact ⟨rfl, rfl, outside.payloadMs, report, hreport, hread⟩
  refine wp_mono (wp_sendFor h hbeat) (fun _ _ h' => ?_) fun _ _ h' => ?_
  · exact ⟨h'.1, buildRegistrationPayload_isSome_iff_registrable.mp h'.2⟩
  · refine ⟨h'.1, fun hregistrable => ?_⟩
    have hbuilt : (buildRegistrationPayload codec base.parameters robotId
        outside.payloadMs).isSome = true :=
      buildRegistrationPayload_isSome_iff_registrable.mpr hregistrable
    rw [h'.2] at hbuilt
    cases hbuilt

theorem wp_sendPingFor (hcodec : codec.Lawful) {outside : SendOutside} {robotId : Text}
    (h : base.Serving codec beats node) (hrobot : (utf8? robotId).isSome = true) :
    wp (sendPingFor codec outside robotId)
      (fun _ node' => base.Serving codec (beats ++ [.ping robotId]) node') (fun _ _ => False)
      node := by
  have hbeat : ∀ value, buildPingPayload codec robotId outside.payloadMs = some value →
      (Beat.ping robotId).CarriedBy codec base.parameters
        (reportRecord base.parameters.healthTopic robotId value outside.nowMs) := by
    intro value hvalue
    obtain ⟨report, hreport, hread⟩ := ofText_ping hcodec hvalue
    exact ⟨rfl, rfl, outside.payloadMs, report, hreport, hread⟩
  refine wp_mono (wp_sendFor h hbeat) (fun _ _ h' => h'.1) fun _ _ h' => ?_
  have hbuilt : (buildPingPayload codec robotId outside.payloadMs).isSome = true :=
    buildPingPayload_isSome_iff_utf8.mpr hrobot
  rw [h'.2] at hbuilt
  cases hbuilt

/-- The robots of a list with their numbers. -/
private theorem map_fst_zipIdx (robots : List Text) : robots.zipIdx.map Prod.fst = robots := by
  simp

/-- The loop of `on_activate`: a greeting, or the part of it up to a robot that no registration
can be built for. -/
theorem wp_greet (hcodec : codec.Lawful) {outside : Outside} {robots : List Text}
    (h : base.Serving codec beats node) :
    wp (forM robots.zipIdx fun robot => do
        sendRegistrationFor codec (outside.registration robot.2) robot.1
        sendPingFor codec (outside.ping robot.2) robot.1)
      (fun _ node' => base.Serving codec (beats ++ greeting robots) node' ∧
        ∀ robotId ∈ robots, Registrable base.parameters robotId)
      (fun _ node' => (∃ part more, greeting robots = part ++ more ∧
        base.Serving codec (beats ++ part) node') ∧
        ¬∀ robotId ∈ robots, Registrable base.parameters robotId) node := by
  refine wp_forM (fun rest node' => ∃ done : List Text,
    robots = done ++ rest.map Prod.fst ∧
      (∀ robotId ∈ done, Registrable base.parameters robotId) ∧
      base.Serving codec (beats ++ greeting done) node') ?_ ?_ _ _ ?_
  · rintro ⟨robotId, i⟩ rest node' ⟨done, hrobots, hregistrable, hserving⟩
    have hgreeting : greeting robots = greeting done ++
        .registration robotId :: .ping robotId :: greeting (rest.map Prod.fst) := by
      rw [hrobots]
      simp [greeting]
    rw [wp_bind]
    refine wp_mono (wp_sendRegistrationFor hcodec hserving) (fun _ node₁ hregistered => ?_)
      fun _ node₁ hfailed => ⟨⟨greeting done, _, hgreeting, hfailed.1⟩, fun hall => ?_⟩
    · refine wp_mono (wp_sendPingFor hcodec hregistered.1 hregistered.2.robotId)
        (fun _ node₂ hpinged => ?_) fun _ _ hfalse => hfalse.elim
      refine ⟨done ++ [robotId], by simpa using hrobots, ?_, ?_⟩
      · intro other hother
        rcases List.mem_append.mp hother with hother | hother
        · exact hregistrable other hother
        · rw [List.mem_singleton.mp hother]
          exact hregistered.2
      · have hdone : greeting (done ++ [robotId]) =
            greeting done ++ [.registration robotId] ++ [.ping robotId] := by
          simp [greeting]
        rw [hdone, ← List.append_assoc, ← List.append_assoc]
        exact hpinged
    · exact hfailed.2 (hall robotId (by rw [hrobots]; simp))
  · rintro node' ⟨done, hrobots, hregistrable, hserving⟩
    rw [List.map_nil, List.append_nil] at hrobots
    exact hrobots ▸ ⟨hserving, hregistrable⟩
  · exact ⟨[], (map_fst_zipIdx robots).symm, fun _ hrobot => absurd hrobot List.not_mem_nil,
      by simpa [greeting] using h⟩

/-- The timer sends a ping for every robot, and no exception leaves it. -/
theorem wp_onHealthTimer (hcodec : codec.Lawful) (ping : Nat → SendOutside)
    (h : base.Serving codec beats node)
    (hrobots : ∀ robotId ∈ base.parameters.robotList, (utf8? robotId).isSome = true) :
    wp (onHealthTimer codec ping)
      (fun _ node' => base.Serving codec (beats ++ pings base.parameters.robotList) node')
      (fun _ _ => False) node := by
  have hparameters : node.parameters = base.parameters := by
    obtain ⟨producer, rfl, -⟩ := h
    rfl
  rw [onHealthTimer, wp_bind, wp_get, hparameters]
  refine wp_forM (fun rest node' => ∃ done : List Text,
    base.parameters.robotList = done ++ rest.map Prod.fst ∧
      base.Serving codec (beats ++ pings done) node') ?_ ?_ _ _ ?_
  · rintro ⟨robotId, i⟩ rest node' ⟨done, hsplit, hserving⟩
    have hrobot : (utf8? robotId).isSome = true := hrobots robotId (by rw [hsplit]; simp)
    refine wp_mono (wp_sendPingFor hcodec hserving hrobot) (fun _ node₁ hpinged => ?_)
      fun _ _ hfalse => hfalse
    refine ⟨done ++ [robotId], by simpa using hsplit, ?_⟩
    rw [pings, List.map_append, ← List.append_assoc]
    exact hpinged
  · rintro node' ⟨done, hsplit, hserving⟩
    rw [List.map_nil, List.append_nil] at hsplit
    exact hsplit ▸ hserving
  · exact ⟨[], (map_fst_zipIdx _).symm, by simpa [pings] using h⟩

end Ros2Dispatcher.GisHealth
