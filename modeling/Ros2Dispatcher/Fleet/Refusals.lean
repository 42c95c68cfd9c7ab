import Ros2Dispatcher.Controller.Frame
import Ros2Dispatcher.Fleet.Planning

/-!
# Selections that are refused

`apply_selection` refuses a selection before it touches a sink or a tool: an empty one, one
for which the state of kafka_sink cannot be read, one with a type that cannot be inferred,
and one with an entry the plan rejects, wherever in the list it stands (`Refusal`). Until
then it has only asked for the state of kafka_sink and for the topics, and has written no
member (`applySelection_refused`). These are all the ways in which the part before the first
side effect can fail (`prepareSelection_refuses`).

The environment is arbitrary here; it writes the requests down.
-/

namespace Ros2Dispatcher

open Procedure

/-! ### Entries the plan rejects -/

/-- An entry without a name, or with an enabled tool without a plugin. -/
def TopicSelection.Malformed (entry : TopicSelection) : Prop :=
  entry.topic.name = "" ∨
    ∃ cfg, entry.topicTools = some cfg ∧ cfg.enabled = true ∧ cfg.pluginName = ""

theorem planEntry_error_iff {entry : TopicSelection} :
    (∃ message, planEntry entry = .error message) ↔ entry.Malformed := by
  have hplanned := planEntry_planned entry
  constructor
  · rintro ⟨message, herror⟩
    rw [herror] at hplanned
    cases hplanned with
    | unnamed hname => exact .inl hname
    | noPlugin cfg htools henabled hplugin => exact .inr ⟨cfg, htools, henabled, hplugin⟩
  · intro hmalformed
    cases hresult : planEntry entry with
    | error message => exact ⟨message, rfl⟩
    | ok result =>
      rw [hresult] at hplanned
      cases hplanned with
      | plain hname hdisabled =>
        rcases hmalformed with hunnamed | ⟨cfg, htools, henabled, _⟩
        · exact absurd hunnamed hname
        · rw [hdisabled cfg htools] at henabled
          cases henabled
      | tool cfg hname htools _ hplugin =>
        rcases hmalformed with hunnamed | ⟨cfg', htools', _, hmissing⟩
        · exact absurd hunnamed hname
        · rw [htools] at htools'
          rw [← Option.some.inj htools'] at hmissing
          exact absurd hmissing hplugin

/-- The plan fails at the first malformed entry, wherever it stands. -/
theorem buildTopicToolsPlan_error_iff {selection : List TopicSelection} :
    (∃ message, buildTopicToolsPlan selection = .error message) ↔
      ∃ entry ∈ selection, entry.Malformed := by
  induction selection with
  | nil => simp [buildTopicToolsPlan]
  | cons entry rest ih =>
    simp only [List.mem_cons, exists_eq_or_imp]
    rw [← planEntry_error_iff, ← ih, buildTopicToolsPlan]
    cases planEntry entry with
    | error message => simp [bind, Except.bind]
    | ok planned =>
      cases buildTopicToolsPlan rest <;> simp [bind, Except.bind, pure, Except.pure]

theorem completeEntry_malformed {answer : List TopicInfo} {entry : TopicSelection} :
    (completeEntry answer entry).Malformed ↔ entry.Malformed := by
  unfold TopicSelection.Malformed
  rw [completeEntry_name, completeEntry_topicTools]

/-! ### Types that cannot be inferred -/

section Inference

variable {ω : Type}

/-- The type a topic gets from the introspection manager, if it answers and has one. -/
def Environment.inferredType (env : Environment ω) (name : String) (w : ω) : Option String :=
  if (env.introspectionAvailable w).1 then
    (env.requestTopics (env.introspectionAvailable w).2).1.bind fun answer =>
      Ros2Dispatcher.inferredType answer name
  else none

/-- Some entry's type is missing and cannot be inferred. -/
def Uninferable (env : Environment ω) (topics : List TopicSelection) (w : ω) : Prop :=
  ∃ entry ∈ topics, entry.topic.type = "" ∧ env.inferredType entry.topic.name w = none

variable {params : Parameters} {env : Environment ω} {topics : List TopicSelection}
variable {s : NodeState ω}

theorem needsLookup_iff : needsLookup topics = true ↔ ∃ entry ∈ topics, entry.topic.type = "" := by
  simp [needsLookup, List.any_eq_true]

/-- Type inference fails exactly if a type cannot be inferred, and otherwise returns the
entries it was given, with types filled in. -/
theorem wp_inferMissingTypes_exact :
    wp (inferMissingTypes env topics)
      (fun completed _ => ¬Uninferable env topics s.env ∧
        ((∃ entry ∈ completed, entry.Malformed) ↔ ∃ entry ∈ topics, entry.Malformed))
      (fun _ _ => Uninferable env topics s.env) s := by
  unfold inferMissingTypes
  by_cases hneeds : needsLookup topics = true
  · obtain ⟨entry, hentry, htype⟩ := needsLookup_iff.mp hneeds
    rw [if_pos hneeds, wp_bind, wp_request]
    by_cases havailable : (env.introspectionAvailable s.env).1 = true
    · have hinferred : ∀ name, env.inferredType name s.env =
          (env.requestTopics (env.introspectionAvailable s.env).2).1.bind fun answer =>
            Ros2Dispatcher.inferredType answer name := fun _ => if_pos havailable
      rw [if_pos havailable, wp_bind, wp_request]
      cases hanswer : (env.requestTopics (env.introspectionAvailable s.env).2).1 with
      | none => exact ⟨entry, hentry, htype, by rw [hinferred, hanswer]; rfl⟩
      | some answer =>
        have huninferable : Uninferable env topics s.env ↔ missingTopics answer topics ≠ [] := by
          simp only [missingTopics_ne_nil_iff, Uninferable, hinferred, hanswer, Option.bind_some]
        rw [huninferable]
        refine wp_ofExcept.mpr ⟨fun completed hok => ?_, fun message herror => ?_⟩
        · obtain ⟨hmissing, rfl⟩ := completeTypes_ok_iff.mp hok
          refine ⟨fun h => h hmissing, ?_⟩
          simp only [List.mem_map, exists_exists_and_eq_and, completeEntry_malformed]
        · intro hmissing
          rw [completeTypes_ok_iff.mpr ⟨hmissing, rfl⟩] at herror
          cases herror
    · rw [if_neg havailable]
      exact ⟨entry, hentry, htype, if_neg havailable⟩
  · rw [if_neg hneeds]
    exact ⟨fun ⟨entry, hentry, htype, _⟩ => hneeds (needsLookup_iff.mpr ⟨entry, hentry, htype⟩),
      Iff.rfl⟩

end Inference

/-! ### Refusals -/

section Refusals

variable {ω : Type}

/-- Why `apply_selection` refuses a selection, in terms of what it is given, with the outside
at `w`. -/
inductive Refusal (params : Parameters) (env : Environment ω) (topics : List TopicSelection)
    (w : ω) : Prop
  | empty (h : topics = [])
  | unreadable (h : ∀ state, (env.getState .kafka w).1 ≠ .reply state)
  | uninferable (hvalidate : params.validateTopics = true)
    (h : Uninferable env topics (env.getState .kafka w).2)
  | malformed (entry : TopicSelection) (hentry : entry ∈ topics) (h : entry.Malformed)

variable {params : Parameters} {env : Environment ω} {topics : List TopicSelection}

/-- The part of `apply_selection` before the first side effect fails exactly for a refusal. -/
theorem prepareSelection_refuses {s : NodeState ω} :
    wp (prepareSelection params env topics) (fun _ _ => ¬Refusal params env topics s.env)
      (fun _ _ => Refusal params env topics s.env) s := by
  unfold prepareSelection
  by_cases hempty : topics.isEmpty = true
  · rw [if_pos hempty]
    exact .empty (List.isEmpty_iff.mp hempty)
  rw [if_neg hempty, getSinkState, if_pos (show params.hasClients .kafka = true from rfl), wp_bind,
    wp_bind, wp_request]
  cases hstate : (env.getState .kafka s.env).1 with
  | unavailable => exact .unreadable fun state h => by rw [hstate] at h; cases h
  | timeout => exact .unreadable fun state h => by rw [hstate] at h; cases h
  | reply state =>
    -- what is left is the plan of the completed selection
    have hplan : ∀ validated (s' : NodeState ω),
        ¬(params.validateTopics = true ∧ Uninferable env topics (env.getState .kafka s.env).2) →
        ((∃ entry ∈ validated, entry.Malformed) ↔ ∃ entry ∈ topics, entry.Malformed) →
        wp (ofExcept (buildTopicToolsPlan validated) >>= fun plan =>
            pure (state, validated, plan)) (fun _ _ => ¬Refusal params env topics s.env)
          (fun _ _ => Refusal params env topics s.env) s' := by
      intro validated s' hinferable hmalformed
      refine wp_bind.mpr (wp_ofExcept.mpr ⟨fun plan hok hrefusal => ?_, fun message herror => ?_⟩)
      · cases hrefusal with
        | empty h => exact hempty (List.isEmpty_iff.mpr h)
        | unreadable h => exact h state hstate
        | uninferable hvalidate h => exact hinferable ⟨hvalidate, h⟩
        | malformed entry hentry h =>
          obtain ⟨message, herror⟩ :=
            buildTopicToolsPlan_error_iff.mpr (hmalformed.mpr ⟨entry, hentry, h⟩)
          rw [hok] at herror
          cases herror
      · obtain ⟨entry, hentry, h⟩ :=
          hmalformed.mp (buildTopicToolsPlan_error_iff.mp ⟨message, herror⟩)
        exact .malformed entry hentry h
    rw [wp_pure, wp_bind, validateSelection]
    by_cases hvalidate : params.validateTopics = true
    · rw [if_pos hvalidate]
      refine wp_mono wp_inferMissingTypes_exact (fun validated s' hvalidated => ?_)
        fun _ _ h => .uninferable hvalidate h
      exact hplan validated s' (fun h => hvalidated.1 h.2) hvalidated.2
    · rw [if_neg hvalidate]
      exact hplan topics _ (fun h => hvalidate h.1) Iff.rfl

/-- A request that does more than ask. -/
def Rpc.Disturbs : Rpc → Prop
  | .getState _ => False
  | .introspectionWait => False
  | .getTopics => False
  | .changeState _ _ => True
  | .setSubscriptionsYaml _ _ => True
  | .loadNode _ => True
  | .unloadNode _ => True
  | .setIntrospectionEnabled _ => True

/-- Between the two states nothing was done but asking. -/
structure OnlyAsked (s s' : NodeState (ω × List Rpc)) : Prop where
  ctl : s'.ctl = s.ctl
  calls : ∃ calls, s'.env.2 = s.env.2 ++ calls ∧ ∀ rpc ∈ calls, ¬rpc.Disturbs

variable {clock : ω × List Rpc → Time} {s : NodeState (ω × List Rpc)}

namespace OnlyAsked

protected theorem refl : OnlyAsked s s :=
  ⟨rfl, [], (List.append_nil _).symm, fun _ h => absurd h List.not_mem_nil⟩

/-- One more request that only asks. -/
theorem asks {α : Type} {s₀ : NodeState (ω × List Rpc)} {rpc : Rpc} {f : ω → α × ω}
    (hrpc : ¬rpc.Disturbs) : Preserves (OnlyAsked s₀) (request (recorded rpc f)) := by
  rintro s ⟨hctl, calls, hcalls, hasked⟩
  refine ⟨hctl, calls ++ [rpc], ?_, fun call hcall => ?_⟩
  · change s.env.2 ++ [rpc] = _
    rw [hcalls, List.append_assoc]
  · rcases List.mem_append.mp hcall with hcall | hcall
    · exact hasked call hcall
    · rwa [List.mem_singleton.mp hcall]

theorem inferMissingTypes :
    Preserves (OnlyAsked s) (inferMissingTypes (env.recording clock) topics) := by
  refine .ite (.bind (asks id) fun _ => .ite (.bind (asks id) fun answer => ?_)
    (fail_preserves (.text (by decide)))) .pure
  cases answer with
  | none => exact fail_preserves (.text (by decide))
  | some answer => exact ofExcept_keeps fun message h => ⟨message, rfl, completeTypes_text h⟩

/-- The part of `apply_selection` before the first side effect only asks. -/
theorem prepareSelection :
    Preserves (OnlyAsked s)
      (prepareSelection params (env.recording clock) topics) := by
  have hstate : Preserves (OnlyAsked s)
      (getSinkState params (env.recording clock) .kafka) :=
    .ite (.bind (asks id) fun result => by cases result <;> exact .pure) .pure
  refine .ite (fail_preserves (.text (by decide))) (.bind hstate fun state => ?_)
  cases state with
  | none => exact fail_preserves (.text (by decide))
  | some state =>
    exact .bind (.ite inferMissingTypes .pure) fun _ =>
      .bind buildTopicToolsPlan_preserves fun _ => .pure

end OnlyAsked

/-- Writing the requests down changes no answer. -/
theorem Refusal.recording {w : ω × List Rpc} (h : Refusal params env topics w.1) :
    Refusal params (env.recording clock) topics w := by
  cases h with
  | empty h => exact .empty h
  | unreadable h => exact .unreadable h
  | uninferable hvalidate h => exact .uninferable hvalidate h
  | malformed entry hentry h => exact .malformed entry hentry h

/-- **A refused selection disturbs nothing.** In every state and every environment, an
`apply_selection` that is refused fails, has written no member, and has only asked for the
state of kafka_sink and for the topics. -/
theorem applySelection_refused (h : Refusal params env topics s.env.1) :
    ∃ message s', applySelection params (env.recording clock) topics s =
      .error (.error message) s' ∧ OnlyAsked s s' := by
  have hprepared := wp_and (m := prepareSelection params (env.recording clock) topics)
    prepareSelection_refuses (OnlyAsked.prepareSelection s .refl)
  have hrun : wp (applySelection params (env.recording clock) topics) (fun _ _ => False)
      (fun failure s' => failure.IsOwn ∧ OnlyAsked s s') s :=
    wp_bind.mpr (wp_mono hprepared (fun _ _ hok => absurd h.recording hok.1)
      fun _ _ herror => herror.2)
  obtain ⟨failure, s', hresult, ⟨message, rfl, _⟩, hasked⟩ := exists_error_of_wp hrun
  exact ⟨message, s', hresult, hasked⟩

/-- While kafka_sink streams, a selection whose last entry has a tool without a plugin is
refused. -/
theorem applySelection_refused_plugin :
    let s : NodeState (World × List Rpc) :=
      ⟨{ appliedSelection := { topics := [{ topic := ⟨"/c", "T"⟩ }] } },
        ⟨{ Fleet.fresh with kafka := ⟨.active [⟨"/c", "T"⟩], [⟨"/c", "T"⟩]⟩ }, []⟩, []⟩
    ∃ message s', applySelection Setting.default.params
      ((Setting.default.environment {}).recording fun _ => 0)
      [{ topic := ⟨"/a", "T"⟩ },
        { topic := ⟨"/b", "T"⟩, topicTools := some { enabled := true } }] s =
        .error (.error message) s' ∧ OnlyAsked s s' :=
  applySelection_refused (.malformed _ (.tail _ (.head _)) (.inr ⟨_, rfl, rfl, rfl⟩))

end Refusals

end Ros2Dispatcher
