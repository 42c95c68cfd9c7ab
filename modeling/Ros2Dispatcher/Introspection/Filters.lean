import Ros2Dispatcher.Fleet.Limits
import Ros2Dispatcher.Fleet.Validation
import Ros2Dispatcher.Introspection.Manager
import Ros2Dispatcher.Library.Tokens

/-!
# The filters of all mode

A topic is hidden if a segment of its name starts with an underscore; `is_topic_hidden` of the
introspection manager finds exactly these (`isTopicHidden_iff`). `discover_all_topics` has a
filter for hidden topics of its own, which looks at the first character of the whole name. The
name of a topic starts with a slash, so that filter never applies: discovery finds the topics
it should exactly if no hidden topic gets past the other filters, or if there are too many of
the others already (`discoversExactly_iff`).
-/

namespace Ros2Dispatcher

open Procedure Introspection

/-! ### Hidden topics -/

namespace Introspection

/-- A segment between slashes starts with an underscore. -/
def HasHiddenSegment (name : List Char) : Prop :=
  ∃ segment ∈ name.splitOn '/', segment.head? = some '_'

/-- The scan finds a hidden segment if there is one. -/
theorem isTopicHiddenFrom_iff (name : List Char) :
    isTopicHiddenFrom name = true ↔ HasHiddenSegment name := by
  induction name using isTopicHiddenFrom.induct with
  | case1 name hempty =>
    rw [isTopicHiddenFrom, if_pos hempty, List.isEmpty_iff.mp hempty]
    simp [HasHiddenSegment]
  | case2 name hname hhead =>
    rw [isTopicHiddenFrom, if_neg hname, if_pos hhead, HasHiddenSegment, Tokens.splitOn_eq_cons]
    exact iff_of_true rfl ⟨_, List.mem_cons_self, hhead⟩
  | case3 name hname hhead fromSlash hlast =>
    rw [isTopicHiddenFrom, if_neg hname, if_neg hhead, HasHiddenSegment, Tokens.splitOn_eq_cons,
      if_pos (List.isEmpty_iff.mp hlast), if_pos hlast]
    simpa using hhead
  | case4 name hname hhead fromSlash hlast ih =>
    rw [isTopicHiddenFrom, if_neg hname, if_neg hhead, HasHiddenSegment, Tokens.splitOn_eq_cons,
      if_neg fun h => hlast (List.isEmpty_iff.mpr h), if_neg hlast]
    rw [List.exists_mem_cons_iff, or_iff_right hhead]
    exact ih

/-- `is_topic_hidden` looks for a segment that starts with an underscore. -/
theorem isTopicHidden_iff {topicName : String} :
    isTopicHidden topicName = true ↔ HasHiddenSegment topicName.toList :=
  isTopicHiddenFrom_iff topicName.toList

/-- A name that itself starts with an underscore is hidden. -/
theorem isTopicHidden_of_head {topicName : String} (h : topicName.toList.head? = some '_') :
    isTopicHidden topicName = true := by
  rw [isTopicHidden_iff, HasHiddenSegment, Tokens.splitOn_eq_cons]
  refine ⟨_, List.mem_cons_self, ?_⟩
  obtain ⟨rest, hrest⟩ := List.head?_eq_some_iff.mp h
  rw [hrest, List.takeWhile_cons_of_pos (by decide)]
  rfl

end Introspection

/-! ### What discovery should find -/

/-- The topic passes the filters for `/rosout`, the allowlist and the denylist. -/
def Parameters.Selects (params : Parameters) (info : TopicInfo) : Prop :=
  ¬(params.allModeHideRosout = true ∧ info.name = "/rosout") ∧
    (params.allModeAllowlist = [] ∨ info.name ∈ params.allModeAllowlist) ∧
    info.name ∉ params.allModeDenylist

instance (params : Parameters) (info : TopicInfo) : Decidable (params.Selects info) :=
  inferInstanceAs (Decidable (_ ∧ _ ∧ _))

/-- The entries of an answer that are selected and not hidden. -/
def Parameters.wanted (params : Parameters) (answer : List TopicInfo) : List TopicSelection :=
  (answer.filter fun info => params.Selects info ∧ isTopicHidden info.name = false).map
    fun info => { topic := info }

/-- The filters of the source. -/
theorem Parameters.admits_iff {params : Parameters} {info : TopicInfo} :
    params.admits info = true ↔ params.Selects info ∧ info.name.toList.head? ≠ some '_' := by
  simp [Parameters.admits, Parameters.Selects, and_assoc, or_iff_not_imp_left]

/-- The answer `discover_all_topics` gets, if it gets one. -/
def Environment.discoveryAnswer {ω : Type} (env : Environment ω) (w : ω) :
    Option (List TopicInfo) :=
  let (available, w) := env.introspectionAvailable w
  if available then (env.requestTopics (env.setIntrospectionEnabled true w).2).1 else none

/-- The error of `ensure_topic_limits`. -/
def Parameters.LimitError (params : Parameters) (failure : Failure) : Prop :=
  ∃ selection message, ensureTopicLimits params selection = .error message ∧
    failure = .error message

/-- Whenever discovery gets this answer, it returns the wanted entries, and fails with the
limit error exactly if there are too many of them. -/
def Parameters.DiscoversExactly (params : Parameters) (answer : List TopicInfo) : Prop :=
  ∀ (ω : Type) (env : Environment ω) (s : NodeState ω), env.discoveryAnswer s.env = some answer →
    (∀ out s', discoverAllTopics params env s = .ok out s' → out = params.wanted answer) ∧
      ((∃ failure s', discoverAllTopics params env s = .error failure s' ∧
        params.LimitError failure) ↔ ¬params.Within (params.wanted answer))

section Discovery

variable {params : Parameters} {answer : List TopicInfo}

/-- Toggling the manager is one request, and its failures are reported. -/
theorem wp_setIntrospectionEnabled_request {ω : Type} {env : Environment ω} {enabled : Bool}
    {s : NodeState ω} :
    wp (setIntrospectionEnabled env enabled)
      (fun _ s' => s' = { s with env := (env.setIntrospectionEnabled enabled s.env).2 })
      (fun failure s' => failure.IsReported ∧
        s' = { s with env := (env.setIntrospectionEnabled enabled s.env).2 }) s := by
  rw [setIntrospectionEnabled, wp_bind, wp_request]
  cases (env.setIntrospectionEnabled enabled s.env).1 with
  | unavailable => exact ⟨⟨_, rfl⟩, rfl⟩
  | timeout => exact ⟨⟨_, rfl⟩, rfl⟩
  | reply results =>
    dsimp only
    cases firstFailure results with
    | none => exact rfl
    | some result => exact ⟨⟨_, rfl⟩, rfl⟩

/-- What discovery does with an answer. -/
theorem wp_discoverAllTopics_of_answer {ω : Type} {env : Environment ω} {s : NodeState ω}
    (params : Parameters) (h : env.discoveryAnswer s.env = some answer) :
    wp (discoverAllTopics params env)
      (fun out _ => out = params.discovered answer ∧ params.Within out)
      (fun failure _ => params.LimitError failure ∧ ¬params.Within (params.discovered answer))
      s := by
  unfold Environment.discoveryAnswer at h
  cases havailable : (env.introspectionAvailable s.env).1 with
  | false => simp [havailable] at h
  | true =>
    simp only [havailable, if_true] at h
    rw [discoverAllTopics, wp_bind, wp_request, havailable, if_pos rfl, wp_bind]
    have hchecked : ∀ s' : NodeState ω, wp (do
          ofExcept (ensureTopicLimits params (params.discovered answer))
          pure (params.discovered answer))
        (fun out _ => out = params.discovered answer ∧ params.Within out)
        (fun failure _ => params.LimitError failure ∧ ¬params.Within (params.discovered answer))
        s' := by
      intro s'
      refine wp_bind.mpr (wp_ofExcept.mpr ⟨fun _ hwithin => ?_, fun message herror => ?_⟩)
      · exact ⟨rfl, ensureTopicLimits_ok_iff.mp hwithin⟩
      · refine ⟨⟨_, message, herror, rfl⟩, fun hwithin => ?_⟩
        have hok := ensureTopicLimits_ok_iff.mpr hwithin
        exact absurd (herror.symm.trans hok) (by simp)
    -- whether the toggle succeeds or not, the query follows
    refine wp_tryCall (wp_mono wp_setIntrospectionEnabled_request (fun _ s' hs' => ?_) ?_)
    · rw [hs', wp_bind, wp_request, h]
      exact hchecked _
    · rintro _ s' ⟨⟨message, rfl⟩, hs'⟩
      refine ⟨fun _ _ => ?_, fun _ h' => by cases h'⟩
      rw [hs', wp_bind, wp_request, h]
      exact hchecked _

/-- What discovery should find are the entries it keeps that are not hidden. -/
theorem wanted_eq_filter : params.wanted answer =
    (params.discovered answer).filter fun sub => !isTopicHidden sub.topic.name := by
  rw [Parameters.wanted, Parameters.discovered, List.filter_map, List.filter_filter]
  refine congrArg (List.map _) (List.filter_congr fun info _ => ?_)
  rw [Bool.eq_iff_iff, decide_eq_true_iff, Bool.and_eq_true, Parameters.admits_iff]
  constructor
  · rintro ⟨hselected, hshown⟩
    refine ⟨by simpa using hshown, hselected, fun hhead => ?_⟩
    rw [isTopicHidden_of_head hhead] at hshown
    cases hshown
  · rintro ⟨hshown, hselected, -⟩
    exact ⟨hselected, by simpa using hshown⟩

/-- They are all the entries it keeps if no hidden topic gets past the filters. -/
theorem wanted_eq_discovered_iff : params.wanted answer = params.discovered answer ↔
    ∀ info ∈ answer, params.Selects info → isTopicHidden info.name = true →
      info.name.toList.head? = some '_' := by
  rw [wanted_eq_filter, List.filter_eq_self, Parameters.discovered, List.forall_mem_map]
  simp only [List.mem_filter, Parameters.admits_iff, Bool.not_eq_true']
  constructor
  · intro h info hinfo hselected hhidden
    by_contra hhead
    rw [h info ⟨hinfo, hselected, hhead⟩] at hhidden
    cases hhidden
  · rintro h info ⟨hinfo, hselected, hhead⟩
    by_contra hhidden
    exact hhead (h info hinfo hselected (Bool.not_eq_false _ ▸ hhidden))

theorem wanted_sublist : (params.wanted answer).Sublist (params.discovered answer) :=
  wanted_eq_filter ▸ List.filter_sublist

/-- An answer within the limit is returned. -/
theorem discoverAllTopics_ok {ω : Type} {env : Environment ω} {s : NodeState ω}
    (h : env.discoveryAnswer s.env = some answer)
    (hwithin : params.Within (params.discovered answer)) :
    ∃ s', discoverAllTopics params env s = .ok (params.discovered answer) s' := by
  obtain ⟨out, s', hout, rfl, -⟩ := exists_ok_of_wp
    (wp_mono (wp_discoverAllTopics_of_answer params h) (fun _ _ h' => h')
      fun _ _ h' => h'.2 hwithin)
  exact ⟨s', hout⟩

/-- An answer with too many entries fails discovery, and only such an answer. -/
theorem discovery_limitError_iff {ω : Type} {env : Environment ω} {s : NodeState ω}
    (h : env.discoveryAnswer s.env = some answer) :
    (∃ failure s', discoverAllTopics params env s = .error failure s' ∧
      params.LimitError failure) ↔ ¬params.Within (params.discovered answer) := by
  have hrun := wp_discoverAllTopics_of_answer params h
  constructor
  · rintro ⟨failure, s', herror, -⟩
    exact (of_wp_error hrun herror).2
  · intro hexceeds
    obtain ⟨failure, s', herror, hlimit, -⟩ := exists_error_of_wp
      (wp_mono hrun (fun _ _ hok => hexceeds (hok.1 ▸ hok.2)) fun _ _ h' => h')
    exact ⟨failure, s', herror, hlimit⟩

/-- Every answer can be given. -/
theorem discoveryAnswer_obliging : (Environment.obliging answer).discoveryAnswer ⟨⟩ = some answer :=
  rfl

/-- Below the limit, an exact filter keeps no hidden topic. -/
theorem Parameters.DiscoversExactly.wanted_eq (h : params.DiscoversExactly answer)
    (hwithin : params.Within (params.discovered answer)) :
    params.wanted answer = params.discovered answer := by
  obtain ⟨s', hout⟩ := discoverAllTopics_ok (s := (⟨{}, ⟨⟩⟩ : NodeState PUnit))
    discoveryAnswer_obliging hwithin
  exact ((h _ _ _ discoveryAnswer_obliging).1 _ s' hout).symm

/-- **All-mode discovery.** The filter is exact if no hidden topic gets past the other
filters, or the topics that are not hidden are too many already; and in no other case. -/
theorem discoversExactly_iff : params.DiscoversExactly answer ↔
    (∀ info ∈ answer, params.Selects info → isTopicHidden info.name = true →
      info.name.toList.head? = some '_') ∨ ¬params.Within (params.wanted answer) := by
  rw [← wanted_eq_discovered_iff]
  constructor
  · intro h
    by_cases hwithin : params.Within (params.discovered answer)
    · exact .inl (h.wanted_eq hwithin)
    · have hlimit := (discovery_limitError_iff (s := (⟨{}, ⟨⟩⟩ : NodeState PUnit))
        discoveryAnswer_obliging).mpr hwithin
      exact .inr ((h _ _ _ discoveryAnswer_obliging).2.mp hlimit)
  · intro h ω env s hanswer
    have hrun := wp_discoverAllTopics_of_answer params hanswer
    rw [discovery_limitError_iff hanswer]
    rcases h with heq | hexceeds
    · rw [heq]
      exact ⟨fun out s' hout => (of_wp_ok hrun hout).1, Iff.rfl⟩
    · -- what discovery keeps is at least as much
      have hmore : ¬params.Within (params.discovered answer) := fun hwithin =>
        hexceeds (wanted_sublist.length_le.trans hwithin)
      refine ⟨fun out s' hout => ?_, iff_of_true hmore hexceeds⟩
      obtain ⟨hdiscovered, hwithin⟩ := of_wp_ok hrun hout
      exact absurd (hdiscovered ▸ hwithin) hmore

/-- A hidden topic with an absolute name is discovered. -/
theorem hidden_topic_discovered :
    ¬({} : Parameters).DiscoversExactly [⟨"/_internal", "std_msgs/msg/String"⟩] := by
  intro h
  have hwanted := h.wanted_eq (show List.length _ ≤ 200 by decide +kernel)
  exact absurd (congrArg List.length hwanted) (by decide +kernel)

end Discovery

end Ros2Dispatcher
