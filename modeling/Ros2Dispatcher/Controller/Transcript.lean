import Ros2Dispatcher.Controller.Handlers

/-!
# The two mode pipelines, line by line

`handle_reload_selection` and `switch_mode` each write out the whole way from a mode to an
applied selection: three branches that load or discover, complete, plan and cache, and a
common end that plans, checks the size and applies. This file follows the source there
statement by statement, with its local variables and early returns, and shows that each is
the handler of the same name, which shares those steps with the other
(`handleReloadSelection_eq`, `switchMode_eq`).
-/

namespace Ros2Dispatcher

open Procedure

namespace Transcript

section Source

variable {ω : Type} (params : Parameters) (env : Environment ω)

/-- `handle_reload_selection`, as written. -/
def handleReloadSelection (filePath : String) (applyNow : Bool) : Controlled ω Response := do
  let ctl ← members
  if ctl.phase = .busy then
    return ⟨false, "Controller busy"⟩
  let mut selection : List TopicSelection := []
  let mut plan : TopicToolsPlan := {}
  if ctl.selectionMode = .file then
    let path := if filePath.isEmpty then ctl.selectionFilePath else filePath
    match ← tryCall (readSelectionFile env path) with
    | .error error => return ← explain env error
    | .ok loaded => selection := loaded
    match ← tryCall (inferMissingTypes env selection) with
    | .error error => return ← explain env ("Failed to infer types: " ++ error)
    | .ok completed => selection := completed
    match buildTopicToolsPlan selection with
    | .error error => return ← explain env error
    | .ok planned => plan := planned
    let stamp ← now env
    update fun ctl => { ctl with lastFileSelection := ⟨selection, plan.sinkTopics, stamp⟩ }
  else if ctl.selectionMode = .all then
    match ← tryCall (discoverAllTopics params env) with
    | .error error => return ← explain env error
    | .ok discovered => selection := discovered
    match buildTopicToolsPlan selection with
    | .error error => return ← explain env error
    | .ok planned => plan := planned
    let stamp ← now env
    update fun ctl => { ctl with lastAllSelection := ⟨selection, plan.sinkTopics, stamp⟩ }
  else
    if ctl.lastGuiSelection.topics.isEmpty then
      return ⟨false, "No cached GUI selection to reload"⟩
    selection := ctl.lastGuiSelection.topics
    plan := { plan with sinkTopics := ctl.lastGuiSelection.sinkTopics }
  if plan.sinkTopics.isEmpty && !selection.isEmpty then
    match buildTopicToolsPlan selection with
    | .error error => return ← explain env error
    | .ok planned => plan := planned
  match ensureTopicLimits params selection with
  | .error error => return ← explain env error
  | .ok _ => pure ⟨⟩
  if applyNow then
    update fun ctl => { ctl with phase := .busy }
    match ← tryCall (applySelection params env selection) with
    | .error error =>
      update fun ctl => { ctl with phase := .error }
      return ← explain env error
    | .ok _ => pure ⟨⟩
    update fun ctl => { ctl with phase := .idle }
  return ⟨true, if applyNow then "Selection reloaded and applied" else "Selection reloaded"⟩

/-- `switch_mode`, as written; `return false` is a failure with the text of `error_out`. -/
def switchMode (newMode : SelectionMode) (filePath : String) (applyNow : Bool) :
    Controlled ω PUnit := do
  let ctl ← members
  if ctl.phase = .busy then
    fail "Controller busy"
  update fun ctl => { ctl with selectionMode := newMode }
  if !filePath.isEmpty then
    update fun ctl => { ctl with selectionFilePath := filePath }
  let ctl ← members
  let mut selection : List TopicSelection := []
  let mut plan : TopicToolsPlan := {}
  if applyNow then
    if newMode = .gui then
      if !ctl.lastGuiSelection.topics.isEmpty then
        selection := ctl.lastGuiSelection.topics
        plan := { plan with sinkTopics := ctl.lastGuiSelection.sinkTopics }
      else
        return ⟨⟩
    else if newMode = .file then
      if ctl.selectionFilePath.isEmpty then
        fail "selection_file_path is empty"
      selection ← readSelectionFile env ctl.selectionFilePath
      selection ← inferMissingTypes env selection
      plan ← ofExcept (buildTopicToolsPlan selection)
      let stamp ← now env
      update fun ctl => { ctl with lastFileSelection := ⟨selection, plan.sinkTopics, stamp⟩ }
    else
      selection ← discoverAllTopics params env
      plan ← ofExcept (buildTopicToolsPlan selection)
      let stamp ← now env
      update fun ctl => { ctl with lastAllSelection := ⟨selection, plan.sinkTopics, stamp⟩ }
    if plan.sinkTopics.isEmpty && !selection.isEmpty then
      plan ← ofExcept (buildTopicToolsPlan selection)
    ofExcept (ensureTopicLimits params selection)
    update fun ctl => { ctl with phase := .busy }
    match ← tryCall (applySelection params env selection) with
    | .error error =>
      update fun ctl => { ctl with phase := .error }
      fail error
    | .ok _ => pure ⟨⟩
    update fun ctl => { ctl with phase := .idle }

/-- `handle_set_selection_mode`, as written. -/
def handleSetSelectionMode (mode filePath : String) (applyNow : Bool) :
    Controlled ω Response := do
  match parseMode mode with
  | none => return ⟨false, "Invalid selection_mode. Use gui|file|all."⟩
  | some mode =>
    match ← tryCall (switchMode params env mode filePath applyNow) with
    | .error error => return ⟨false, error⟩
    | .ok _ => pure ⟨⟩
    update fun ctl => { ctl with
      selectionFilePath := if filePath.isEmpty then ctl.selectionFilePath else filePath }
    return ⟨true, "Mode switched to " ++ modeToString mode⟩

end Source

/-! ### The shared steps -/

section Steps

variable {ω : Type} {params : Parameters} {env : Environment ω}

/-- Handing an error on with the same text does nothing. -/
theorem tryCall_rethrow {α β : Type} {m : Controlled ω α}
    {k : Except String α → Controlled ω β} (hk : ∀ message, k (.error message) = fail message) :
    tryCall m >>= k = m >>= fun a => k (.ok a) := by
  funext s
  simp only [tryCall, attempt, bind, EStateM.bind]
  rcases m s with ⟨a, s'⟩ | ⟨_ | _, s'⟩
  · rfl
  · exact congrFun (hk _) s'
  · rfl

theorem tryCall_bind_eq {α β γ : Type} {m : Controlled ω α} {f : α → Controlled ω β}
    {k : Except String β → Controlled ω γ} {g : Except String α → Controlled ω γ}
    (herror : ∀ message, k (.error message) = g (.error message))
    (hok : ∀ a, tryCall (f a) >>= k = g (.ok a)) : tryCall (m >>= f) >>= k = tryCall m >>= g :=
  attempt_bind_eq herror hok

/-- What is caught inside is not caught again. -/
theorem tryCall_tryCall_bind {α β γ : Type} {m : Controlled ω α}
    {f : Except String α → Controlled ω β} {k : Except String β → Controlled ω γ} :
    tryCall (tryCall m >>= f) >>= k = tryCall m >>= fun answer => tryCall (f answer) >>= k := by
  funext s
  simp only [tryCall, attempt, bind, EStateM.bind]
  rcases m s with ⟨a, s'⟩ | ⟨_ | _, s'⟩ <;> rfl

/-- Caching a selection cannot fail. -/
theorem tryCall_stamp_bind {α β γ : Type} {a : α} {f : Time → Controller → Controller}
    {g : α → Controlled ω β} {k : Except String β → Controlled ω γ} :
    tryCall ((now env >>= fun stamp => update (f stamp) >>= fun _ => pure a) >>= g) >>= k =
      now env >>= fun stamp => update (f stamp) >>= fun _ => tryCall (g a) >>= k :=
  rfl

/-- The end of `switch_mode`. -/
theorem commitSelection_eq {selection : List TopicSelection} {sinkTopics : List TopicInfo} :
    (do
      if sinkTopics.isEmpty && !selection.isEmpty then
        let _ ← ofExcept (buildTopicToolsPlan selection)
      ofExcept (ensureTopicLimits params selection)
      update fun ctl => { ctl with phase := .busy }
      match ← tryCall (applySelection params env selection) with
      | .error error =>
        update fun ctl => { ctl with phase := .error }
        fail error
      | .ok _ => pure ⟨⟩
      update fun ctl => { ctl with phase := .idle }) =
    commitSelection params env selection sinkTopics true := by
  unfold commitSelection applyInPhase
  cases sinkTopics.isEmpty && !selection.isEmpty with
  | true => cases buildTopicToolsPlan selection <;> rfl
  | false => rfl

/-- What a caller of `apply_selection` does between the phases. -/
theorem tryCall_applyInPhase {α : Type} {selection : List TopicSelection}
    {k : Except String PUnit → Controlled ω α} :
    (do
      update fun ctl => { ctl with phase := .busy }
      match ← tryCall (applySelection params env selection) with
      | .error error =>
        update fun ctl => { ctl with phase := .error }
        k (.error error)
      | .ok _ =>
        update fun ctl => { ctl with phase := .idle }
        k (.ok ⟨⟩)) = tryCall (applyInPhase params env selection) >>= k := by
  funext s
  unfold applyInPhase
  simp only [tryCall, attempt, bind, EStateM.bind, update_run]
  rcases applySelection params env selection _ with ⟨_, s'⟩ | ⟨_ | _, s'⟩ <;> rfl

/-- The end of `handle_reload_selection`. -/
theorem answerReload_commitSelection {selection : List TopicSelection}
    {sinkTopics : List TopicInfo} {applyNow : Bool} :
    (do
      if sinkTopics.isEmpty && !selection.isEmpty then
        match buildTopicToolsPlan selection with
        | .error error => return ← explain env error
        | .ok _ => pure ⟨⟩
      match ensureTopicLimits params selection with
      | .error error => return ← explain env error
      | .ok _ => pure ⟨⟩
      if applyNow then
        update fun ctl => { ctl with phase := .busy }
        match ← tryCall (applySelection params env selection) with
        | .error error =>
          update fun ctl => { ctl with phase := .error }
          return ← explain env error
        | .ok _ => pure ⟨⟩
        update fun ctl => { ctl with phase := .idle }
      return ⟨true,
        if applyNow then "Selection reloaded and applied" else "Selection reloaded"⟩) =
    answerReload env applyNow
      (commitSelection params env selection sinkTopics applyNow) := by
  -- from the check of the limits on both go the same way
  have hlimited : (do
      match ensureTopicLimits params selection with
      | .error error => return ← explain env error
      | .ok _ => pure ⟨⟩
      if applyNow then
        update fun ctl => { ctl with phase := .busy }
        match ← tryCall (applySelection params env selection) with
        | .error error =>
          update fun ctl => { ctl with phase := .error }
          return ← explain env error
        | .ok _ => pure ⟨⟩
        update fun ctl => { ctl with phase := .idle }
      return ⟨true,
        if applyNow then "Selection reloaded and applied" else "Selection reloaded"⟩) =
    answerReload env applyNow (do
      ofExcept (ensureTopicLimits params selection)
      if applyNow then applyInPhase params env selection else pure ⟨⟩) := by
    cases ensureTopicLimits params selection with
    | error message => rfl
    | ok _ =>
      cases applyNow with
      | false => rfl
      | true =>
        unfold answerReload
        refine Eq.trans ?_ tryCall_applyInPhase
        refine bind_congr fun _ => bind_congr fun answer => ?_
        cases answer <;> rfl
  unfold commitSelection
  cases sinkTopics.isEmpty && !selection.isEmpty with
  | true =>
    cases buildTopicToolsPlan selection with
    | error message => rfl
    | ok plan => exact hlimited
  | false => exact hlimited

end Steps

section Equalities

variable {ω : Type} {params : Parameters} {env : Environment ω} {filePath : String}
variable {applyNow : Bool}

/-- `switch_mode` as written is the one with shared steps. -/
theorem switchMode_eq {newMode : SelectionMode} :
    switchMode params env newMode filePath applyNow =
      Ros2Dispatcher.switchMode params env newMode filePath applyNow := by
  -- the two members are written one after the other, or at once
  have hwrite : ∀ k : Controller → Controlled ω PUnit, (do
      update fun ctl => { ctl with selectionMode := newMode }
      if !filePath.isEmpty then
        update fun ctl => { ctl with selectionFilePath := filePath }
      let ctl ← members
      k ctl) = (do
      update fun ctl =>
        { ctl with
          selectionMode := newMode
          selectionFilePath := if filePath.isEmpty then ctl.selectionFilePath else filePath }
      let ctl ← members
      k ctl) := by
    intro k
    cases filePath.isEmpty <;> rfl
  unfold switchMode Ros2Dispatcher.switchMode
  refine bind_congr fun ctl => ?_
  dsimp only
  by_cases hbusy : ctl.phase = .busy
  · rw [if_pos hbusy, if_pos hbusy]
    rfl
  rw [if_neg hbusy, if_neg hbusy, hwrite]
  refine bind_congr fun _ => bind_congr fun ctl => ?_
  split
  · cases newMode with
    | gui =>
      rw [if_pos rfl]
      dsimp only
      by_cases hempty : ctl.lastGuiSelection.topics.isEmpty
      · rw [if_neg (by rw [hempty]; decide), if_pos hempty]
      · rw [if_pos (by simpa using hempty), if_neg hempty]
        exact commitSelection_eq
    | file =>
      rw [if_neg (by decide), if_pos rfl]
      dsimp only
      split
      · rfl
      unfold refreshFileSelection
      rw [bind_assoc]
      refine bind_congr fun loaded => ?_
      rw [tryCall_rethrow fun _ => congrArg fail String.empty_append,
        bind_assoc]
      refine bind_congr fun selection => ?_
      dsimp only
      rw [bind_assoc]
      refine bind_congr fun plan => ?_
      exact bind_congr fun stamp => bind_congr fun _ => commitSelection_eq
    | all =>
      rw [if_neg (by decide), if_neg (by decide)]
      dsimp only
      unfold refreshAllSelection
      rw [bind_assoc]
      refine bind_congr fun selection => ?_
      rw [bind_assoc]
      refine bind_congr fun plan => ?_
      exact bind_congr fun stamp => bind_congr fun _ => commitSelection_eq
  · rfl

/-- `handle_reload_selection` as written is the one with shared steps. -/
theorem handleReloadSelection_eq :
    handleReloadSelection params env filePath applyNow =
      Ros2Dispatcher.handleReloadSelection params env filePath applyNow := by
  unfold handleReloadSelection Ros2Dispatcher.handleReloadSelection
  refine bind_congr fun ctl => ?_
  dsimp only
  by_cases hbusy : ctl.phase = .busy
  · rw [if_pos hbusy, if_pos hbusy]
  rw [if_neg hbusy, if_neg hbusy]
  cases hmode : ctl.selectionMode with
  | file =>
    rw [if_pos rfl]
    dsimp only
    unfold answerReload refreshFileSelection
    rw [bind_assoc]
    symm
    refine tryCall_bind_eq (fun _ => rfl) fun loaded => ?_
    dsimp only
    rw [bind_assoc, tryCall_tryCall_bind]
    refine bind_congr fun answer => ?_
    cases answer with
    | error message => rfl
    | ok selection =>
      have hend := @answerReload_commitSelection ω params env selection
      dsimp only
      cases hplan : buildTopicToolsPlan selection with
      | error message => rfl
      | ok plan =>
        rw [hplan] at hend
        simp only [ofExcept, pure_bind]
        rw [tryCall_stamp_bind]
        exact bind_congr fun stamp => bind_congr fun _ => (hend ..).symm
  | all =>
    rw [if_neg (by decide), if_pos rfl]
    dsimp only
    unfold answerReload refreshAllSelection
    rw [bind_assoc]
    symm
    refine tryCall_bind_eq (fun _ => rfl) fun selection => ?_
    have hend := @answerReload_commitSelection ω params env selection
    dsimp only
    cases hplan : buildTopicToolsPlan selection with
    | error message => rfl
    | ok plan =>
      rw [hplan] at hend
      simp only [ofExcept, pure_bind]
      rw [tryCall_stamp_bind]
      exact bind_congr fun stamp => bind_congr fun _ => (hend ..).symm
  | gui =>
    rw [if_neg (by decide), if_neg (by decide)]
    dsimp only
    split
    · rfl
    · exact answerReload_commitSelection

theorem handleSetSelectionMode_eq {mode : String} :
    handleSetSelectionMode params env mode filePath applyNow =
      Ros2Dispatcher.handleSetSelectionMode params env mode filePath applyNow := by
  unfold handleSetSelectionMode Ros2Dispatcher.handleSetSelectionMode
  cases parseMode mode with
  | none => rfl
  | some mode =>
    dsimp only
    rewrite [switchMode_eq]
    refine bind_congr fun answer => ?_
    cases answer <;> rfl

end Equalities

end Transcript

end Ros2Dispatcher
