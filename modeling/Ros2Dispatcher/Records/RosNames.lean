import Ros2Dispatcher.Library.NormalPaths
import Ros2Dispatcher.Records.CdrPath

/-!
# Full topic names

The names ROS 2 takes for a topic, in their absolute form: normal paths of at least one token,
where a token consists of letters, digits and underscores and does not begin with a digit.
-/

namespace Ros2Dispatcher

open Tokens

/-- A token of a topic name. -/
def isNameToken (token : List Char) : Bool :=
  token.all isNameChar && !token.head?.any Char.isDigit

/-- The rules for a full topic name. -/
def isFullTopicName (name : String) : Bool :=
  decide (Normal '/' name.toList) && !(tokensOf '/' name.toList).isEmpty &&
    (tokensOf '/' name.toList).all isNameToken

/-- The path of some tokens is a full name if there are any and they are all tokens of a name. -/
theorem isFullTopicName_path {tokens : List (List Char)} (h : Proper '/' tokens) :
    isFullTopicName (String.ofList (path '/' tokens)) =
      (!tokens.isEmpty && tokens.all isNameToken) := by
  rw [isFullTopicName, String.toList_ofList, h.tokensOf_path]
  by_cases htokens : tokens = []
  · simp [htokens]
  · rw [decide_eq_true (h.normal htokens), Bool.true_and]

/-- The root is not a full name. -/
theorem isFullTopicName_root : isFullTopicName "/" = false := by
  decide +kernel

/-- A full name is a normal path. -/
theorem normal_of_isFullTopicName {name : String} (h : isFullTopicName name = true) :
    Normal '/' name.toList := by
  simp only [isFullTopicName, Bool.and_eq_true, decide_eq_true_eq] at h
  exact h.1.1

theorem ne_empty_of_isFullTopicName {name : String} (h : isFullTopicName name = true) :
    name ≠ "" := by
  rintro rfl
  cases (normal_of_isFullTopicName h).head

/-- A full name is of slashes and the letters of tokens. -/
theorem eq_or_isNameChar_of_mem {name : String} (h : isFullTopicName name = true) {c : Char}
    (hc : c ∈ name.toList) : c = '/' ∨ isNameChar c = true := by
  have hnormal := normal_of_isFullTopicName h
  simp only [isFullTopicName, Bool.and_eq_true, List.all_eq_true] at h
  by_cases hroot : name.toList = ['/']
  · rw [hroot] at hc
    exact .inl (List.mem_singleton.mp hc)
  · rw [hnormal.eq_path hroot] at hc
    by_contra hneither
    obtain ⟨hslash, hletter⟩ := not_or.mp hneither
    refine notMem_path hslash (fun token htoken hmem => hletter ?_) hc
    have hname := h.2 token htoken
    rw [isNameToken, Bool.and_eq_true, List.all_eq_true] at hname
    exact hname.1 c hmem

end Ros2Dispatcher
