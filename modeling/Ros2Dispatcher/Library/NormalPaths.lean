import Mathlib.Data.List.Basic
import Ros2Dispatcher.Library.Tokens

/-!
# Normal paths

A normal path begins with its separator, has no two of them next to each other and ends in one
only if it is nothing else (`Normal`). It is known by its tokens, the nonempty pieces between
separators (`tokensOf`): the root is the normal path without any, and another one is the path of
its tokens (`Normal.eq_path`).

Collapsing separators and dropping one at an end keep the tokens of a word, and make it normal
if it begins with a separator: `normalPath_eq` computes what comes out.
-/

namespace Ros2Dispatcher.Tokens

variable {α : Type} {a sep : α} {word word' : List α}

/-! ### Normal paths -/

/-- A word that begins with the separator, has no two of them next to each other and does not
end in one unless it is the separator alone. -/
structure Normal (sep : α) (word : List α) : Prop where
  head : word.head? = some sep
  chain : word.IsChain fun a b => ¬(a = sep ∧ b = sep)
  last : word.getLast? = some sep → word = [sep]

/-- The root. -/
theorem Normal.root : Normal sep [sep] :=
  ⟨rfl, .singleton sep, fun _ => rfl⟩

/-- A path of proper tokens is normal. -/
theorem Proper.normal {tokens : List (List α)} (h : Proper sep tokens) (htokens : tokens ≠ []) :
    Normal sep (path sep tokens) := by
  refine ⟨?_, h.isChain_path, fun hlast => absurd hlast h.getLast?_path_ne⟩
  rw [← cons_tail_path htokens, List.head?_cons]

variable [DecidableEq α]

instance (sep : α) (word : List α) : Decidable (Normal sep word) :=
  decidable_of_iff (word.head? = some sep ∧ (word.IsChain fun a b => ¬(a = sep ∧ b = sep)) ∧
      (word.getLast? = some sep → word = [sep]))
    ⟨fun h => ⟨h.1, h.2.1, h.2.2⟩, fun h => ⟨h.head, h.chain, h.last⟩⟩

/-! ### The tokens of a word -/

/-- The nonempty pieces between separators. -/
def tokensOf (sep : α) (word : List α) : List (List α) :=
  (word.splitOn sep).filter fun token => !token.isEmpty

@[simp]
theorem tokensOf_nil : tokensOf sep [] = [] := by
  simp [tokensOf, List.splitOn_eq_splitOnP]

/-- A separator ends one piece and begins the next. -/
theorem tokensOf_append_cons (word word' : List α) :
    tokensOf sep (word ++ sep :: word') = tokensOf sep word ++ tokensOf sep word' := by
  rw [tokensOf, List.splitOn_append_cons_self, List.filter_append, tokensOf, tokensOf]

@[simp]
theorem tokensOf_cons_self : tokensOf sep (sep :: word) = tokensOf sep word := by
  calc tokensOf sep (sep :: word) = tokensOf sep ([] ++ sep :: word) := rfl
    _ = tokensOf sep word := by rw [tokensOf_append_cons, tokensOf_nil, List.nil_append]

theorem tokensOf_concat_self : tokensOf sep (word ++ [sep]) = tokensOf sep word := by
  rw [tokensOf_append_cons, tokensOf_nil, List.append_nil]

/-- A nonempty word without a separator is one token. -/
theorem tokensOf_token (hne : word ≠ []) (hsep : sep ∉ word) : tokensOf sep word = [word] := by
  rw [tokensOf, List.splitOn_eq_singleton hsep]
  simpa using hne

theorem tokensOf_dropTrailing : tokensOf sep (dropTrailing sep word) = tokensOf sep word := by
  unfold dropTrailing
  split
  next hlast =>
    have hword : word.dropLast ++ [sep] = word := List.dropLast_append_getLast? sep hlast
    calc tokensOf sep word.dropLast
        = tokensOf sep (word.dropLast ++ [sep]) := tokensOf_concat_self.symm
      _ = tokensOf sep word := by rw [hword]
  · rfl

theorem tokensOf_addLeading : tokensOf sep (addLeading sep word) = tokensOf sep word := by
  unfold addLeading
  split
  · rfl
  · exact tokensOf_cons_self

/-- The first piece of a word is empty if the word begins with a separator or is empty. -/
private theorem exists_pieces (sep : α) (word : List α) :
    ∃ piece pieces, word.splitOn sep = piece :: pieces ∧
      (piece = [] ↔ ∀ c ∈ word.head?, c = sep) := by
  cases word with
  | nil => exact ⟨[], [], by simp [List.splitOn_eq_splitOnP], by simp⟩
  | cons c word =>
    obtain ⟨piece, pieces, hpieces⟩ := List.exists_cons_of_ne_nil (List.splitOn_ne_nil sep word)
    rw [List.splitOn_cons_eq_if_modifyHead, hpieces]
    by_cases hc : c = sep
    · exact ⟨[], piece :: pieces, by simp [hc], by simp [hc]⟩
    · exact ⟨c :: piece, pieces, by simp [hc], by simp [hc]⟩

/-- Words with the same tokens that begin alike keep them behind one more letter. -/
theorem tokensOf_cons_congr (hhead : word.head? = word'.head?)
    (h : tokensOf sep word = tokensOf sep word') :
    tokensOf sep (a :: word) = tokensOf sep (a :: word') := by
  by_cases ha : a = sep
  · rw [ha, tokensOf_cons_self, tokensOf_cons_self, h]
  · obtain ⟨piece, pieces, hpieces, hempty⟩ := exists_pieces sep word
    obtain ⟨piece', pieces', hpieces', hempty'⟩ := exists_pieces sep word'
    have hboth : piece = [] ↔ piece' = [] := by rw [hempty, hempty', hhead]
    simp only [tokensOf, List.splitOn_cons_eq_if_modifyHead, hpieces, hpieces', beq_iff_eq,
      if_neg ha, List.modifyHead_cons] at h ⊢
    by_cases hpiece : piece = []
    · have hpiece' := hboth.mp hpiece
      simpa [hpiece, hpiece'] using h
    · have hpiece' : piece' ≠ [] := fun hnil => hpiece (hboth.mpr hnil)
      simpa [hpiece, hpiece'] using h

/-! ### Collapsing -/

/-- A word behind a letter, collapsed: the letter stays in front and the tokens stay the same. -/
private theorem destutter'_tokens (a : α) (word : List α) :
    (word.destutter' (fun a b => ¬(a = sep ∧ b = sep)) a).head? = some a ∧
      tokensOf sep (word.destutter' (fun a b => ¬(a = sep ∧ b = sep)) a) =
        tokensOf sep (a :: word) := by
  induction word generalizing a with
  | nil => exact ⟨rfl, rfl⟩
  | cons b word ih =>
    by_cases hkeep : ¬(a = sep ∧ b = sep)
    · rw [List.destutter'_cons_pos _ hkeep]
      exact ⟨rfl, tokensOf_cons_congr (ih b).1 (ih b).2⟩
    -- the second of two separators is dropped
    · obtain ⟨rfl, rfl⟩ := not_not.mp hkeep
      rw [List.destutter'_cons_neg _ hkeep]
      exact ⟨(ih b).1, (ih b).2.trans tokensOf_cons_self.symm⟩

/-- Collapsing keeps the first letter. -/
theorem head?_collapse : (collapse sep word).head? = word.head? := by
  cases word with
  | nil => rfl
  | cons a word => exact (destutter'_tokens a word).1

theorem tokensOf_collapse : tokensOf sep (collapse sep word) = tokensOf sep word := by
  cases word with
  | nil => rfl
  | cons a word => exact (destutter'_tokens a word).2

/-! ### What a normal path consists of -/

/-- The nonempty pieces do not contain the separator. -/
theorem tokensOf_proper (sep : α) (word : List α) : Proper sep (tokensOf sep word) := by
  have hpieces : ∀ piece ∈ word.splitOn sep, sep ∉ piece := by
    induction word with
    | nil => simp [List.splitOn_eq_splitOnP]
    | cons c word ih =>
      obtain ⟨piece, pieces, hsplit⟩ := List.exists_cons_of_ne_nil (List.splitOn_ne_nil sep word)
      rw [List.splitOn_cons_eq_if_modifyHead, hsplit]
      rw [hsplit, List.forall_mem_cons] at ih
      by_cases hc : c = sep
      · simpa [hc] using ih
      · simpa [hc, Ne.symm hc] using ih
  intro token htoken
  obtain ⟨hmem, hne⟩ := List.mem_filter.mp htoken
  exact ⟨by simpa using hne, hpieces token hmem⟩

/-- The tokens of a path are the ones it is made of. -/
theorem Proper.tokensOf_path {tokens : List (List α)} (h : Proper sep tokens) :
    tokensOf sep (path sep tokens) = tokens := by
  induction tokens with
  | nil => exact tokensOf_nil
  | cons token tokens ih =>
    obtain ⟨⟨hne, hsep⟩, hrest⟩ := List.forall_mem_cons.mp h
    rw [path_cons, List.cons_append, tokensOf_cons_self]
    by_cases htokens : tokens = []
    · rw [htokens, path_nil, List.append_nil, tokensOf_token hne hsep]
    · have htail : tokensOf sep (path sep tokens).tail = tokens := by
        rw [← tokensOf_cons_self, cons_tail_path htokens, ih hrest]
      rw [← cons_tail_path htokens, tokensOf_append_cons, htail, tokensOf_token hne hsep]
      rfl

/-- A path without its leading separator has the same tokens. -/
theorem Proper.tokensOf_tail_path {tokens : List (List α)} (h : Proper sep tokens) :
    tokensOf sep (path sep tokens).tail = tokens := by
  by_cases htokens : tokens = []
  · rw [htokens]
    exact tokensOf_nil
  · rw [← tokensOf_cons_self, cons_tail_path htokens, h.tokensOf_path]

/-- Behind the separator a normal path goes on with a token, and ends there or goes on with
another normal path. -/
theorem Normal.exists_token (h : Normal sep word) (hroot : word ≠ [sep]) :
    ∃ token, token ≠ [] ∧ sep ∉ token ∧ (word = sep :: token ∨
      ∃ rest, word = sep :: token ++ rest ∧ Normal sep rest ∧ rest ≠ [sep]) := by
  obtain ⟨rest, rfl⟩ : ∃ rest, word = sep :: rest := by
    cases word with
    | nil => cases h.head
    | cons c rest => exact ⟨rest, by rw [← Option.some.inj h.head]⟩
  have hrest : rest ≠ [] := fun hnil => hroot (by rw [hnil])
  have hhead : rest.head? ≠ some sep := by
    intro hhead
    exact (List.isChain_cons.mp h.chain).1 sep hhead ⟨rfl, rfl⟩
  have hsplit := List.takeWhile_append_dropWhile (p := fun c => decide (c ≠ sep)) (l := rest)
  refine ⟨rest.takeWhile (fun c => decide (c ≠ sep)), ?_, ?_, ?_⟩
  · cases rest with
    | nil => exact absurd rfl hrest
    | cons c rest =>
      have hc : c ≠ sep := fun heq => hhead (congrArg some heq)
      simp [hc]
  · intro hmem
    simpa using List.mem_takeWhile_imp hmem
  · cases hdrop : rest.dropWhile (fun c => decide (c ≠ sep)) with
    | nil =>
      rw [hdrop, List.append_nil] at hsplit
      exact .inl (congrArg (sep :: ·) hsplit.symm)
    | cons c after =>
      rw [hdrop] at hsplit
      obtain rfl : c = sep := by
        have hnot := List.head?_dropWhile_not (fun c => decide (c ≠ sep)) rest
        rw [hdrop] at hnot
        exact not_not.mp (of_decide_eq_false hnot)
      have hlast : (c :: after).getLast? = some c → (c :: rest).getLast? = some c := by
        intro hlast
        rw [← hsplit, List.getLast?_cons, List.getLast?_append, hlast]
        rfl
      have hend : (c :: after).getLast? ≠ some c := fun hlast' => hroot (h.last (hlast hlast'))
      refine .inr ⟨c :: after, congrArg (c :: ·) hsplit.symm, ⟨rfl, ?_, ?_⟩, ?_⟩
      · have hsuffix : c :: after <:+ rest := hsplit ▸ List.suffix_append _ _
        exact h.chain.suffix (hsuffix.trans (List.suffix_cons c rest))
      · exact fun hlast' => absurd hlast' hend
      · intro hroot'
        rw [hroot'] at hend
        exact hend rfl

/-- **A normal path is known by its tokens**: it is their path, if it is not the root. -/
theorem Normal.eq_path (h : Normal sep word) (hroot : word ≠ [sep]) :
    word = path sep (tokensOf sep word) := by
  induction hn : word.length using Nat.strong_induction_on generalizing word with
  | _ n ih =>
    obtain ⟨token, hne, hsep, rfl | ⟨rest, rfl, hrest, hroot'⟩⟩ := h.exists_token hroot
    · rw [tokensOf_cons_self, tokensOf_token hne hsep]
      simp
    · obtain ⟨after, rfl⟩ : ∃ after, rest = sep :: after := by
        cases rest with
        | nil => cases hrest.head
        | cons c after => exact ⟨after, by rw [← Option.some.inj hrest.head]⟩
      have htokens : tokensOf sep (sep :: token ++ sep :: after) =
          token :: tokensOf sep (sep :: after) := by
        rw [tokensOf_append_cons, tokensOf_cons_self, tokensOf_token hne hsep, tokensOf_cons_self]
        rfl
      have hlength : (sep :: after).length < n := by
        rw [← hn, List.length_append, @List.length_cons _ sep token]
        omega
      rw [htokens, path_cons, ← ih _ hlength hrest hroot' rfl]

/-! ### Normalizing -/

/-- A word that begins with the separator, without repeated separators and without one at its
end, as far as there is more than one letter. -/
def normalPath (sep : α) (word : List α) : List α :=
  let word := collapse sep word
  if 1 < word.length then dropTrailing sep word else word

theorem tokensOf_normalPath : tokensOf sep (normalPath sep word) = tokensOf sep word := by
  simp only [normalPath]
  split
  · rw [tokensOf_dropTrailing, tokensOf_collapse]
  · exact tokensOf_collapse

/-- Of a word that begins with the separator it makes a normal path. -/
theorem normal_normalPath (h : word.head? = some sep) : Normal sep (normalPath sep word) := by
  have hhead : (collapse sep word).head? = some sep := head?_collapse.trans h
  have hchain : (collapse sep word).IsChain fun a b => ¬(a = sep ∧ b = sep) :=
    List.isChain_destutter _ _
  simp only [normalPath]
  generalize collapse sep word = word' at hhead hchain
  split
  next hlong =>
    unfold dropTrailing
    split
    next hlast =>
      have hword : word'.dropLast ++ [sep] = word' := List.dropLast_append_getLast? sep hlast
      have hsplit := List.isChain_append.mp (hword.symm ▸ hchain)
      refine ⟨?_, hsplit.1, fun hend => absurd ⟨rfl, rfl⟩ (hsplit.2.2 sep hend sep rfl)⟩
      rwa [List.head?_dropLast, if_pos hlong]
    next hlast => exact ⟨hhead, hchain, fun hend => absurd hend hlast⟩
  next hshort =>
    have hroot : word' = [sep] := by
      cases word' with
      | nil => cases hhead
      | cons c rest =>
        have hrest : rest = [] := List.length_eq_zero_iff.mp (by simpa using hshort)
        rw [← Option.some.inj hhead, hrest]
    rw [hroot]
    exact .root

/-- What comes out is known by its tokens. -/
theorem normalPath_eq (h : word.head? = some sep) :
    normalPath sep word =
      if tokensOf sep word = [] then [sep] else path sep (tokensOf sep word) := by
  have hnormal := normal_normalPath h
  by_cases hroot : normalPath sep word = [sep]
  · have hnone : tokensOf sep word = [] := by
      rw [← tokensOf_normalPath, hroot, tokensOf_cons_self, tokensOf_nil]
    rw [hroot, if_pos hnone]
  · have hpath := hnormal.eq_path hroot
    rw [tokensOf_normalPath] at hpath
    have hsome : tokensOf sep word ≠ [] := by
      intro hnone
      rw [hnone, path_nil] at hpath
      rw [hpath] at hnormal
      cases hnormal.head
    rw [if_neg hsome, hpath]

/-! ### Adding and dropping separators -/

/-- Dropping a separator at the end leaves a word without repeated ones, and without another
one at its end, exactly if the word has no repeated ones. -/
theorem isChain_dropTrailing :
    (word.IsChain fun a b => ¬(a = sep ∧ b = sep)) ↔
      ((dropTrailing sep word).IsChain fun a b => ¬(a = sep ∧ b = sep)) ∧
        (dropTrailing sep word).getLast? ≠ some sep := by
  unfold dropTrailing
  split
  next hlast =>
    have hword : word.dropLast ++ [sep] = word := List.dropLast_append_getLast? sep hlast
    rw [← hword, List.isChain_append, List.dropLast_concat]
    constructor
    · intro ⟨hchain, _, hseam⟩
      exact ⟨hchain, fun hend => hseam sep hend sep rfl ⟨rfl, rfl⟩⟩
    · intro ⟨hchain, hend⟩
      refine ⟨hchain, .singleton sep, fun a ha b _ hab => hend ?_⟩
      rwa [hab.1] at ha
  next hlast => exact (and_iff_left hlast).symm

theorem dropTrailing_eq_root : dropTrailing sep word = [sep] ↔ word = [sep, sep] := by
  unfold dropTrailing
  split
  next hlast =>
    have hword : word.dropLast ++ [sep] = word := List.dropLast_append_getLast? sep hlast
    constructor
    · intro hroot
      rw [← hword, hroot]
      rfl
    · intro heq
      rw [heq]
      rfl
  next hlast =>
    constructor
    · intro heq
      rw [heq] at hlast
      exact absurd rfl hlast
    · intro heq
      rw [heq] at hlast
      exact absurd rfl hlast

/-- A nonempty word with a separator in front is a normal path if it has no repeated
separators and none at its end, or is the root. -/
theorem normal_addLeading_iff (hne : word ≠ []) :
    Normal sep (addLeading sep word) ↔
      (word.IsChain fun a b => ¬(a = sep ∧ b = sep)) ∧
        (word.getLast? = some sep → word = [sep]) := by
  unfold addLeading
  by_cases hhead : word.head? = some sep
  · rw [if_pos (.inr hhead)]
    exact ⟨fun h => ⟨h.chain, h.last⟩, fun h => ⟨hhead, h.1, h.2⟩⟩
  · rw [if_neg (not_or.mpr ⟨hne, hhead⟩)]
    have hseam : ∀ c ∈ word.head?, ¬(sep = sep ∧ c = sep) := fun c hc hboth =>
      hhead (hboth.2 ▸ hc)
    have hlast : (sep :: word).getLast? = word.getLast? := by
      rw [List.getLast?_cons, List.getLast?_eq_some_getLast hne]
      rfl
    have hroot : word ≠ [sep] := by
      rintro rfl
      exact hhead rfl
    constructor
    · intro h
      refine ⟨(List.isChain_cons.mp h.chain).2, fun hend => absurd ?_ hne⟩
      exact List.tail_eq_of_cons_eq (h.last (hlast.trans hend))
    · intro h
      exact ⟨rfl, List.isChain_cons.mpr ⟨hseam, h.1⟩,
        fun hend => absurd (h.2 (hlast.symm.trans hend)) hroot⟩

end Ros2Dispatcher.Tokens
