import Mathlib.Data.List.Destutter
import Mathlib.Data.List.TakeWhile

/-!
# Words made of tokens

A path over a separator `sep` is a word in which every token stands behind one `sep`:
`path sep [u, v] = sep :: u ++ sep :: v`. The operations are those an encoder and a decoder
of such names use: exchanging the separator for another letter (`substitute`), collapsing
runs of separators (`collapse`), and dropping or adding a letter at an end. Each of them has
one rule on paths:

* `substitute_substitute`: an exchange is undone by the opposite one, if the new letter
  does not occur in the word;
* `Proper.collapse_path`, `Proper.dropTrailing_path`: a path of proper tokens has nothing to
  collapse and no trailing separator;
* `path_append`: paths are joined by concatenation.

A word is cut into the pieces between its separators piece by piece (`splitOn_eq_cons`); they
begin at its front and behind each separator (`exists_mem_splitOn_iff`), also when its letters
are written in other letters (`splitOn_flatMap`). A word with delimiters in it is read line by
line (`getlines`), which leaves out an empty piece behind the last delimiter
(`splitOn_eq_getlines`).

Texts are trimmed of blank letters at their ends (`trim`), which leaves nothing only where
there is nothing else (`trim_ne_empty_iff`).
-/

namespace Ros2Dispatcher.Tokens

variable {α : Type} {a b sep : α} {word : List α} {tokens more : List (List α)}

/-! ### Paths -/

/-- The word in which each token stands behind a separator. -/
def path (sep : α) (tokens : List (List α)) : List α :=
  tokens.flatMap (sep :: ·)

@[simp]
theorem path_nil : path sep [] = [] :=
  rfl

@[simp]
theorem path_cons {token : List α} : path sep (token :: tokens) = sep :: token ++ path sep tokens :=
  rfl

theorem path_append : path sep (tokens ++ more) = path sep tokens ++ path sep more :=
  List.flatMap_append

@[simp]
theorem path_eq_nil : path sep tokens = [] ↔ tokens = [] := by
  cases tokens <;> simp

/-- A nonempty path begins with the separator. -/
theorem cons_tail_path (h : tokens ≠ []) : sep :: (path sep tokens).tail = path sep tokens := by
  cases tokens with
  | nil => exact absurd rfl h
  | cons token tokens => rfl

/-- A letter other than the separator that occurs in no token does not occur in the path. -/
theorem notMem_path (hne : a ≠ sep) (h : ∀ token ∈ tokens, a ∉ token) : a ∉ path sep tokens := by
  intro hmem
  obtain ⟨token, htoken, ha⟩ := List.mem_flatMap.mp hmem
  exact (List.mem_cons.mp ha).elim hne (h token htoken)

/-- Tokens that are nonempty and do not contain the separator. -/
def Proper (sep : α) (tokens : List (List α)) : Prop :=
  ∀ token ∈ tokens, token ≠ [] ∧ sep ∉ token

namespace Proper

/-- The last letter of a nonempty token behind the separator is one of the token. -/
private theorem getLast?_cons_ne {token : List α} (hne : token ≠ []) (hsep : sep ∉ token) :
    (sep :: token).getLast? ≠ some sep := by
  rw [List.getLast?_cons, List.getLast?_eq_some_getLast hne]
  intro heq
  refine hsep ?_
  rw [← Option.some.inj heq]
  exact List.getLast_mem hne

/-- A path of proper tokens does not end in the separator. -/
theorem getLast?_path_ne (h : Proper sep tokens) : (path sep tokens).getLast? ≠ some sep := by
  induction tokens with
  | nil => simp
  | cons token tokens ih =>
    obtain ⟨htoken, hrest⟩ := List.forall_mem_cons.mp h
    rw [path_cons, List.getLast?_append]
    cases hlast : (path sep tokens).getLast? with
    | none => exact getLast?_cons_ne htoken.1 htoken.2
    | some c => exact fun heq => ih hrest (hlast.trans heq)

/-- No two separators are next to each other. -/
theorem isChain_path (h : Proper sep tokens) :
    (path sep tokens).IsChain fun a b => ¬(a = sep ∧ b = sep) := by
  induction tokens with
  | nil => exact .nil
  | cons token tokens ih =>
    obtain ⟨⟨hne, hsep⟩, hrest⟩ := List.forall_mem_cons.mp h
    have hinner : ∀ c ∈ token, ∀ d ∈ token, ¬(c = sep ∧ d = sep) := fun c hc _ _ hcd =>
      hsep (hcd.1 ▸ hc)
    have htoken : token.IsChain fun a b => ¬(a = sep ∧ b = sep) :=
      (List.pairwise_of_forall_mem_list hinner).isChain
    rw [path_cons, List.isChain_append]
    refine ⟨List.isChain_cons.mpr ⟨fun c hc hcc => ?_, htoken⟩, ih hrest, fun c hc d _ hcd => ?_⟩
    · exact hsep (hcc.2 ▸ List.mem_of_mem_head? hc)
    · exact getLast?_cons_ne hne hsep (hcd.1 ▸ hc)

/-- Without its leading separator a path begins with the first letter of its first token. -/
theorem head?_tail_path_ne (h : Proper sep tokens) (htokens : tokens ≠ []) :
    (path sep tokens).tail ≠ [] ∧ (path sep tokens).tail.head? ≠ some sep := by
  cases tokens with
  | nil => exact absurd rfl htokens
  | cons token tokens =>
    obtain ⟨⟨hne, hsep⟩, -⟩ := List.forall_mem_cons.mp h
    cases token with
    | nil => exact absurd rfl hne
    | cons c token =>
      refine ⟨List.cons_ne_nil _ _, fun heq => hsep ?_⟩
      rw [← Option.some.inj heq]
      exact List.mem_cons_self

end Proper

/-- The first occurrence of a letter splits a word in one way. -/
theorem append_cons_inj {word' rest rest' : List α} (h : a ∉ word) (h' : a ∉ word')
    (heq : word ++ a :: rest = word' ++ a :: rest') : word = word' ∧ rest = rest' := by
  induction word generalizing word' with
  | nil =>
    cases word' with
    | nil => exact ⟨rfl, (List.cons.inj heq).2⟩
    | cons c word' => exact absurd ((List.cons.inj heq).1 ▸ List.mem_cons_self) h'
  | cons c word ih =>
    cases word' with
    | nil => exact absurd ((List.cons.inj heq).1 ▸ List.mem_cons_self) h
    | cons c' word' =>
      obtain ⟨hc, htail⟩ := List.cons.inj heq
      obtain ⟨hword, hrest⟩ := ih (fun hmem => h (List.mem_cons_of_mem _ hmem))
        (fun hmem => h' (List.mem_cons_of_mem _ hmem)) htail
      exact ⟨by rw [hc, hword], hrest⟩

/-! ### Operations -/

section Operations

variable [DecidableEq α]

/-- Exchange every `a` for `b`. -/
def substitute (a b : α) (word : List α) : List α :=
  word.map fun c => if c = a then b else c

/-- Keep the first letter of every run of `sep`. -/
def collapse (sep : α) (word : List α) : List α :=
  word.destutter fun a b => ¬(a = sep ∧ b = sep)

/-- Drop the first letter if it is `a`. -/
def dropLeading (a : α) (word : List α) : List α :=
  if word.head? = some a then word.tail else word

/-- Drop the last letter if it is `a`. -/
def dropTrailing (a : α) (word : List α) : List α :=
  if word.getLast? = some a then word.dropLast else word

/-- Put `a` in front of a nonempty word that does not begin with it. -/
def addLeading (a : α) (word : List α) : List α :=
  if word = [] ∨ word.head? = some a then word else a :: word

/-- Drop `start` from the front of a word that begins with it. -/
def dropStart (start word : List α) : List α :=
  if start.isPrefixOf word then word.drop start.length else word

/-- An exchange is undone by the opposite one, if the new letter does not occur. -/
theorem substitute_substitute (h : b ∉ word) : substitute b a (substitute a b word) = word := by
  have hsame : ∀ c ∈ word, (if (if c = a then b else c) = b then a else if c = a then b else c) =
      c := by
    intro c hc
    have hne : c ≠ b := fun heq => h (heq ▸ hc)
    by_cases hca : c = a
    · rw [if_pos hca, if_pos rfl, hca]
    · rw [if_neg hca, if_neg hne]
  rw [substitute, substitute, List.map_map]
  exact (List.map_congr_left hsame).trans (List.map_id' word)

@[simp]
theorem substitute_eq_nil : substitute a b word = [] ↔ word = [] := by
  rw [substitute, List.map_eq_nil_iff]

theorem dropStart_append {start : List α} : dropStart start (start ++ word) = word := by
  rw [dropStart, if_pos (List.isPrefixOf_iff_prefix.mpr (List.prefix_append start word)),
    List.drop_left]

/-- Nothing is left of an empty word and of the start itself. -/
theorem dropStart_eq_nil {start : List α} :
    dropStart start word = [] ↔ word = [] ∨ word = start := by
  unfold dropStart
  split
  next hstart =>
    obtain ⟨rest, rfl⟩ := List.isPrefixOf_iff_prefix.mp hstart
    rw [List.drop_left, List.append_eq_nil_iff, List.append_right_eq_self]
    exact ⟨.inr, fun h => h.elim And.right id⟩
  next hstart =>
    refine ⟨.inl, fun h => h.elim id fun heq => absurd ?_ hstart⟩
    rw [heq]
    exact List.isPrefixOf_iff_prefix.mpr (List.prefix_refl start)

theorem dropLeading_path (h : tokens ≠ []) :
    dropLeading sep (path sep tokens) = (path sep tokens).tail :=
  if_pos (by rw [← cons_tail_path h]; rfl)

@[simp]
theorem addLeading_eq_nil : addLeading a word = [] ↔ word = [] := by
  unfold addLeading
  split
  · exact Iff.rfl
  next hne => exact iff_of_false (List.cons_ne_nil _ _) fun hnil => hne (.inl hnil)

end Operations

/-! ### Pieces between separators -/

section Pieces

variable [DecidableEq α]

theorem dropWhile_ne_eq_nil_iff : word.dropWhile (· ≠ sep) = [] ↔ sep ∉ word := by
  rw [List.dropWhile_eq_nil_iff]
  constructor
  · exact fun h hmem => of_decide_eq_true (h sep hmem) rfl
  · exact fun h c hc => decide_eq_true fun heq => h (heq ▸ hc)

/-- A word is its first piece, alone or before a separator and the other pieces. -/
theorem splitOn_eq_cons (sep : α) (word : List α) :
    word.splitOn sep = word.takeWhile (· ≠ sep) ::
      if word.dropWhile (· ≠ sep) = [] then []
      else (word.dropWhile (· ≠ sep)).tail.splitOn sep := by
  induction word with
  | nil => rfl
  | cons c word ih =>
    rw [List.splitOn_cons_eq_if_modifyHead]
    by_cases hsep : c = sep
    · subst hsep
      simp
    · rw [if_neg (by simpa using hsep), List.takeWhile_cons_of_pos (by simpa using hsep),
        List.dropWhile_cons_of_pos (by simpa using hsep)]
      exact congrArg (List.modifyHead (List.cons c)) ih

/-- The first piece begins with the first letter, unless that is a separator. -/
theorem exists_mem_splitOn_iff_tail (hne : a ≠ sep) :
    (∃ piece ∈ word.splitOn sep, piece.head? = some a) ↔
      word.head? = some a ∨ ∃ piece ∈ (word.splitOn sep).tail, piece.head? = some a := by
  rw [splitOn_eq_cons, List.exists_mem_cons_iff, List.tail_cons, List.head?_takeWhile,
    Option.filter_eq_some_iff]
  simp [hne]

/-- Every other piece begins behind a separator. -/
theorem exists_mem_tail_splitOn_iff (hne : a ≠ sep) :
    (∃ piece ∈ (word.splitOn sep).tail, piece.head? = some a) ↔
      ∃ i, word[i]? = some sep ∧ word[i + 1]? = some a := by
  induction word with
  | nil => simp [List.splitOn_nil]
  | cons c word ih =>
    rw [List.splitOn_cons_eq_if_modifyHead, ← Nat.or_exists_add_one]
    by_cases hsep : c = sep
    · rw [if_pos (by simpa using hsep), List.tail_cons, exists_mem_splitOn_iff_tail hne, ih]
      simp [hsep, List.head?_eq_getElem?]
    · rw [if_neg (by simpa using hsep), List.tail_modifyHead, ih]
      simp [hsep]

/-- The pieces begin at the front and behind the separators. -/
theorem exists_mem_splitOn_iff (hne : a ≠ sep) :
    (∃ piece ∈ word.splitOn sep, piece.head? = some a) ↔
      ∃ i, word[i]? = some a ∧ (i = 0 ∨ word[i - 1]? = some sep) := by
  rw [exists_mem_splitOn_iff_tail hne, exists_mem_tail_splitOn_iff hne,
    ← Nat.or_exists_add_one (p := fun i => word[i]? = some a ∧ _)]
  simp [List.head?_eq_getElem?, and_comm]

/-- What has no separator in it stays before the first piece. -/
theorem splitOn_append_of_notMem {start : List α} (h : sep ∉ start) :
    (start ++ word).splitOn sep = (word.splitOn sep).modifyHead (start ++ ·) := by
  induction start with
  | nil => exact (congrFun List.modifyHead_id _).symm
  | cons c start ih =>
    obtain ⟨hc, hstart⟩ := not_or.mp (mt List.mem_cons.mpr h)
    rw [List.cons_append, List.splitOn_cons_eq_if_modifyHead, if_neg (by simpa using Ne.symm hc),
      ih hstart, List.modifyHead_modifyHead]
    rfl

/-- Words of letters that are written in other letters are cut where they were. -/
theorem splitOn_flatMap {β : Type} [DecidableEq β] {f : β → List α} {c : β} (hsep : f c = [sep])
    (hother : ∀ d ≠ c, sep ∉ f d) (word : List β) :
    (word.flatMap f).splitOn sep = (word.splitOn c).map (List.flatMap f) := by
  induction word with
  | nil => rfl
  | cons d word ih =>
    rw [List.flatMap_cons, List.splitOn_cons_eq_if_modifyHead]
    by_cases hd : d = c
    · rw [if_pos (by simpa using hd), hd, hsep, List.map_cons, ← ih]
      exact List.splitOn_append_cons_self_of_not_mem List.not_mem_nil _
    · rw [if_neg (by simpa using hd), splitOn_append_of_notMem (hother d hd), ih]
      -- the first piece grows on both sides
      cases word.splitOn c with
      | nil => rfl
      | cons piece pieces => rfl

end Pieces

/-! ### Lines -/

section Lines

variable [DecidableEq α]

/-- What `getline` reads up to each delimiter, until nothing is left. -/
def getlines (delim : α) (word : List α) : List (List α) :=
  if word = [] then []
  else word.takeWhile (· ≠ delim) :: getlines delim (word.dropWhile (· ≠ delim)).tail
termination_by word.length
decreasing_by
  have hlength := List.dropWhile_sublist (· ≠ delim) (l := word) |>.length_le
  have hpos := List.length_pos_iff.mpr ‹word ≠ []›
  rw [List.length_tail]
  omega

/-- Cutting at the delimiters gives the lines, and one more empty piece if the word ends there. -/
theorem splitOn_eq_getlines (delim : α) (word : List α) :
    word.splitOn delim = getlines delim word ∨
      word.splitOn delim = getlines delim word ++ [[]] := by
  fun_induction getlines delim word with
  | case1 => exact .inr (List.splitOn_nil delim)
  | case2 word hne ih =>
    rw [splitOn_eq_cons]
    by_cases hlast : word.dropWhile (· ≠ delim) = []
    · rw [if_pos hlast, hlast, List.tail_nil, getlines, if_pos rfl]
      exact .inl rfl
    · rw [if_neg hlast]
      exact ih.imp (congrArg _) (congrArg _)

end Lines

/-! ### Blank letters -/

/-- `isspace` in the "C" locale. -/
def isSpace (c : Char) : Bool :=
  c = ' ' || c = '\t' || c = '\n' || c = '\x0b' || c = '\x0c' || c = '\r'

/-- A text without the blank letters at its two ends. -/
def trim (text : String) : String :=
  String.ofList ((text.toList.dropWhile isSpace).reverse.dropWhile isSpace).reverse

/-- A text with a letter that is not blank. -/
def HasText (text : String) : Prop :=
  ∃ c ∈ text.toList, isSpace c = false

/-- A letter that is not blank is not dropped. -/
private theorem mem_dropWhile_isSpace {c : Char} {word : List Char} (hc : c ∈ word)
    (hspace : isSpace c = false) : c ∈ word.dropWhile isSpace := by
  rw [← List.takeWhile_append_dropWhile (p := isSpace) (l := word), List.mem_append] at hc
  rcases hc with hc | hc
  · rw [List.mem_takeWhile_imp hc] at hspace
    cases hspace
  · exact hc

/-- Trimming leaves nothing of a blank text only. -/
theorem trim_ne_empty_iff {text : String} : trim text ≠ "" ↔ HasText text := by
  have hempty : trim text = "" ↔
      (text.toList.dropWhile isSpace).reverse.dropWhile isSpace = [] := by
    rw [trim, ← String.toList_inj, String.toList_ofList, String.toList_empty,
      List.reverse_eq_nil_iff]
  constructor
  · intro hne
    by_contra hblank
    refine hne (hempty.mpr ?_)
    have hall : text.toList.dropWhile isSpace = [] :=
      List.dropWhile_eq_nil_iff.mpr fun c hc => by
        by_contra hspace
        exact hblank ⟨c, hc, Bool.eq_false_iff.mpr hspace⟩
    rw [hall]
    rfl
  · rintro ⟨c, hc, hspace⟩ heq
    have hmem : c ∈ (text.toList.dropWhile isSpace).reverse.dropWhile isSpace :=
      mem_dropWhile_isSpace (List.mem_reverse.mpr (mem_dropWhile_isSpace hc hspace)) hspace
    rw [hempty.mp heq] at hmem
    exact List.not_mem_nil hmem

end Ros2Dispatcher.Tokens
