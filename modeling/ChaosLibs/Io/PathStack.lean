import ChaosLibs.Io.PathText

/-!
# Paths are normalised on a stack

The reference for `chaos_io_normalize_path`: a path is split at its slashes, its components
are folded on a stack, and the stack is joined with slashes.  On absolute paths the text
that `chaos_io_normalize_path` has written is the join of this stack.
-/

namespace ChaosLibs.Io.PathStack

open ChaosLibs.Common.CString
open ChaosLibs.Io.PathText

/-! ## The reference -/

/-- A component folded on the stack of those before it; `..` of an empty stack is dropped. -/
def foldComponent (stack : List Bytes) (component : Bytes) : List Bytes :=
  if component = [] ∨ component = [byte '.'] then stack
  else if component = [byte '.', byte '.'] then stack.dropLast
  else stack ++ [component]

/-- The stack of a path. -/
def pathStack (path : Bytes) : List Bytes :=
  (path.splitOn (byte '/')).foldl foldComponent []

/-- A path split at its slashes, folded and joined again. -/
def normalized (path : Bytes) : Bytes :=
  (if IsAbsolute path then [byte '/'] else []) ++ [byte '/'].intercalate (pathStack path)

/-! ## Stacks -/

/-- The components that a stack keeps. -/
structure Kept (component : Bytes) : Prop where
  noSlash : byte '/' ∉ component
  ne_nil : component ≠ []
  ne_dot : component ≠ [byte '.']
  ne_dots : component ≠ [byte '.', byte '.']

/-- A stack joined below the root. -/
def render (stack : List Bytes) : Bytes :=
  byte '/' :: [byte '/'].intercalate stack

variable {stack : List Bytes} {component : Bytes}

theorem foldComponent_of_kept (kept : Kept component) :
    foldComponent stack component = stack ++ [component] := by
  rw [foldComponent, if_neg (not_or.mpr ⟨kept.ne_nil, kept.ne_dot⟩), if_neg kept.ne_dots]

/-- A stack of kept components is folded on a stack unchanged. -/
theorem foldl_of_kept {added : List Bytes} (kept : ∀ each ∈ added, Kept each) :
    added.foldl foldComponent stack = stack ++ added := by
  induction added generalizing stack with
  | nil => exact (List.append_nil stack).symm
  | cons first others induction =>
      rw [List.foldl_cons, foldComponent_of_kept (kept first List.mem_cons_self),
        induction fun each member => kept each (List.mem_cons_of_mem first member),
        List.append_assoc, List.singleton_append]

theorem kept_foldComponent (kept : ∀ each ∈ stack, Kept each)
    (noSlash : byte '/' ∉ component) : ∀ each ∈ foldComponent stack component, Kept each := by
  intro each member
  rw [foldComponent] at member
  split at member
  · exact kept each member
  · next visible =>
      rw [not_or] at visible
      split at member
      · exact kept each (List.dropLast_subset stack member)
      · next ne_dots =>
          rcases List.mem_append.mp member with below | top
          · exact kept each below
          · cases List.mem_singleton.mp top
            exact ⟨noSlash, visible.1, visible.2, ne_dots⟩

theorem intercalate_concat (joint : Bytes) (first : Bytes) (others : List Bytes)
    (component : Bytes) :
    joint.intercalate ((first :: others) ++ [component]) =
      joint.intercalate (first :: others) ++ (joint ++ component) := by
  induction others generalizing first with
  | nil =>
      rw [List.singleton_append, List.intercalate_cons_cons, List.intercalate_singleton,
        List.intercalate_singleton, List.append_assoc]
  | cons second others induction =>
      rw [List.cons_append, List.cons_append, List.intercalate_cons_cons,
        ← List.cons_append, induction second, List.intercalate_cons_cons]
      simp only [List.append_assoc]

theorem render_concat (stack : List Bytes) (component : Bytes) :
    render (stack ++ [component]) =
      (if stack = [] then [] else render stack) ++ byte '/' :: component := by
  cases stack with
  | nil =>
      rw [if_pos rfl, List.nil_append, List.nil_append, render, List.intercalate_singleton]
  | cons first others =>
      rw [if_neg (List.cons_ne_nil _ _), render, intercalate_concat, render]
      rfl

/-- Only the root is one byte long. -/
theorem one_lt_length_render (kept : ∀ each ∈ stack, Kept each) :
    1 < (render stack).length ↔ stack ≠ [] := by
  rcases List.eq_nil_or_concat stack with rfl | ⟨below, top, rfl⟩
  · exact iff_of_false (by decide) (fun some => some rfl)
  · rw [List.concat_eq_append] at kept ⊢
    have ne_nil := (kept top (List.mem_append_right below List.mem_cons_self)).ne_nil
    have := List.length_pos_iff.mpr ne_nil
    refine iff_of_true ?_ (List.append_ne_nil_of_right_ne_nil below (List.cons_ne_nil _ _))
    rw [render_concat, List.length_append, List.length_cons]
    omega

/-! ## What is written is the stack -/

theorem writeComponent_of_skipped {written : Bytes}
    (skipped : component = [] ∨ component = [byte '.']) :
    writeComponent written component = written :=
  if_pos (by simpa using skipped)

theorem writeComponent_of_named {written : Bytes} (ne_nil : component ≠ [])
    (ne_dot : component ≠ [byte '.']) (ne_dots : component ≠ [byte '.', byte '.']) :
    writeComponent written component =
      written ++ (if 1 < written.length then [byte '/'] else []) ++ component := by
  rw [writeComponent, if_neg (by simp [ne_nil, ne_dot]), if_neg ne_dots]
  split
  · rw [List.append_assoc, List.singleton_append]
  · rw [List.append_nil]

/-- Only slashes are written besides the bytes that are there. -/
theorem mem_dropComponent {written : Bytes} {ch : UInt8} (member : ch ∈ dropComponent written) :
    ch ∈ written ∨ ch = byte '/' := by
  rw [dropComponent] at member
  split at member
  · exact .inr (List.mem_singleton.mp member)
  · have kept := List.mem_of_mem_tail (List.mem_reverse.mp member)
    exact .inl (List.mem_reverse.mp ((List.dropWhile_sublist _).subset kept))

theorem mem_writeComponent {written : Bytes} {ch : UInt8}
    (member : ch ∈ writeComponent written component) :
    ch ∈ written ∨ ch ∈ component ∨ ch = byte '/' := by
  rw [writeComponent] at member
  split at member
  · exact .inl member
  · split at member
    · exact (mem_dropComponent member).imp_right .inr
    · split at member
      · rcases List.mem_append.mp member with before | added
        · exact .inl before
        · exact .inr (List.mem_cons.mp added).symm
      · exact (List.mem_append.mp member).imp_right .inl

theorem dropComponent_append {front : Bytes} (noSlash : byte '/' ∉ component) :
    dropComponent (front ++ byte '/' :: component) =
      if front = [] then [byte '/'] else front := by
  have walked : ((front ++ byte '/' :: component).reverse.dropWhile fun ch => ch != byte '/') =
      byte '/' :: front.reverse := by
    rw [List.reverse_append, List.reverse_cons, List.append_assoc,
      List.dropWhile_append_of_pos]
    · rfl
    · intro ch member
      exact bne_iff_ne.mpr fun same => noSlash (same ▸ List.mem_reverse.mp member)
  rw [dropComponent, walked]
  cases front with
  | nil => rfl
  | cons first others =>
      rw [if_neg (List.cons_ne_nil _ _)]
      simp

theorem dropComponent_render (kept : ∀ each ∈ stack, Kept each) :
    dropComponent (render stack) = render stack.dropLast := by
  rcases List.eq_nil_or_concat stack with rfl | ⟨below, top, rfl⟩
  · rfl
  · rw [List.concat_eq_append] at kept ⊢
    have noSlash := (kept top (List.mem_append_right below List.mem_cons_self)).noSlash
    rw [render_concat, dropComponent_append noSlash, List.dropLast_concat]
    cases below with
    | nil => rfl
    | cons first others => rfl

theorem writeComponent_render (kept : ∀ each ∈ stack, Kept each) (component : Bytes) :
    writeComponent (render stack) component = render (foldComponent stack component) := by
  rw [writeComponent, foldComponent]
  simp only [Bool.or_eq_true, decide_eq_true_eq]
  split
  · rfl
  · split
    · exact dropComponent_render kept
    · rw [render_concat]
      have nested := one_lt_length_render kept
      split
      · next long => rw [if_neg (nested.mp long)]
      · next short =>
          cases Classical.not_not.mp (mt nested.mpr short)
          rfl

theorem foldl_writeComponent {added : List Bytes} (kept : ∀ each ∈ stack, Kept each)
    (noSlash : ∀ each ∈ added, byte '/' ∉ each) :
    added.foldl writeComponent (render stack) = render (added.foldl foldComponent stack) := by
  induction added generalizing stack with
  | nil => rfl
  | cons first others induction =>
      rw [List.foldl_cons, List.foldl_cons, writeComponent_render kept]
      exact induction (kept_foldComponent kept (noSlash first List.mem_cons_self))
        fun each member => noSlash each (List.mem_cons_of_mem first member)

/-! ## The whole path -/

theorem components_eq_splitOn (path : Bytes) : components path = path.splitOn (byte '/') := by
  induction path with
  | nil => rfl
  | cons ch rest induction =>
      rw [components, List.splitOn_cons_eq_if_modifyHead, induction]
      split
      · rfl
      · cases split : rest.splitOn (byte '/') with
        | nil => exact absurd split (List.splitOn_ne_nil _ _)
        | cons first others => rfl

/-- Slashes in front of a component write nothing. -/
theorem foldl_dropWhile_slash (written text : Bytes) :
    ((text.dropWhile fun ch => ch == byte '/').splitOn (byte '/')).foldl writeComponent written =
      (text.splitOn (byte '/')).foldl writeComponent written := by
  induction text with
  | nil => rfl
  | cons ch rest induction =>
      rw [List.dropWhile_cons]
      split
      · next slash =>
          rw [induction, List.splitOn_cons_eq_if_modifyHead, if_pos slash, List.foldl_cons,
            writeComponent_of_skipped (.inl rfl)]
      · rfl

/-- The first component of a text is written before the others. -/
theorem foldl_component_append {written rest : Bytes} (noSlash : byte '/' ∉ component)
    (separated : rest = [] ∨ rest.head? = some (byte '/')) :
    ((component ++ rest).splitOn (byte '/')).foldl writeComponent written =
      (rest.splitOn (byte '/')).foldl writeComponent (writeComponent written component) := by
  rcases separated with rfl | slash
  · rw [List.append_nil, List.splitOn_eq_singleton noSlash, List.splitOn_nil, List.foldl_cons,
      List.foldl_cons, writeComponent_of_skipped (.inl rfl)]
  · obtain ⟨others, rfl⟩ := List.head?_eq_some_iff.mp slash
    rw [List.splitOn_append_cons_self_of_not_mem noSlash, List.splitOn_cons_eq_if_modifyHead,
      if_pos (beq_self_eq_true _), List.foldl_cons, List.foldl_cons,
      @writeComponent_of_skipped [] _ (.inl rfl)]

theorem noSlash_of_mem_splitOn {path : Bytes} :
    ∀ each ∈ path.splitOn (byte '/'), byte '/' ∉ each := by
  induction path with
  | nil => simp
  | cons ch rest induction =>
      intro each member
      rw [List.splitOn_cons_eq_if_modifyHead] at member
      split at member
      · rcases List.mem_cons.mp member with rfl | later
        · exact List.not_mem_nil
        · exact induction each later
      · next other =>
          cases split : rest.splitOn (byte '/') with
          | nil => exact absurd split (List.splitOn_ne_nil _ _)
          | cons first others =>
              rw [split] at member induction
              rcases List.mem_cons.mp member with rfl | later
              · rw [List.mem_cons, not_or]
                exact ⟨fun same => other (beq_iff_eq.mpr same.symm),
                  induction first List.mem_cons_self⟩
              · exact induction each (List.mem_cons_of_mem first later)

theorem pathStack_cons_slash (rest : Bytes) :
    pathStack (byte '/' :: rest) = (rest.splitOn (byte '/')).foldl foldComponent [] := by
  rw [pathStack, List.splitOn_cons_eq_if_modifyHead, if_pos (beq_self_eq_true _)]
  rfl

theorem kept_foldl {added : List Bytes} (kept : ∀ each ∈ stack, Kept each)
    (noSlash : ∀ each ∈ added, byte '/' ∉ each) :
    ∀ each ∈ added.foldl foldComponent stack, Kept each := by
  induction added generalizing stack with
  | nil => exact kept
  | cons first others induction =>
      exact induction (kept_foldComponent kept (noSlash first List.mem_cons_self))
        fun each member => noSlash each (List.mem_cons_of_mem first member)

/-- No component of a normalised path is empty, `.` or `..`. -/
theorem kept_pathStack (path : Bytes) : ∀ each ∈ pathStack path, Kept each :=
  kept_foldl (fun _ member => absurd member List.not_mem_nil) noSlash_of_mem_splitOn

theorem normalized_cons_slash (rest : Bytes) :
    normalized (byte '/' :: rest) = render (pathStack (byte '/' :: rest)) := by
  rw [normalized, if_pos (show IsAbsolute (byte '/' :: rest) from rfl),
    List.singleton_append, render]

theorem pathStack_render (kept : ∀ each ∈ stack, Kept each) : pathStack (render stack) = stack := by
  rw [render, pathStack_cons_slash]
  cases stack with
  | nil => rfl
  | cons first others =>
      rw [List.splitOn_intercalate (byte '/') (fun each member => (kept each member).noSlash)
        (List.cons_ne_nil _ _), foldl_of_kept kept, List.nil_append]

theorem chaosIoNormalizePath_eq_normalized {path : Bytes} (absolute : IsAbsolute path) :
    chaosIoNormalizePath path = normalized path := by
  obtain ⟨rest, rfl⟩ : ∃ rest, path = byte '/' :: rest :=
    List.head?_eq_some_iff.mp absolute
  have written := @foldl_writeComponent [] _ (fun _ member => absurd member List.not_mem_nil)
    (@noSlash_of_mem_splitOn rest)
  rw [chaosIoNormalizePath, if_pos (beq_self_eq_true _), components_eq_splitOn,
    normalized_cons_slash, pathStack_cons_slash]
  exact written

theorem chaosIoNormalizePath_of_relative {path : Bytes} (relative : ¬ IsAbsolute path) :
    chaosIoNormalizePath path = path := by
  cases path with
  | nil => rfl
  | cons ch rest =>
      rw [chaosIoNormalizePath, if_neg]
      intro slash
      exact relative (congrArg some (beq_iff_eq.mp slash))

theorem isAbsolute_render (stack : List Bytes) : IsAbsolute (render stack) :=
  rfl

/-- A path is normalised once. -/
theorem chaosIoNormalizePath_idem (path : Bytes) :
    chaosIoNormalizePath (chaosIoNormalizePath path) = chaosIoNormalizePath path := by
  by_cases absolute : IsAbsolute path
  · obtain ⟨rest, rfl⟩ : ∃ rest, path = byte '/' :: rest :=
      List.head?_eq_some_iff.mp absolute
    rw [chaosIoNormalizePath_eq_normalized absolute, normalized_cons_slash,
      chaosIoNormalizePath_eq_normalized (isAbsolute_render _), render, normalized_cons_slash,
      ← render, pathStack_render (kept_pathStack _)]
  · rw [chaosIoNormalizePath_of_relative absolute, chaosIoNormalizePath_of_relative absolute]

end ChaosLibs.Io.PathStack
