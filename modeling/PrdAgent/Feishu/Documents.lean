import PrdAgent.Feishu.Client

/-!
# What the client puts into the document

`renderMarkdown` draws one block for each line of text and one for each fenced piece of code. It
counts the blocks only when it adds a line of text, so code can take it over its limit
(`code_over_the_limit`).
-/

namespace PrdAgent.Feishu

open GoText PrdAgent.Runcontrol

/-! ## Rendering -/

def fences (line : String) : Bool := hasPrefix (trimSpace line) "\x60\x60\x60"

def blockText : Json → String
  | .obj [_, (_, .obj [(_, .arr [.obj [(_, .obj ((_, .str content) :: _))]]), _])] => content
  | _ => ""

def markers : List String := ["### ", "## ", "# ", "- "]

/-- What a reader is to see of a line outside of code: the line without outer blanks and without its
marker, if it has one. -/
def lineText (line : String) : String :=
  match markers.find? (hasPrefix (trimSpace line)) with
  | some marker => trimPrefix (trimSpace line) marker
  | none => trimSpace line

def codeBlock (code : List String) : List (Bool × Json) := (flushCode code []).map (false, ·)

/-- The blocks of the lines, without a limit. A block of a line of text is marked `true`. -/
def drawn : List String → Bool → List String → List (Bool × Json)
  | [], inCode, code => if inCode then codeBlock code else []
  | line :: rest, inCode, code =>
    if fences line then
      if inCode then codeBlock code ++ drawn rest false [] else drawn rest true code
    else if inCode then drawn rest inCode (code ++ [line])
    else if trimSpace line = "" then drawn rest inCode code
    else (true, lineBlock (trimSpace line)) :: drawn rest inCode code

/-- The lines a reader sees: all lines of code, and the text of every line outside of code that is
not blank. -/
def shownLines : List String → Bool → List String
  | [], _ => []
  | line :: rest, inCode =>
    if fences line then shownLines rest (!inCode)
    else if inCode then line :: shownLines rest inCode
    else if trimSpace line = "" then shownLines rest inCode
    else lineText line :: shownLines rest inCode

/-- The texts, each on lines of its own. -/
def unlines : List String → String
  | [] => ""
  | text :: rest => text ++ "\n" ++ unlines rest

variable {lines code : List String} {inCode : Bool}

theorem unlines_append (texts rest : List String) :
    unlines (texts ++ rest) = unlines texts ++ unlines rest := by
  induction texts with
  | nil => exact String.empty_append.symm
  | cons text texts ih =>
    rw [List.cons_append, unlines, unlines, ih]
    simp only [String.append_assoc]

theorem blockText_lineBlock (line : String) : blockText (lineBlock (trimSpace line)) = lineText line := by
  unfold lineText lineBlock markers
  simp only [List.find?_cons]
  cases hasPrefix (trimSpace line) "### "
  · cases hasPrefix (trimSpace line) "## "
    · cases hasPrefix (trimSpace line) "# "
      · cases hasPrefix (trimSpace line) "- " <;> rfl
      · rfl
    · rfl
  · rfl

theorem unlines_codeBlock (code : List String) :
    unlines ((codeBlock code).map (blockText ·.2)) = unlines code := by
  unfold codeBlock flushCode
  split
  · next empty => rw [empty]; rfl
  · next some =>
    change joinLines code ++ "\n" ++ "" = _
    induction code with
    | nil => exact absurd rfl some
    | cons line rest ih =>
      cases rest with
      | nil => rfl
      | cons next rest =>
        rw [joinLines, unlines, ← ih (List.cons_ne_nil _ _)]
        · simp only [String.append_assoc]
        · exact List.cons_ne_nil _ _

theorem unlines_drawn (fresh : inCode = false → code = []) :
    unlines ((drawn lines inCode code).map (blockText ·.2)) =
      unlines (code ++ shownLines lines inCode) := by
  induction lines generalizing inCode code with
  | nil =>
    cases inCode with
    | false => rw [fresh rfl]; rfl
    | true => rw [shownLines, List.append_nil]; exact unlines_codeBlock code
  | cons line rest ih =>
    by_cases fence : fences line = true
    · cases inCode with
      | true =>
        simp only [drawn, shownLines, fence, if_true, List.map_append, unlines_append,
          unlines_codeBlock, ih fun _ => rfl, Bool.not_true]
        rw [unlines, String.empty_append]
      | false =>
        cases fresh rfl
        simp only [drawn, shownLines, fence, if_true, Bool.false_eq_true, if_false, Bool.not_false]
        exact ih fun is => by cases is
    · cases inCode with
      | true =>
        simp only [drawn, shownLines, fence, if_true, Bool.false_eq_true, if_false]
        rw [ih (fun is => by cases is), List.append_assoc]
        rfl
      | false =>
        cases fresh rfl
        simp only [drawn, shownLines, fence, Bool.false_eq_true, if_false]
        split
        · exact ih fun _ => rfl
        · rw [List.map_cons, unlines, ih fun _ => rfl, blockText_lineBlock]
          rfl

/-- The blocks as far as the limit lets them: it is tested when a line of text is added. -/
def limited (blocks : List Json) (next : List (Bool × Json)) : Except ClientError (List Json) :=
  if true ∈ (next.drop (500 - blocks.length)).map Prod.fst then
    .error (providerError "DOCUMENT_TOO_LARGE")
  else .ok (blocks ++ next.map Prod.snd)

theorem mem_drop_cons {flag : Bool} {block : Json} {next : List (Bool × Json)} {n : Nat} :
    true ∈ (((flag, block) :: next).drop (500 - n)).map Prod.fst ↔
      (flag = true ∧ 500 ≤ n) ∨ true ∈ (next.drop (500 - (n + 1))).map Prod.fst := by
  rcases Nat.lt_or_ge n 500 with below | full
  · obtain ⟨k, is⟩ : ∃ k, 500 - n = k + 1 := ⟨499 - n, by omega⟩
    rw [is, show 500 - (n + 1) = k by omega, List.drop_succ_cons]
    simp [Nat.not_le.mpr below]
  · rw [Nat.sub_eq_zero_of_le full, Nat.sub_eq_zero_of_le (Nat.le_succ_of_le full)]
    simp only [List.drop_zero, List.map_cons, List.mem_cons, full, and_true, eq_comm (a := true)]

theorem limited_code (blocks : List Json) (code : List String) (next : List (Bool × Json)) :
    limited blocks (codeBlock code ++ next) = limited (flushCode code blocks) next := by
  unfold codeBlock flushCode
  split
  · rfl
  · refine if_congr (mem_drop_cons.trans ?_) rfl ?_
    · simp
    · simp

theorem limited_line (blocks : List Json) (block : Json) (next : List (Bool × Json)) :
    limited blocks ((true, block) :: next) =
      if (blocks ++ [block]).length > 500 then .error (providerError "DOCUMENT_TOO_LARGE")
      else limited (blocks ++ [block]) next := by
  have length : (blocks ++ [block]).length = blocks.length + 1 := List.length_append
  split
  · next large => exact if_pos (mem_drop_cons.mpr (.inl ⟨rfl, by omega⟩))
  · next within =>
    refine if_congr (mem_drop_cons.trans ?_) rfl ?_
    · rw [length]
      exact or_iff_right (by omega)
    · simp

theorem renderLines_eq (blocks : List Json) :
    renderLines lines inCode code blocks = limited blocks (drawn lines inCode code) := by
  induction lines generalizing inCode code blocks with
  | nil =>
    cases inCode with
    | false => simp [renderLines, drawn, limited]
    | true =>
      have last := limited_code blocks code []
      rw [List.append_nil] at last
      rw [drawn, if_pos rfl, last]
      simp [renderLines, limited]
  | cons line rest ih =>
    unfold renderLines drawn
    change (if fences line = true then _ else _) = _
    split
    · split
      · rw [ih, limited_code]
      · exact ih blocks
    · split
      · exact ih blocks
      · split
        · exact ih blocks
        · rw [limited_line]
          dsimp only
          split
          · rfl
          · exact ih _

def linesOf (markdown : String) : List String := splitLines (chars markdown) []

def drawing (markdown : String) : List (Bool × Json) := drawn (linesOf markdown) false []

theorem renderMarkdown_eq (markdown : String) :
    renderMarkdown markdown = limited [] (drawing markdown) :=
  renderLines_eq []

/-- Rendered blocks hold all the text of the input. They keep the limit just when the input makes at
most 500 blocks, or a line of text comes after 500 blocks. -/
theorem render_limit_iff (markdown : String) :
    (∀ blocks, renderMarkdown markdown = .ok blocks → blocks.length ≤ 500 ∧
      unlines (blocks.map blockText) = unlines (shownLines (linesOf markdown) false)) ↔
    (drawing markdown).length ≤ 500 ∨ true ∈ ((drawing markdown).drop 500).map Prod.fst := by
  rw [renderMarkdown_eq, limited]
  constructor
  · intro kept
    by_cases late : true ∈ ((drawing markdown).drop 500).map Prod.fst
    · exact .inr late
    · have short := (kept _ (if_neg late)).1
      rw [List.nil_append, List.length_map] at short
      exact .inl short
  · intro short blocks rendered
    split at rendered
    · cases rendered
    · next early =>
      cases rendered
      rw [List.nil_append, List.length_map, List.map_map]
      exact ⟨short.resolve_right early, unlines_drawn fun _ => rfl⟩

def manyPieces : String := unlines ((List.replicate 501 ["\x60\x60\x60", "x", "\x60\x60\x60"]).flatten)

theorem code_over_the_limit : (renderMarkdown manyPieces).toOption.map List.length = some 501 := by
  decide +kernel

end PrdAgent.Feishu
